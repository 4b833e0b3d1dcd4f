import GuardedQuery.Text.Blank
import Mathlib.Data.List.Basic

/-! # Trimming

Trimming takes away exactly the blanks that stand around a text whose own ends are not blank. -/

namespace GuardedQuery.Text

/-- Neither end of the text is blank. -/
structure Bare (cs : List Char) : Prop where
  head : ∀ c ∈ cs.head?, isBlank c = false
  last : ∀ c ∈ cs.getLast?, isBlank c = false

theorem bare_of_no_blank {cs : List Char} (h : ∀ c ∈ cs, isBlank c = false) : Bare cs where
  head c hc := h c (List.mem_of_mem_head? hc)
  last c hc := h c (List.mem_of_mem_getLast? hc)

theorem dropBlank_of_head (cs : List Char) (h : ∀ c ∈ cs.head?, isBlank c = false) :
    dropBlank cs = cs := by
  cases cs with
  | nil => rfl
  | cons c cs => simp [dropBlank, h c rfl]

theorem dropBlank_append {front : List Char} (h : ∀ c ∈ front, isBlank c = true)
    (cs : List Char) : dropBlank (front ++ cs) = dropBlank cs :=
  List.dropWhile_append_of_pos h

theorem dropBlankEnd_append {back : List Char} (h : ∀ c ∈ back, isBlank c = true)
    (cs : List Char) : dropBlankEnd (cs ++ back) = dropBlankEnd cs := by
  have hback : ∀ c ∈ back.reverse, isBlank c = true := fun c hc => h c (List.mem_reverse.mp hc)
  rw [dropBlankEnd, List.reverse_append, dropBlank_append hback, dropBlankEnd]

theorem dropBlankEnd_of_last {cs : List Char} (h : ∀ c ∈ cs.getLast?, isBlank c = false) :
    dropBlankEnd cs = cs := by
  have hhead : ∀ c ∈ cs.reverse.head?, isBlank c = false := by
    rw [List.head?_reverse]
    exact h
  rw [dropBlankEnd, dropBlank_of_head cs.reverse hhead, List.reverse_reverse]

/-- Blanks around a bare text are trimmed, and nothing else. -/
theorem trimChars_append_append {front cs back : List Char} (hcs : Bare cs)
    (hfront : ∀ c ∈ front, isBlank c = true) (hback : ∀ c ∈ back, isBlank c = true) :
    trimChars (front ++ cs ++ back) = cs := by
  rw [trimChars, List.append_assoc, dropBlank_append hfront]
  cases cs with
  | nil =>
      have hnil : dropBlank back = [] :=
        (dropBlank_eq_nil_iff back).mpr (List.all_eq_true.mpr hback)
      rw [List.nil_append, hnil]
      rfl
  | cons c cs =>
      rw [dropBlank_of_head (c :: cs ++ back) hcs.head, dropBlankEnd_append hback,
        dropBlankEnd_of_last hcs.last]

/-- Blanks around any text do not change what trimming leaves of it. -/
theorem trimChars_of_blank_around {front back : List Char} (hfront : ∀ c ∈ front, isBlank c = true)
    (hback : ∀ c ∈ back, isBlank c = true) (cs : List Char) :
    trimChars (front ++ cs ++ back) = trimChars cs := by
  rw [trimChars, trimChars, List.append_assoc, dropBlank_append hfront]
  by_cases hcs : dropBlank cs = []
  · have hall : ∀ c ∈ cs, isBlank c = true :=
      List.all_eq_true.mp ((dropBlank_eq_nil_iff cs).mp hcs)
    rw [dropBlank_append hall, hcs, (dropBlank_eq_nil_iff back).mpr (List.all_eq_true.mpr hback)]
  · have hrest : dropBlank (cs ++ back) = dropBlank cs ++ back := by
      rw [dropBlank, List.dropWhile_append, if_neg (by simpa [dropBlank] using hcs)]
      rfl
    rw [hrest, dropBlankEnd_append hback]

end GuardedQuery.Text
