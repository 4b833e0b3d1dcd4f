/-! # Pieces of a text

A text cut at every occurrence of one character. There is always at least one piece, and joining the
pieces with the character gives the text back. -/

namespace GuardedQuery.Text

/-- The pieces between the occurrences of `sep`, which may be empty. -/
def cut (sep : Char) : List Char → List (List Char)
  | [] => [[]]
  | c :: cs =>
    if c = sep then [] :: cut sep cs
    else
      match cut sep cs with
      | [] => [[c]]
      | piece :: pieces => (c :: piece) :: pieces

/-- The pieces of a string between the occurrences of `sep`. -/
def split (sep : Char) (s : String) : List String :=
  (cut sep s.toList).map String.ofList

/-- The text before and after the first occurrence of `sep`, if it occurs. -/
def cutOnce (sep : Char) : List Char → Option (List Char × List Char)
  | [] => none
  | c :: cs =>
    if c = sep then some ([], cs)
    else (cutOnce sep cs).map fun (before, after) => (c :: before, after)

/-- The string before and after the first occurrence of `sep`, if it occurs. -/
def splitOnce (sep : Char) (s : String) : Option (String × String) :=
  (cutOnce sep s.toList).map fun (before, after) => (String.ofList before, String.ofList after)

theorem cut_ne_nil (sep : Char) (cs : List Char) : cut sep cs ≠ [] := by
  cases cs with
  | nil => simp [cut]
  | cons c cs =>
      simp only [cut]
      split
      · simp
      · split <;> simp

/-- A cut adds no characters. -/
theorem mem_of_mem_cut {sep c : Char} {cs piece : List Char} (hpiece : piece ∈ cut sep cs)
    (hc : c ∈ piece) : c ∈ cs := by
  induction cs generalizing piece with
  | nil => simp_all [cut]
  | cons d cs ih =>
      rw [cut] at hpiece
      split at hpiece
      · rcases List.mem_cons.mp hpiece with rfl | hpiece
        · simp at hc
        · exact List.mem_cons_of_mem d (ih hpiece hc)
      · split at hpiece
        · simp_all
        · rename_i first pieces hcut
          rcases List.mem_cons.mp hpiece with rfl | hpiece
          · rcases List.mem_cons.mp hc with rfl | hc
            · exact List.mem_cons_self
            · exact List.mem_cons_of_mem d (ih (by simp [hcut]) hc)
          · exact List.mem_cons_of_mem d (ih (by simp [hcut, hpiece]) hc)

theorem split_ne_nil (sep : Char) (s : String) : split sep s ≠ [] := by
  simp [split, cut_ne_nil]

end GuardedQuery.Text
