import Mathlib.Data.List.Basic

/-! # Elements behind others

The elements of a list, each together with those before it, for rules that depend on what came
first. A list that grows at its end keeps what was before each of its elements. -/

namespace GuardedQuery

variable {α β : Type}

/-- The elements of a list, each with those before it. -/
def withEarlier : List α → List (List α × α)
  | [] => []
  | x :: xs => ([], x) :: (withEarlier xs).map fun (before, y) => (x :: before, y)

theorem map_snd_withEarlier (xs : List α) : (withEarlier xs).map Prod.snd = xs := by
  induction xs with
  | nil => rfl
  | cons x xs ih =>
      rw [withEarlier, List.map_cons, List.map_map]
      exact congrArg (x :: ·) ih

/-- What is asked of an element alone is asked of all elements. -/
theorem forall_withEarlier_snd {P : α → Prop} {xs : List α} :
    (∀ p ∈ withEarlier xs, P p.2) ↔ ∀ x ∈ xs, P x := by
  rw [← List.forall_mem_map (f := Prod.snd), map_snd_withEarlier]

/-- Names are distinct if no element has the name of an earlier one. -/
theorem nodup_map_iff_withEarlier {name : α → β} {xs : List α} :
    (xs.map name).Nodup ↔ ∀ p ∈ withEarlier xs, name p.2 ∉ p.1.map name := by
  induction xs with
  | nil => simp [withEarlier]
  | cons x xs ih =>
      have hfirst : name x ∉ xs.map name ↔ ∀ p ∈ withEarlier xs, name p.2 ≠ name x := by
        rw [forall_withEarlier_snd (P := (name · ≠ name x)), List.mem_map]
        simp only [not_exists, not_and, ne_eq]
      rw [List.map_cons, List.nodup_cons, hfirst, ih, withEarlier, List.forall_mem_cons,
        List.forall_mem_map, ← forall₂_and]
      simp only [List.map_nil, List.not_mem_nil, not_false_eq_true, true_and, List.map_cons,
        List.mem_cons, not_or, ne_eq]

/-- An element of a list with one more is the last one, or one of those before. -/
theorem concat_eq_append_cons {xs front back : List α} {x y : α} :
    xs ++ [y] = front ++ x :: back ↔
      xs = front ∧ y = x ∧ back = [] ∨ ∃ rest, xs = front ++ x :: rest ∧ back = rest ++ [y] := by
  constructor
  · intro h
    rcases List.eq_nil_or_concat' back with rfl | ⟨rest, last, rfl⟩
    · obtain ⟨hfront, hlast⟩ := List.append_inj' h rfl
      exact .inl ⟨hfront, List.singleton_inj.mp hlast, rfl⟩
    · rw [← List.cons_append, ← List.append_assoc] at h
      obtain ⟨hfront, hlast⟩ := List.append_inj' h rfl
      exact .inr ⟨rest, hfront, hlast ▸ rfl⟩
  · rintro (⟨rfl, rfl, rfl⟩ | ⟨rest, rfl, rfl⟩)
    · rfl
    · rw [List.append_assoc, List.cons_append]

end GuardedQuery
