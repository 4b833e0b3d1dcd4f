import GuardedQuery.Proofs.Catalog.Validity
import GuardedQuery.Query.Draft
import Mathlib.Data.List.Basic

/-! # Joins along a label path

The hops of a label path are joined one after another, but for the last one, which is the field that
is compared. -/

namespace GuardedQuery

/-- There is at least one hop to join, and all hops of the path are joined but the last. -/
theorem Draft.joinsOf?_eq_some {path label : String} {joins : List String} :
    joinsOf? path = some (joins, label) ↔ joins ≠ [] ∧ joins ++ [label] = Text.split '.' path := by
  rw [joinsOf?]
  constructor
  · intro h
    split at h
    · rename_i hop hops last hdrop hlast
      obtain ⟨rfl, rfl⟩ := Prod.mk.inj (Option.some.inj h)
      refine ⟨List.cons_ne_nil _ _, ?_⟩
      rw [← hdrop]
      exact List.dropLast_append_getLast? _ hlast
    · cases h
  · rintro ⟨hne, hsplit⟩
    obtain ⟨hop, hops, rfl⟩ := List.exists_cons_of_ne_nil hne
    rw [← hsplit, List.dropLast_concat, List.getLast?_concat]

/-- The hops and the field of a path are pieces of it. -/
theorem Draft.mem_of_joinsOf? {path field : String} {hops : List String}
    (h : joinsOf? path = some (hops, field)) {name : String} (hname : name ∈ field :: hops)
    {char : Char} (hchar : char ∈ name.toList) : char ∈ path.toList := by
  have hsplit : name ∈ Text.split '.' path := by
    rw [← (joinsOf?_eq_some.mp h).2, List.mem_append, List.mem_singleton]
    exact (List.mem_cons.mp hname).symm
  obtain ⟨piece, hpiece, rfl⟩ := List.mem_map.mp hsplit
  rw [String.toList_ofList] at hchar
  exact Text.mem_of_mem_cut hpiece hchar

/-- An alias is made of the alias of the records asked for and digits. -/
theorem Draft.forall_mem_joinAlias {P : Char → Prop} (hroot : P 'x') (hdigit : ∀ d : Digit, P d.char)
    (number : Nat) : ∀ c ∈ joinAlias number, P c := by
  intro c hc
  simp only [joinAlias, rootAlias, Digit.chars, List.mem_append, List.mem_map,
    List.mem_singleton] at hc
  rcases hc with rfl | ⟨d, -, rfl⟩
  · exact hroot
  · exact hdigit d

theorem Draft.notMem_joinAlias {c : Char} (hroot : 'x' ≠ c) (hdigit : ∀ d : Digit, d.char ≠ c)
    (number : Nat) : c ∉ joinAlias number := by
  intro hc
  exact forall_mem_joinAlias (P := (· ≠ c)) hroot hdigit number c hc rfl

/-- The path of a valid relationship can be joined. It starts with the attribute. -/
theorem Attribute.Valid.exists_joins {readers : LiteralReaders} {a : Attribute}
    (h : a.Valid readers) (hrel : a.type.isRelationship = true) :
    ∃ path hops label, a.labelPath? = some path ∧
      Draft.joinsOf? path = some (a.name :: hops, label) ∧
      Text.split '.' path = a.name :: hops ++ [label] ∧ "" ∉ a.name :: hops ++ [label] := by
  obtain ⟨path, hpath, hlength, hempty, hhead⟩ := h.path hrel
  obtain ⟨hops, label, hsplit⟩ : ∃ hops label, Text.split '.' path = a.name :: hops ++ [label] := by
    obtain ⟨rest, hrest⟩ := List.head?_eq_some_iff.mp hhead
    rw [hrest] at hlength ⊢
    have hne : rest ≠ [] := by
      rintro rfl
      simp at hlength
    refine ⟨rest.dropLast, rest.getLast hne, ?_⟩
    rw [List.cons_append, List.dropLast_append_getLast]
  refine ⟨path, hops, label, hpath, ?_, hsplit, hsplit ▸ hempty⟩
  exact Draft.joinsOf?_eq_some.mpr ⟨List.cons_ne_nil _ _, hsplit.symm⟩

end GuardedQuery
