import GuardedQuery.Catalog.Validation
import GuardedQuery.Proofs.Except

/-! # What a valid catalog holds

The check of a catalog as conditions on its attributes, each of which can be read by itself. -/

namespace GuardedQuery

/-- What an attribute must satisfy by itself. Paths are asked of references and collections
(`ValueType.isRelationship_iff`), and readers of numbers, booleans and custom types
(`Catalog.needsReader_iff`). -/
structure Attribute.Valid (readers : LiteralReaders) (a : Attribute) : Prop where
  values_label : a.valuesQuery.isSome → a.labelPath?.isSome
  path : a.type.isRelationship → ∃ path, a.labelPath? = some path ∧
    2 ≤ (Text.split '.' path).length ∧ "" ∉ Text.split '.' path ∧
    (Text.split '.' path).head? = some a.name
  reader : Catalog.needsReader a.type → readers.contains a.type.tag

namespace Catalog

variable {readers : LiteralReaders} {e : Entity} {a : Attribute}

theorem checkPath_eq_ok :
    checkPath e a = .ok () ↔ ∃ path, a.labelPath? = some path ∧
      2 ≤ (Text.split '.' path).length ∧ "" ∉ Text.split '.' path ∧
      (Text.split '.' path).head? = some a.name := by
  rw [checkPath]
  cases a.labelPath? with
  | none => simp
  | some path =>
      simp only [Option.some.injEq, exists_eq_left']
      by_cases hhops : (Text.split '.' path).length < 2 ∨ "" ∈ Text.split '.' path
      · rw [if_pos hhops]
        constructor
        · intro h
          cases h
        · rintro ⟨hlength, hempty, -⟩
          rcases hhops with hshort | hmem
          · omega
          · exact absurd hmem hempty
      · rw [if_neg hhops]
        obtain ⟨hlength, hempty⟩ := not_or.mp hhops
        have hlong : 2 ≤ (Text.split '.' path).length := by omega
        by_cases hhead : (Text.split '.' path).head? = some a.name
        · simp [hhead, hlong, hempty]
        · simp [hhead]

/-- The check of an attribute passes exactly if nothing is wrong with it. -/
theorem checkAttribute_eq_ok : checkAttribute readers e a = .ok () ↔ a.Valid readers := by
  have hlast : (if needsReader a.type = true ∧ ¬ readers.contains a.type.tag = true then
      Except.error (CatalogError.unsupportedType e.displayName a.displayName a.type.tag)
      else pure ()) = .ok () ↔
        (needsReader a.type = true → readers.contains a.type.tag = true) := by
    by_cases hneeds : needsReader a.type = true ∧ ¬ readers.contains a.type.tag = true
    · simp [hneeds]
    · rw [if_neg hneeds]
      simp only [not_and, not_not] at hneeds
      exact ⟨fun _ => hneeds, fun _ => rfl⟩
  unfold checkAttribute
  rw [except_ite_bind_eq_ok, except_ite_bind_eq_ok, checkPath_eq_ok, hlast]
  constructor
  · rintro ⟨hvalues, hpath, hreader⟩
    refine ⟨?_, hpath, hreader⟩
    intro hquery
    by_contra hnone
    cases hvalues ⟨hquery, by simpa using hnone⟩
  · intro hvalid
    refine ⟨?_, hvalid.path, hvalid.reader⟩
    rintro ⟨hquery, hnone⟩
    have hlabel := hvalid.values_label hquery
    simp [Option.isNone_iff_eq_none.mp hnone] at hlabel

end Catalog

end GuardedQuery
