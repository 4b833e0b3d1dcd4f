import GuardedQuery.Catalog.Validation
import GuardedQuery.Query.Literal

/-! # Reading literals

A literal of a relationship is a list of texts, and any other literal is one value. A literal that
cannot be read is malformed, unless the reader of its type is missing. -/

namespace GuardedQuery.Literal

variable {a : Attribute} {literal : String} {readers : LiteralReaders} {l : ParsedLiteral}

theorem read_of_relationship (hrel : a.type.isRelationship = true) :
    read a literal readers =
      if items literal = [] then
        .error (.malformedLiteral a.displayName a.type.describe literal
          "expected at least one value")
      else .ok (.list ((items literal).map .string)) := by
  have hkind := ValueType.isRelationship_iff_kind.mp hrel
  simp only [read, hkind]
  cases items literal with
  | nil => rfl
  | cons item rest => rfl

/-- A list has at least one item. -/
theorem eq_list_of_read (hrel : a.type.isRelationship = true) (h : read a literal readers = .ok l) :
    items literal ≠ [] ∧ l = .list ((items literal).map .string) := by
  rw [read_of_relationship hrel] at h
  split at h
  · cases h
  · rename_i hitems
    exact ⟨hitems, (Except.ok.inj h).symm⟩

theorem eq_single_of_read (hplain : a.type.isRelationship = false)
    (h : read a literal readers = .ok l) : ∃ value, l = .single value := by
  cases hkind : a.type.kind with
  | relationship => simp [ValueType.isRelationship, hkind] at hplain
  | text =>
      simp only [read, hkind] at h
      exact ⟨_, (Except.ok.inj h).symm⟩
  | timestamp | date =>
      simp only [read, hkind] at h
      split at h
      · exact ⟨_, (Except.ok.inj h).symm⟩
      · cases h
  | number | boolean | custom =>
      simp only [read, hkind] at h
      split at h
      · cases h
      · split at h
        · exact ⟨_, (Except.ok.inj h).symm⟩
        · cases h

/-- Why a literal cannot be read. -/
theorem error_of_read {e : CompileError} (h : read a literal readers = .error e) :
    (∃ reason, e = .malformedLiteral a.displayName a.type.describe literal reason) ∨
      Catalog.needsReader a.type = true ∧ readers.contains a.type.tag = false ∧
        e = .unsupportedType a.displayName a.type.describe := by
  cases hkind : a.type.kind with
  | relationship =>
      have hrel := ValueType.isRelationship_iff_kind.mpr hkind
      rw [read_of_relationship hrel] at h
      split at h
      · exact .inl ⟨_, (Except.error.inj h).symm⟩
      · cases h
  | text =>
      simp only [read, hkind] at h
      cases h
  | timestamp | date =>
      simp only [read, hkind] at h
      split at h
      · cases h
      · exact .inl ⟨_, (Except.error.inj h).symm⟩
  | number | boolean | custom =>
      have hneeds : Catalog.needsReader a.type = true := by simp [Catalog.needsReader, hkind]
      simp only [read, hkind] at h
      split at h
      · rename_i hreader
        exact .inr ⟨hneeds, by simp [LiteralReaders.contains, hreader], (Except.error.inj h).symm⟩
      · split at h
        · cases h
        · exact .inl ⟨_, (Except.error.inj h).symm⟩

/-- A literal is one placeholder or a list of them. -/
theorem shape_of_read (h : read a literal readers = .ok l) :
    (∃ value, l = .single value) ∨ ∃ values, l = .list values := by
  by_cases hrel : a.type.isRelationship = true
  · exact .inr ⟨_, (eq_list_of_read hrel h).2⟩
  · exact .inl (eq_single_of_read (Bool.eq_false_iff.mpr hrel) h)

end GuardedQuery.Literal
