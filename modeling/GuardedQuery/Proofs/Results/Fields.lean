import GuardedQuery.Proofs.Except
import GuardedQuery.Results.Label

/-! # Fields along a path

How a label is found: a record leads on to one of its fields, and a list to all of its elements. -/

namespace GuardedQuery

/-- Induction over the fields that can be read: those of a record by their names, and the elements
of a list. -/
@[elab_as_elim]
theorem Field.induction {P : Field → Prop} (scalar : ∀ v, P (.scalar v))
    (record : ∀ fields, (∀ name f, fields.lookup name = some f → P f) → P (.record fields))
    (list : ∀ items, (∀ f ∈ items, P f) → P (.list items)) (f : Field) : P f := by
  match f with
  | .scalar v => exact scalar v
  | .record fields =>
      apply record fields
      intro name g hg
      obtain ⟨before, after, hfields, -⟩ := List.lookup_eq_some_iff.mp hg
      have hmem : (name, g) ∈ fields := by simp [hfields]
      have hsize := List.sizeOf_lt_of_mem hmem
      exact Field.induction scalar record list g
  | .list items =>
      apply list items
      intro g hg
      have hsize := List.sizeOf_lt_of_mem hg
      exact Field.induction scalar record list g
termination_by sizeOf f
decreasing_by
  · simp only [Field.record.sizeOf_spec, Prod.mk.sizeOf_spec] at hsize ⊢
    omega
  · simp only [Field.list.sizeOf_spec] at hsize ⊢
    omega

namespace Label

theorem resolve_null (hops : List String) : resolve hops (.scalar .null) = .ok .null := by
  rw [resolve]

theorem resolve_scalar (hops : List String) (v : Value) :
    resolve hops (.scalar v) =
      if v = .null ∨ hops = [] then .ok v else .error .scalarBeforeEnd := by
  by_cases hnull : v = .null
  · rw [if_pos (.inl hnull), hnull, resolve_null]
  · have hresolve : resolve hops (.scalar v) =
        if hops.isEmpty then .ok v else .error .scalarBeforeEnd := by
      cases v with
      | null => exact absurd rfl hnull
      | _ => rw [resolve]; intro h; cases h
    rw [hresolve]
    cases hops with
    | nil => simp
    | cons hop hops => simp [hnull]

theorem resolve_record_cons (hop : String) (hops : List String) (fields : List (String × Field)) :
    resolve (hop :: hops) (.record fields) =
      match fields.lookup hop with
      | some f => resolve hops f
      | none => .error (.missingField hop) := by
  rw [resolve]
  induction fields with
  | nil => rfl
  | cons field fields ih =>
      obtain ⟨name, f⟩ := field
      rw [resolveHop, List.lookup_cons, ih]
      by_cases h : hop = name
      · simp [h]
      · have hne : (hop == name) = false := by simpa using h
        simp only [h, if_false, hne]

/-- The labels of a list: the texts of the values found, without the empty ones. -/
def texts (values : List Value) : List String :=
  (values.map Value.text).filter (· ≠ "")

theorem resolveAll_eq (hops : List String) (fs : List Field) :
    resolveAll hops fs = (fs.mapM (resolve hops)).map texts := by
  induction fs with
  | nil => rfl
  | cons f fs ih =>
      rw [resolveAll, List.mapM_cons, ih]
      cases resolve hops f with
      | error e => rfl
      | ok value =>
          cases fs.mapM (resolve hops) with
          | error e => rfl
          | ok values =>
              by_cases h : value.text = ""
              · simp [texts, h]
              · simp [texts, h]

theorem resolve_list (hops : List String) (items : List Field) :
    resolve hops (.list items) =
      (items.mapM (resolve hops)).map fun values =>
        .string (String.intercalate separator (texts values)) := by
  rw [resolve, resolveAll_eq]
  cases items.mapM (resolve hops) with
  | error e => rfl
  | ok values => rfl

end Label

end GuardedQuery
