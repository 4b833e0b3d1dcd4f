import GuardedQuery.Proofs.Catalog.Building
import GuardedQuery.Proofs.Roles

/-! # Inherited restrictions

An attribute can be used by a caller only if its entity can, in whatever order the two were
built. -/

namespace GuardedQuery

/-- Every attribute of an entity that was built by calls or loaded from a document is bound to its
entity. A caller may use it exactly if the caller may use the entity and passes the attribute's own
guard, by one role where both guards restrict. -/
theorem attribute_access_within_entity {e : Entity}
    (h : e.Built ∨ ∃ (document : CatalogDocument) (readers : LiteralReaders),
      e ∈ (document.toCatalog readers).entities) :
    ∀ a ∈ e.attributes,
      a.owner = some e.displayName ∧
      a.effectiveRoles = a.roles.restrictedBy e.roles ∧
      ∀ caller, Access.checkAttribute a caller = .ok () ↔
        Access.checkEntity e caller = .ok () ∧ a.roles.admits caller.roles = true ∧
          RoleSet.ShareRole a.roles e.roles caller.roles := by
  have hbuilt : e.Built := by
    rcases h with hbuilt | ⟨document, readers, he⟩
    · exact hbuilt
    · exact document.toCatalog_built readers e he
  intro a ha
  have hbinds := hbuilt.binds a ha
  refine ⟨hbinds.owner, hbinds.effectiveRoles, ?_⟩
  intro caller
  rw [Access.checkAttribute_eq_ok, Access.checkEntity_eq_ok, hbinds.effectiveRoles,
    RoleSet.admits_restrictedBy]

/-! ### Payroll -/

namespace Payroll

def salary : Attribute :=
  ((Attribute.new "salary" "Salary" .float64).withRoles "audit").withRoles "hr, Admin"

/-- An entity whose roles are set before and again after its attribute is added. -/
def employee : Entity :=
  (((Entity.new "Employee" "Employee").withRoles "hr").withAttribute salary).withRoles
    "admin, audit"

theorem employee_built : employee.Built := by
  have hsalary : salary.Built := ((Attribute.Built.new ..).withRoles _).withRoles _
  exact (((Entity.Built.new ..).withRoles _).withAttribute hsalary).withRoles _

end Payroll

/-- Only the administrator sees salaries: `hr` may not use the entity, and `audit` may not use the
attribute. -/
theorem salary_access_within_employee :
    Payroll.employee.Built ∧
      Payroll.salary.ownedBy "Employee" (.parse "admin, audit") ∈ Payroll.employee.attributes ∧
      (∀ a ∈ Payroll.employee.attributes,
        a.owner = some "Employee" ∧ a.effectiveRoles = .parse "admin") ∧
      (∀ a ∈ Payroll.employee.attributes,
        Access.checkAttribute a (.ofRoleList "admin") = .ok () ∧
        Access.checkEntity Payroll.employee (.ofRoleList "admin") = .ok ()) ∧
      ∀ a ∈ Payroll.employee.attributes, ∀ roles ∈ ["hr", "audit"],
        Access.checkAttribute a (.ofRoleList roles) ≠ .ok () := by
  have hwithin := attribute_access_within_entity (.inl Payroll.employee_built)
  have heffective : ∀ a ∈ Payroll.employee.attributes,
      a.roles.restrictedBy Payroll.employee.roles = .parse "admin" := by decide +kernel
  have hadmin : ∀ a ∈ Payroll.employee.attributes,
      a.effectiveRoles.admits (Caller.ofRoleList "admin").roles = true := by decide +kernel
  have hothers : ∀ a ∈ Payroll.employee.attributes, ∀ roles ∈ ["hr", "audit"],
      a.effectiveRoles.admits (Caller.ofRoleList roles).roles = false := by decide +kernel
  refine ⟨Payroll.employee_built, by decide +kernel, ?_, ?_, ?_⟩
  · intro a ha
    obtain ⟨howner, hroles, -⟩ := hwithin a ha
    exact ⟨howner, hroles.trans (heffective a ha)⟩
  · intro a ha
    obtain ⟨-, -, hcheck⟩ := hwithin a ha
    have hattribute := Access.checkAttribute_eq_ok.mpr (hadmin a ha)
    exact ⟨hattribute, ((hcheck _).mp hattribute).1⟩
  · intro a ha roles hroles hattribute
    rw [Access.checkAttribute_eq_ok, hothers a ha roles hroles] at hattribute
    cases hattribute

end GuardedQuery
