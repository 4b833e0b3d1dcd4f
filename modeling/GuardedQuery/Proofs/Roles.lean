import GuardedQuery.Access

/-! # Laws of guards

Which callers pass a guard, and which pass the guard of a part within a guarded whole. -/

namespace GuardedQuery

theorem Names.meets_eq_true {s t : Names} :
    s.meets t = true ↔ ∃ name ∈ t.names, name ∈ s.names := by
  rw [meets, List.any_eq_true]
  constructor
  · rintro ⟨name, hs, ht⟩
    exact ⟨name, by simpa using ht, hs⟩
  · rintro ⟨name, ht, hs⟩
    exact ⟨name, hs, by simpa using ht⟩

theorem Names.mem_inter {s t : Names} {name : String} :
    name ∈ (s.inter t).names ↔ name ∈ s.names ∧ name ∈ t.names := by
  simp [inter]

namespace RoleSet

/-- One of the roles is in both guards, where both restrict. -/
def ShareRole (own owner : RoleSet) (roles : Names) : Prop :=
  ∀ mine theirs, own = .restricted mine → owner = .restricted theirs →
    ∃ role ∈ roles.names, role ∈ mine.names ∧ role ∈ theirs.names

/-- The guard of a part within a guarded whole lets pass those who pass both guards, and pass them
by the same role. -/
theorem admits_restrictedBy {own owner : RoleSet} {roles : Names} :
    (own.restrictedBy owner).admits roles = true ↔
      owner.admits roles = true ∧ own.admits roles = true ∧ ShareRole own owner roles := by
  cases own with
  | unrestricted =>
      have hshare : ShareRole .unrestricted owner roles := by
        intro mine theirs hmine
        cases hmine
      simp only [restrictedBy, admits, hshare, and_true]
  | restricted mine =>
      cases owner with
      | unrestricted =>
          have hshare : ShareRole (.restricted mine) .unrestricted roles := by
            intro mine theirs _ htheirs
            cases htheirs
          simp only [restrictedBy, admits, true_and, hshare, and_true]
      | restricted theirs =>
          simp only [restrictedBy, admits, Names.meets_eq_true, Names.mem_inter]
          constructor
          · rintro ⟨role, hrole, hmine, htheirs⟩
            refine ⟨⟨role, hrole, htheirs⟩, ⟨role, hrole, hmine⟩, ?_⟩
            rintro _ _ ⟨⟩ ⟨⟩
            exact ⟨role, hrole, hmine, htheirs⟩
          · rintro ⟨-, -, hshare⟩
            exact hshare mine theirs rfl rfl

/-- Who has more roles passes whatever can be passed with fewer. -/
theorem admits_of_subset {s : RoleSet} {roles more : Names}
    (hsubset : ∀ role ∈ roles.names, role ∈ more.names) (h : s.admits roles = true) :
    s.admits more = true := by
  cases s with
  | unrestricted => rfl
  | restricted allowed =>
      rw [admits, Names.meets_eq_true] at h ⊢
      obtain ⟨role, hrole, hallowed⟩ := h
      exact ⟨role, hsubset role hrole, hallowed⟩

end RoleSet

namespace Access

variable {caller : Caller}

theorem checkEntity_eq_ok {e : Entity} :
    checkEntity e caller = .ok () ↔ e.roles.admits caller.roles = true := by
  rw [checkEntity, allowsEntity]
  split <;> simp_all

theorem checkAttribute_eq_ok {a : Attribute} :
    checkAttribute a caller = .ok () ↔ a.effectiveRoles.admits caller.roles = true := by
  rw [checkAttribute, allowsAttribute]
  split <;> simp_all

end Access

end GuardedQuery
