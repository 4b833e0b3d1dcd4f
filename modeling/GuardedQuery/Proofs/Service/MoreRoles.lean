import GuardedQuery.Proofs.Service.WiderAccess

/-! # Callers with more roles

A caller with more roles and the same scope is granted all that a caller with fewer roles is granted.
What the two are shown differs by names that the one with fewer roles may not see. -/

namespace GuardedQuery

/-! ## Columns -/

/-- The names of the attributes that a caller may not use. -/
def Entity.hiddenFrom (e : Entity) (caller : Caller) : List String :=
  (e.attributes.filter fun a => !Access.allowsAttribute a caller).map (·.displayName)

/-- An attribute may be used if it is not among the names of those that may not, because no two have
one name. -/
theorem Entity.allowsAttribute_iff_notMem_hiddenFrom {e : Entity}
    (hnodup : (e.attributes.map (·.displayName)).Nodup) {a : Attribute} (ha : a ∈ e.attributes)
    (caller : Caller) :
    Access.allowsAttribute a caller = true ↔ a.displayName ∉ e.hiddenFrom caller := by
  simp only [hiddenFrom, List.mem_map, List.mem_filter, Bool.not_eq_true', not_exists, not_and,
    and_imp]
  constructor
  · intro hallows b hb hdenied hname
    rw [List.inj_on_of_nodup_map hnodup hb ha hname, hallows] at hdenied
    cases hdenied
  · intro h
    by_contra hdenied
    exact h a ha (by simpa using hdenied) rfl

/-- Over a valid catalog, who has more roles and the same scope passes every check that is passed
with fewer, compiles the same queries to the same calls, and is listed the same names in the same
order, and maybe more between them. Records with fewer roles are those with more roles without the
entries of the attributes that fewer roles do not show. -/
theorem more_roles_grant_more {c : Catalog} (hvalid : c.validate = .ok ()) {caller other : Caller}
    (hscope : ∀ name, caller.scope? name = other.scope? name)
    (hroles : ∀ role ∈ caller.roles.names, role ∈ other.roles.names) :
    (∀ tokens, Access.checkTokens c caller tokens = .ok () →
      Access.checkTokens c other tokens = .ok ()) ∧
    (∀ s : Service, s.catalog = .ok c →
      (∀ q call, (s.compile caller q).1 = .ok call →
        s.compile other q = (.ok call, ⟨q.tokens, some call⟩)) ∧
      (∃ names others, s.entityNames caller = .ok names ∧ s.entityNames other = .ok others ∧
        names.Sublist others) ∧
      ∀ entityName names, s.attributeNames caller entityName = .ok names →
        ∃ others, s.attributeNames other entityName = .ok others ∧ names.Sublist others) ∧
    ∀ e ∈ c.entities, ∀ order rows results, Results.ofRows e other order rows = .ok results →
      Results.ofRows e caller order rows = .ok (results.without (e.hiddenFrom caller)) := by
  have hmore := c.allowsAlso_of_roles hroles
  refine ⟨fun tokens => hmore.checkTokens, ?_, ?_⟩
  · intro s hcatalog
    refine ⟨?_, ?_, fun entityName names => hmore.attributeNames hcatalog⟩
    · intro q call hcall
      rw [Service.compile_of_catalog_eq_ok hcatalog] at hcall ⊢
      rw [hmore.compileTokens hscope hcall]
      rfl
    · have hnames : ∃ names, s.entityNames caller = .ok names := by
        rw [Service.entityNames, hcatalog]
        exact ⟨_, rfl⟩
      obtain ⟨names, hnames⟩ := hnames
      obtain ⟨others, hothers, hsublist⟩ := hmore.entityNames hcatalog hnames
      exact ⟨names, others, hnames, hothers, hsublist⟩
  · intro e he order rows results hresults
    have hnodup := Catalog.nodup_attributeNames hvalid he
    refine Results.ofRows_filter (hmore.columns_eq_filter he order)
      (Results.nodup_columns hnodup other order) ?_ hresults
    intro a ha
    exact e.allowsAttribute_iff_notMem_hiddenFrom hnodup
      (Entity.mem_of_mem_attributesFor (Results.mem_columns.mp ha).1) caller

/-! ### Salaries seen by a guest -/

namespace Staff

def guest : Caller := .ofRoleList "guest"

/-- A guest who is in `hr` as well. -/
def clerk : Caller := .ofRoleList "hr, guest"

def ann : Row := [("name", .scalar (.string "Ann")), ("salary", .scalar (.int32 1000))]

/-- Names are asked for, which a guest may do. -/
def named : Query :=
  .ofTokens [⟨.find, "find"⟩, ⟨.entity, "Employee"⟩, ⟨.having, "having"⟩, ⟨.attr, "Name"⟩,
    ⟨.operator, "="⟩, ⟨.value, "Ann"⟩]

def namedCall : CompiledQuery :=
  ⟨"SELECT DISTINCT x FROM Employee x WHERE x.name = ?", [.string "Ann"]⟩

theorem compile_named : (service.compile guest named).1 = .ok namedCall := by
  rw [Service.compile_of_catalog_eq_ok rfl]
  exact Service.compileTokens_eq_ok.mpr ⟨by decide +kernel, by decide +kernel⟩

end Staff

/-- A guest sees of a record what a clerk sees of it, but for the salary. -/
theorem ann_seen_by_guest :
    Staff.catalog.validate = .ok () ∧
      (∀ role ∈ Staff.guest.roles.names, role ∈ Staff.clerk.roles.names) ∧
      Results.ofRows Staff.employee Staff.clerk .reverse [Staff.ann] =
        .ok ⟨"Employee", [⟨[("Salary", .int32 1000), ("Name", .string "Ann")]⟩]⟩ ∧
      Staff.employee.hiddenFrom Staff.guest = ["Salary"] ∧
      Results.ofRows Staff.employee Staff.guest .reverse [Staff.ann] =
        .ok ⟨"Employee", [⟨[("Name", .string "Ann")]⟩]⟩ ∧
      (Staff.service.compile Staff.clerk Staff.named).1 = .ok Staff.namedCall := by
  have hroles : ∀ role ∈ Staff.guest.roles.names, role ∈ Staff.clerk.roles.names := by
    decide +kernel
  have hclerk : Results.ofRows Staff.employee Staff.clerk .reverse [Staff.ann] =
      .ok ⟨"Employee", [⟨[("Salary", .int32 1000), ("Name", .string "Ann")]⟩]⟩ := by
    decide +kernel
  have hhidden : Staff.employee.hiddenFrom Staff.guest = ["Salary"] := by decide +kernel
  have hscope : ∀ name, Staff.guest.scope? name = Staff.clerk.scope? name := by
    simp only [Staff.guest, Staff.clerk, Caller.ofRoleList, Caller.ofRoles, Caller.scope?,
      implies_true]
  obtain ⟨-, hservice, hrecords⟩ := more_roles_grant_more Staff.valid hscope hroles
  refine ⟨Staff.valid, hroles, hclerk, hhidden, ?_, ?_⟩
  · rw [hrecords _ (List.mem_singleton_self _) _ _ _ hclerk, hhidden]
    decide +kernel
  · rw [(hservice Staff.service rfl).1 _ _ Staff.compile_named]

end GuardedQuery
