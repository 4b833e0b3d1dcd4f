import GuardedQuery.Proofs.Results.Projection
import GuardedQuery.Proofs.Service.Authorization

/-! # Callers that may use more

Two callers over one catalog, of whom the second may use whatever the first may use. All that the
first one is granted is granted to the second one as well, and looks the same. -/

namespace GuardedQuery

/-- Whatever a caller may use of a catalog, the other may use as well. -/
structure Catalog.AllowsAlso (c : Catalog) (caller other : Caller) : Prop where
  entity : ∀ e ∈ c.entities,
    Access.checkEntity e caller = .ok () → Access.checkEntity e other = .ok ()
  attr : ∀ e ∈ c.entities, ∀ a ∈ e.attributes,
    Access.checkAttribute a caller = .ok () → Access.checkAttribute a other = .ok ()

/-- More roles are never in the way. -/
theorem Catalog.allowsAlso_of_roles (c : Catalog) {caller other : Caller}
    (hroles : ∀ role ∈ caller.roles.names, role ∈ other.roles.names) :
    c.AllowsAlso caller other where
  entity e _ := by
    rw [Access.checkEntity_eq_ok, Access.checkEntity_eq_ok]
    exact RoleSet.admits_of_subset hroles
  attr e _ a _ := by
    rw [Access.checkAttribute_eq_ok, Access.checkAttribute_eq_ok]
    exact RoleSet.admits_of_subset hroles

/-- What a token refers to is part of the catalog. -/
theorem Catalog.mem_of_reference? {c : Catalog} {front : List Token} {t : Token} {r : Reference}
    (h : c.reference? front t = some r) :
    (∃ e ∈ c.entities, r = .entity e) ∨ ∃ e ∈ c.entities, ∃ a ∈ e.attributes, r = .attr a := by
  unfold reference? at h
  split at h
  · obtain ⟨e, he, rfl⟩ := Option.map_eq_some_iff.mp h
    exact .inl ⟨e, List.mem_of_find?_eq_some he, rfl⟩
  · obtain ⟨a, ha, rfl⟩ := Option.map_eq_some_iff.mp h
    obtain ⟨e, he, ha⟩ := Option.bind_eq_some_iff.mp ha
    rw [← entity_of_eq_entityBehind?] at he
    exact .inr ⟨e, Context.entity_mem_of c front e he, a, Entity.mem_of_attribute? ha, rfl⟩
  · cases h

/-- The roles of a caller play no part in compiling, only the values of the scope do. -/
theorem Catalog.compile_congr (c : Catalog) {caller other : Caller}
    (hscope : ∀ name, caller.scope? name = other.scope? name) (tokens : List Token) :
    c.compile caller tokens = c.compile other tokens := by
  unfold compile Draft.finish Draft.addFilter Draft.bindFilter
  simp only [hscope]

/-- Two listings that are part of each other are one. -/
theorem except_toOption_eq_of_sublist {ε α : Type} {x y : Except ε (List α)}
    (h : ∀ names, x = .ok names → ∃ others, y = .ok others ∧ names.Sublist others)
    (hback : ∀ names, y = .ok names → ∃ others, x = .ok others ∧ names.Sublist others) :
    x.toOption = y.toOption := by
  cases hx : x with
  | ok names =>
      obtain ⟨others, hy, hsublist⟩ := h names hx
      obtain ⟨names', hx', hsublist'⟩ := hback others hy
      rw [hx] at hx'
      cases hx'
      rw [hy, hsublist.antisymm hsublist']
  | error e =>
      cases hy : y with
      | ok others =>
          obtain ⟨names, hx', -⟩ := hback others hy
          rw [hx] at hx'
          cases hx'
      | error e' => rfl

theorem filter_eq_filter_filter {α : Type} {p q : α → Bool} {xs : List α}
    (h : ∀ x ∈ xs, p x = true → q x = true) : xs.filter p = (xs.filter q).filter p := by
  rw [List.filter_filter]
  apply List.filter_congr
  intro x hx
  cases hp : p x with
  | false => simp
  | true => simp [h x hx hp]

namespace Catalog.AllowsAlso

variable {c : Catalog} {caller other : Caller} (h : c.AllowsAlso caller other)
include h

theorem checkReference {front : List Token} {t : Token}
    (hcheck : c.checkReference caller front t = .ok ()) :
    c.checkReference other front t = .ok () := by
  rw [Catalog.checkReference] at hcheck ⊢
  cases hreference : c.reference? front t with
  | none => rfl
  | some r =>
      rw [hreference] at hcheck
      rcases mem_of_reference? hreference with ⟨e, he, rfl⟩ | ⟨e, he, a, ha, rfl⟩
      · exact h.entity e he hcheck
      · exact h.attr e he a ha hcheck

/-- A query that is admitted for the first caller is admitted for the second one. -/
theorem checkTokens {tokens : List Token} (hcheck : Access.checkTokens c caller tokens = .ok ()) :
    Access.checkTokens c other tokens = .ok () := by
  rw [Access.checkTokens_eq_ok] at hcheck ⊢
  intro front t rest htokens
  exact h.checkReference (hcheck front t rest htokens)

theorem compileTokens (hscope : ∀ name, caller.scope? name = other.scope? name)
    {tokens : List Token} {call : CompiledQuery}
    (hcall : Service.compileTokens c caller tokens = .ok call) :
    Service.compileTokens c other tokens = .ok call := by
  rw [Service.compileTokens_eq_ok] at hcall ⊢
  exact ⟨h.checkTokens hcall.1, c.compile_congr hscope tokens ▸ hcall.2⟩

/-! ## Parts of the catalog -/

theorem filter_entities :
    c.entities.filter (Access.allowsEntity · caller) =
      (c.entities.filter (Access.allowsEntity · other)).filter (Access.allowsEntity · caller) := by
  apply filter_eq_filter_filter
  intro e he hallows
  exact Access.checkEntity_eq_ok.mp (h.entity e he (Access.checkEntity_eq_ok.mpr hallows))

theorem filter_attributesFor {e : Entity} (he : e ∈ c.entities) (purpose : Purpose) :
    (e.attributesFor purpose).filter (Access.allowsAttribute · caller) =
      ((e.attributesFor purpose).filter (Access.allowsAttribute · other)).filter
        (Access.allowsAttribute · caller) := by
  apply filter_eq_filter_filter
  intro a ha hallows
  have hmem := Entity.mem_of_mem_attributesFor ha
  exact Access.checkAttribute_eq_ok.mp
    (h.attr e he a hmem (Access.checkAttribute_eq_ok.mpr hallows))

/-- The columns shown to the first caller are some of those shown to the second one. -/
theorem columns_eq_filter {e : Entity} (he : e ∈ c.entities) (order : AttributeOrder) :
    Results.columns e caller order =
      (Results.columns e other order).filter (Access.allowsAttribute · caller) := by
  rw [Results.columns, Results.columns, h.filter_attributesFor he]
  cases order with
  | declared => rfl
  | reverse => exact List.filter_reverse.symm

theorem entity_eq_ok {name : String} {e : Entity} (he : Service.entity c caller name = .ok e) :
    Service.entity c other name = .ok e := by
  have hmem := Service.mem_of_entity_eq_ok he
  rw [Service.entity_eq_ok] at he ⊢
  exact ⟨he.1, h.entity e hmem he.2⟩

theorem attr_eq_ok {entityName name : String} {e : Entity} {a : Attribute}
    (he : Service.entity c caller entityName = .ok e) (ha : Service.attr e caller name = .ok a) :
    Service.attr e other name = .ok a := by
  have hmem := Service.mem_of_entity_eq_ok he
  rw [Service.attr_eq_ok] at ha ⊢
  exact ⟨ha.1, h.attr e hmem a (Entity.mem_of_attribute? ha.1) ha.2⟩

/-- What is computed from an entity and an attribute that were looked up is the same. -/
theorem lookup_eq_ok {β : Type} {entityName attributeName : String}
    {f : Entity → Attribute → Except ServiceError β} {b : β}
    (hb : (Service.entity c caller entityName >>= fun e =>
      Service.attr e caller attributeName >>= f e) = .ok b) :
    (Service.entity c other entityName >>= fun e =>
      Service.attr e other attributeName >>= f e) = .ok b := by
  obtain ⟨e, he, hb⟩ := except_bind_eq_ok.mp hb
  obtain ⟨a, ha, hb⟩ := except_bind_eq_ok.mp hb
  rw [h.entity_eq_ok he, except_ok_bind, h.attr_eq_ok he ha, except_ok_bind]
  exact hb

/-! ## Listings -/

variable {s : Service} (hcatalog : s.catalog = .ok c)
include hcatalog

theorem entityNames {names : List String} (hnames : s.entityNames caller = .ok names) :
    ∃ others, s.entityNames other = .ok others ∧ names.Sublist others := by
  rw [Service.entityNames, hcatalog] at hnames ⊢
  cases hnames
  refine ⟨_, rfl, ?_⟩
  rw [h.filter_entities]
  exact List.filter_sublist.map _

theorem attributeNames {entityName : String} {names : List String}
    (hnames : s.attributeNames caller entityName = .ok names) :
    ∃ others, s.attributeNames other entityName = .ok others ∧ names.Sublist others := by
  rw [Service.attributeNames, hcatalog, except_ok_bind, except_bind_eq_ok] at hnames
  obtain ⟨e, he, hnames⟩ := hnames
  cases hnames
  have hmem := Service.mem_of_entity_eq_ok he
  refine ⟨_, by rw [Service.attributeNames, hcatalog, except_ok_bind, h.entity_eq_ok he]; rfl, ?_⟩
  rw [h.filter_attributesFor hmem]
  exact List.filter_sublist.map _

theorem operatorNames {entityName attributeName : String} {names : List String}
    (hnames : s.operatorNames caller entityName attributeName = .ok names) :
    s.operatorNames other entityName attributeName = .ok names := by
  rw [Service.operatorNames, hcatalog, except_ok_bind] at hnames ⊢
  exact h.lookup_eq_ok hnames

theorem choiceSubject {entityName attributeName operatorName : String}
    {subject : Entity × Attribute × Option Control}
    (hsubject : s.choiceSubject caller entityName attributeName operatorName = .ok subject) :
    s.choiceSubject other entityName attributeName operatorName = .ok subject := by
  rw [Service.choiceSubject, hcatalog, except_ok_bind] at hsubject ⊢
  exact h.lookup_eq_ok hsubject

end Catalog.AllowsAlso

/-! ## Callers that may use the same -/

/-- Two callers pass the same checks. -/
structure Catalog.ChecksAlike (c : Catalog) (caller other : Caller) : Prop where
  entity : ∀ e ∈ c.entities,
    Access.checkEntity e caller = .ok () ↔ Access.checkEntity e other = .ok ()
  attr : ∀ e ∈ c.entities, ∀ a ∈ e.attributes,
    Access.checkAttribute a caller = .ok () ↔ Access.checkAttribute a other = .ok ()
  tokens : ∀ tokens,
    Access.checkTokens c caller tokens = .ok () ↔ Access.checkTokens c other tokens = .ok ()

/-- Two callers get the same from each listing, or both get nothing. -/
structure Service.ListsAlike (s : Service) (caller other : Caller) : Prop where
  entityNames : (s.entityNames caller).toOption = (s.entityNames other).toOption
  attributeNames : ∀ entityName,
    (s.attributeNames caller entityName).toOption = (s.attributeNames other entityName).toOption
  operatorNames : ∀ entityName attributeName,
    (s.operatorNames caller entityName attributeName).toOption =
      (s.operatorNames other entityName attributeName).toOption
  choices : ∀ store entityName attributeName operatorName,
    (s.choices store caller entityName attributeName operatorName).result.toOption =
        (s.choices store other entityName attributeName operatorName).result.toOption ∧
      (s.choices store caller entityName attributeName operatorName).calls =
        (s.choices store other entityName attributeName operatorName).calls

namespace Catalog.AllowsAlso

variable {c : Catalog} {caller other : Caller} (h : c.AllowsAlso caller other)
  (hback : c.AllowsAlso other caller)
include h hback

theorem checksAlike : c.ChecksAlike caller other where
  entity e he := ⟨h.entity e he, hback.entity e he⟩
  attr e he a ha := ⟨h.attr e he a ha, hback.attr e he a ha⟩
  tokens _ := ⟨h.checkTokens, hback.checkTokens⟩

/-- Each name of either listing is in the other one, in the same order. -/
theorem listsAlike {s : Service} (hcatalog : s.catalog = .ok c) : s.ListsAlike caller other where
  entityNames := by
    apply except_toOption_eq_of_sublist
    · exact fun names => h.entityNames hcatalog
    · exact fun names => hback.entityNames hcatalog
  attributeNames entityName := by
    apply except_toOption_eq_of_sublist
    · exact fun names => h.attributeNames hcatalog
    · exact fun names => hback.attributeNames hcatalog
  operatorNames entityName attributeName := by
    apply except_toOption_eq
    intro names
    exact ⟨h.operatorNames hcatalog, hback.operatorNames hcatalog⟩
  choices store entityName attributeName operatorName := by
    rw [Service.choices, Service.choices]
    cases hcaller : s.choiceSubject caller entityName attributeName operatorName with
    | ok subject =>
        rw [h.choiceSubject hcatalog hcaller]
        exact ⟨rfl, rfl⟩
    -- without a subject the store is not asked, and only the reasons may differ
    | error e =>
        cases hother : s.choiceSubject other entityName attributeName operatorName with
        | ok subject =>
            rw [hback.choiceSubject hcatalog hother] at hcaller
            cases hcaller
        | error e' => exact ⟨rfl, rfl⟩

end Catalog.AllowsAlso

end GuardedQuery
