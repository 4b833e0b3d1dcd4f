import GuardedQuery.Proofs.Catalog.Names
import GuardedQuery.Proofs.Earlier
import GuardedQuery.Proofs.Query.Failure
import GuardedQuery.Proofs.Roles
import GuardedQuery.Proofs.Service.Restriction

/-! # What the listings offer

The listings filter the entities and attributes of a catalog, and a query looks names up in it. Over
a valid catalog the two agree: the names that a caller is offered are those that the caller's queries
are not refused for. -/

namespace GuardedQuery

/-! ## Refusals -/

namespace ServiceError

/-- A query is refused for an entity: access is denied, or the entity is unknown. -/
def RefusesEntity : ServiceError → Prop
  | .denied _ | .compile (.unknownEntity _ _) => True
  | _ => False

/-- A query is refused for an entity or an attribute. -/
def RefusesAttribute : ServiceError → Prop
  | .denied _ | .compile (.unknownEntity _ _) | .compile (.unknownAttribute _ _ _) => True
  | _ => False

theorem RefusesEntity.refusesAttribute {error : ServiceError} (h : error.RefusesEntity) :
    error.RefusesAttribute := by
  unfold RefusesEntity at h
  split at h
  · exact trivial
  · exact trivial
  · cases h

end ServiceError

/-- The failure of a token refuses it only for an entity or an attribute that it does not refer
to. -/
theorem Fails.reference?_eq_none {c : Catalog} {front : List Token} {position : Nat} {token : Token}
    {error : CompileError} (h : Fails c (.of c front) position token error)
    (hrefuses : (ServiceError.compile error).RefusesAttribute) :
    (token.kind = .entity ∨ token.kind = .attr) ∧ c.reference? front token = none := by
  cases h with
  | entity hkind he => simp [hkind, Catalog.reference?, he]
  | attr hkind he ha =>
      rw [Catalog.entity_of_eq_entityBehind?] at he
      simp [hkind, Catalog.reference?, he, ha]
  | literal _ _ hl =>
      rcases Literal.error_of_read hl with ⟨reason, rfl⟩ | ⟨-, -, rfl⟩
      · cases hrefuses
      · cases hrefuses
  | _ => cases hrefuses

theorem Access.checkTokens_of_admits {c : Catalog} {caller : Caller} {tokens : List Token}
    (h : c.Admits caller tokens) : checkTokens c caller tokens = .ok () := by
  rw [checkTokens_eq_ok]
  intro front t rest htokens
  rw [Catalog.checkReference]
  cases hreference : c.reference? front t with
  | none => rfl
  | some r =>
      have hkind : t.kind = .entity ∨ t.kind = .attr := by
        unfold Catalog.reference? at hreference
        split at hreference
        · exact .inl ‹_›
        · exact .inr ‹_›
        · cases hreference
      obtain ⟨r', hr', hcheck⟩ := h front t rest htokens hkind
      rw [hreference] at hr'
      cases hr'
      exact hcheck

theorem Catalog.admits_nil {c : Catalog} {caller : Caller} : c.Admits caller [] := by
  intro front t rest htokens
  simp at htokens

/-- Tokens are admitted one after another. -/
theorem Catalog.admits_concat {c : Catalog} {caller : Caller} {tokens : List Token} {token : Token} :
    c.Admits caller (tokens ++ [token]) ↔
      c.Admits caller tokens ∧ (token.kind = .entity ∨ token.kind = .attr →
        ∃ r, c.reference? tokens token = some r ∧ r.check caller = .ok ()) := by
  constructor
  · intro h
    refine ⟨?_, h tokens token [] rfl⟩
    rintro front t rest rfl
    exact h front t (rest ++ [token]) (by simp)
  · rintro ⟨htokens, htoken⟩ front t rest heq
    rcases concat_eq_append_cons.mp heq with ⟨rfl, rfl, -⟩ | ⟨others, hothers, -⟩
    · exact htoken
    · exact htokens front t others hothers

namespace Service

variable {s : Service} {c : Catalog} {caller : Caller}

/-- A query that refers only to what the caller may use is not refused, whatever else is wrong with
it. -/
theorem not_refuses_of_admits {tokens : List Token} (hadmits : c.Admits caller tokens)
    {error : ServiceError} (h : compileTokens c caller tokens = .error error) :
    ¬ error.RefusesAttribute := by
  rw [compileTokens, Access.checkTokens_of_admits hadmits, except_mapError_ok, except_ok_bind,
    except_mapError_eq_error] at h
  obtain ⟨error, hcompile, rfl⟩ := h
  intro hrefuses
  rcases Catalog.error_of_compile hcompile with
    ⟨front, token, rest, htokens, -, hfails⟩ | ⟨ps, hreads, hfinish⟩
  · obtain ⟨hkind, hnone⟩ := hfails.reference?_eq_none hrefuses
    obtain ⟨r, hr, -⟩ := hadmits front token rest htokens hkind
    rw [hnone] at hr
    cases hr
  · rcases Sheet.error_of_finish (hreads.nearJoins_eq_nil rfl 1) hfinish with
      ⟨-, rfl⟩ | ⟨e, filter, -, -, ⟨name, rfl⟩ | ⟨⟨offset, rfl⟩, -⟩⟩
    all_goals cases hrefuses

/-- No error of such a query refuses it, whatever form it was compiled to before. -/
def LetsThrough (s : Service) (caller : Caller) (tokens : List Token)
    (Refuses : ServiceError → Prop) : Prop :=
  ∀ stored error, (s.compile caller ⟨tokens, stored⟩).1 = .error error → ¬ Refuses error

theorem letsThrough_iff (hcatalog : s.catalog = .ok c) {tokens : List Token}
    {Refuses : ServiceError → Prop} :
    s.LetsThrough caller tokens Refuses ↔
      ∀ error, compileTokens c caller tokens = .error error → ¬ Refuses error := by
  simp [LetsThrough, compile_of_catalog_eq_ok hcatalog]

/-! ## Queries of one name -/

/-- A query for all records of an entity. -/
def namingEntity (find entityName : String) : List Token :=
  [⟨.find, find⟩, ⟨.entity, entityName⟩]

/-- The start of a query for the records of an entity with a condition on an attribute. -/
def namingAttribute (find entityName having attributeName : String) : List Token :=
  [⟨.find, find⟩, ⟨.entity, entityName⟩, ⟨.having, having⟩, ⟨.attr, attributeName⟩]

variable {find having entityName attributeName : String}

/-- Tokens that do not compile fail for this reason, or because access is denied. -/
theorem compileTokens_of_compile_eq_error {tokens : List Token} {error : CompileError}
    (h : c.compile caller tokens = .error error) :
    compileTokens c caller tokens = .error (.compile error) ∨
      ∃ denial, compileTokens c caller tokens = .error (.denied denial) := by
  rw [compileTokens, h]
  cases Access.checkTokens c caller tokens with
  | error denial => exact .inr ⟨denial, rfl⟩
  | ok _ => exact .inl rfl

/-- A query whose entity cannot be looked up is refused, whatever follows. -/
theorem exists_refusal_of_entity {lookup : ServiceError}
    (h : entity c caller entityName = .error lookup) (rest : List Token) :
    ∃ error, compileTokens c caller (namingEntity find entityName ++ rest) = .error error ∧
      error.RefusesEntity := by
  cases he : c.entity? entityName with
  | none =>
      have hcompile : c.compile caller (namingEntity find entityName ++ rest) =
          .error (.unknownEntity entityName 1) := by
        simp [Catalog.compile, namingEntity, Draft.steps, Draft.step, he]
      rcases compileTokens_of_compile_eq_error hcompile with herror | ⟨denial, herror⟩
      · exact ⟨_, herror, trivial⟩
      · exact ⟨_, herror, trivial⟩
  | some e =>
      cases hcheck : Access.checkEntity e caller with
      | ok _ => simp [entity, he, hcheck] at h
      | error denial =>
          refine ⟨.denied denial, ?_, trivial⟩
          simp [compileTokens, namingEntity, Access.checkTokens, Access.checkTokensFrom, he, hcheck]

/-- So is one whose attribute cannot be looked up. -/
theorem exists_refusal_of_attr {e : Entity} (he : entity c caller entityName = .ok e)
    {lookup : ServiceError} (h : attr e caller attributeName = .error lookup) (rest : List Token) :
    ∃ error, compileTokens c caller
        (namingAttribute find entityName having attributeName ++ rest) = .error error ∧
      error.RefusesAttribute := by
  obtain ⟨he, hentity⟩ := entity_eq_ok.mp he
  cases ha : e.attribute? attributeName .query with
  | none =>
      have hcompile : c.compile caller
          (namingAttribute find entityName having attributeName ++ rest) =
            .error (.unknownAttribute e.displayName attributeName 3) := by
        simp [Catalog.compile, namingAttribute, Draft.steps, Draft.step, he, Draft.startEntity,
          Draft.startFilter, Draft.write, ha]
      rcases compileTokens_of_compile_eq_error hcompile with herror | ⟨denial, herror⟩
      · exact ⟨_, herror, trivial⟩
      · exact ⟨_, herror, trivial⟩
  | some a =>
      cases hcheck : Access.checkAttribute a caller with
      | ok _ => simp [attr, ha, hcheck] at h
      | error denial =>
          refine ⟨.denied denial, ?_, trivial⟩
          simp [compileTokens, namingAttribute, Access.checkTokens, Access.checkTokensFrom, he,
            hentity, ha, hcheck]

theorem admits_namingEntity {e : Entity} (he : entity c caller entityName = .ok e) :
    c.Admits caller (namingEntity find entityName) := by
  obtain ⟨he, hcheck⟩ := entity_eq_ok.mp he
  have hfind : c.Admits caller [⟨.find, find⟩] :=
    Catalog.admits_concat.mpr ⟨Catalog.admits_nil, by simp⟩
  refine Catalog.admits_concat.mpr ⟨hfind, fun _ => ?_⟩
  exact ⟨.entity e, by simp [Catalog.reference?, he], hcheck⟩

theorem admits_namingAttribute {e : Entity} (he : entity c caller entityName = .ok e)
    {a : Attribute} (ha : attr e caller attributeName = .ok a) :
    c.Admits caller (namingAttribute find entityName having attributeName) := by
  obtain ⟨ha, hcheck⟩ := attr_eq_ok.mp ha
  have hhaving : c.Admits caller (namingEntity find entityName ++ [⟨.having, having⟩]) :=
    Catalog.admits_concat.mpr ⟨admits_namingEntity he, by simp⟩
  have hbehind : c.entityBehind? (namingEntity find entityName ++ [⟨.having, having⟩]) = some e := by
    simp [Catalog.entityBehind?, namingEntity, (entity_eq_ok.mp he).1]
  refine Catalog.admits_concat.mpr ⟨hhaving, fun _ => ?_⟩
  exact ⟨.attr a, by simp [Catalog.reference?, hbehind, ha], hcheck⟩

/-- A query for an entity is let through exactly if the entity can be looked up. -/
theorem letsThrough_namingEntity (hcatalog : s.catalog = .ok c) :
    s.LetsThrough caller (namingEntity find entityName) ServiceError.RefusesEntity ↔
      ∃ e, entity c caller entityName = .ok e := by
  rw [letsThrough_iff hcatalog]
  constructor
  · intro h
    cases he : entity c caller entityName with
    | ok e => exact ⟨e, rfl⟩
    | error lookup =>
        obtain ⟨error, herror, hrefuses⟩ := exists_refusal_of_entity he []
        exact absurd hrefuses (h error herror)
  · rintro ⟨e, he⟩ error herror hrefuses
    exact not_refuses_of_admits (admits_namingEntity he) herror hrefuses.refusesAttribute

/-- A condition on an attribute is let through exactly if its entity and the attribute can be looked
up. -/
theorem letsThrough_namingAttribute (hcatalog : s.catalog = .ok c) :
    s.LetsThrough caller (namingAttribute find entityName having attributeName)
        ServiceError.RefusesAttribute ↔
      ∃ e a, entity c caller entityName = .ok e ∧ attr e caller attributeName = .ok a := by
  rw [letsThrough_iff hcatalog]
  constructor
  · intro h
    cases he : entity c caller entityName with
    | error lookup =>
        obtain ⟨error, herror, hrefuses⟩ :=
          exists_refusal_of_entity he [⟨.having, having⟩, ⟨.attr, attributeName⟩]
        exact absurd hrefuses.refusesAttribute (h error herror)
    | ok e =>
        cases ha : attr e caller attributeName with
        | ok a => exact ⟨e, a, rfl, ha⟩
        | error lookup =>
            obtain ⟨error, herror, hrefuses⟩ := exists_refusal_of_attr he ha []
            exact absurd hrefuses (h error herror)
  · rintro ⟨e, a, he, ha⟩ error herror
    exact not_refuses_of_admits (admits_namingAttribute he ha) herror

/-! ## Listings -/

theorem mem_listed_iff {α : Type} {allowed : α → Bool} {name : α → String} {xs : List α}
    {wanted : String} :
    wanted ∈ (xs.filter allowed).map name ↔ ∃ x, (x ∈ xs ∧ name x = wanted) ∧ allowed x = true := by
  simp only [List.mem_map, List.mem_filter]
  grind

/-- The entities listed are those that can be looked up. -/
theorem entityNames_eq (hcatalog : s.catalog = .ok c) (hvalid : c.validate = .ok ())
    (caller : Caller) :
    ∃ names, s.entityNames caller = .ok names ∧
      ∀ name, name ∈ names ↔ ∃ e, entity c caller name = .ok e := by
  refine ⟨_, by rw [entityNames, hcatalog]; rfl, ?_⟩
  intro name
  rw [mem_listed_iff]
  simp only [entity_eq_ok, Catalog.entity?_eq_some_iff hvalid, Access.checkEntity_eq_ok,
    Access.allowsEntity]

/-- The attributes listed for an entity are those that can be looked up in it. -/
theorem attributeNames_eq (hcatalog : s.catalog = .ok c) (hvalid : c.validate = .ok ())
    (caller : Caller) (entityName attributeName : String) :
    (∃ names, s.attributeNames caller entityName = .ok names ∧ attributeName ∈ names) ↔
      ∃ e a, entity c caller entityName = .ok e ∧ attr e caller attributeName = .ok a := by
  rw [attributeNames, hcatalog, except_ok_bind]
  cases he : entity c caller entityName with
  | error lookup => simp
  | ok e =>
      have hmem := mem_of_entity_eq_ok he
      simp only [except_ok_bind, Except.ok.injEq, exists_and_left, exists_eq_left', mem_listed_iff,
        attr_eq_ok, Catalog.attribute?_eq_some_iff hvalid hmem, Access.checkAttribute_eq_ok,
        Access.allowsAttribute]

theorem exists_operatorNames_iff (hcatalog : s.catalog = .ok c) :
    (∃ operators, s.operatorNames caller entityName attributeName = .ok operators) ↔
      ∃ e a, entity c caller entityName = .ok e ∧ attr e caller attributeName = .ok a := by
  rw [operatorNames, hcatalog, except_ok_bind]
  cases he : entity c caller entityName with
  | error lookup => simp
  | ok e =>
      cases ha : attr e caller attributeName with
      | error lookup => simp [ha]
      | ok a => simp [ha]

/-- Over a valid catalog, a caller is offered exactly what the caller's queries are not refused for:
an entity is listed if a query for it is let through, an attribute of an entity if a condition on it
is, and then the operators for the condition are listed as well. -/
theorem listed_iff_letsThrough (hcatalog : s.catalog = .ok c) (hvalid : c.validate = .ok ())
    (caller : Caller) (find having entityName attributeName : String) :
    (∃ names, s.entityNames caller = .ok names ∧
      (entityName ∈ names ↔
        s.LetsThrough caller (namingEntity find entityName) ServiceError.RefusesEntity)) ∧
    ((∃ names, s.attributeNames caller entityName = .ok names ∧ attributeName ∈ names) ↔
      s.LetsThrough caller (namingAttribute find entityName having attributeName)
        ServiceError.RefusesAttribute) ∧
    ((∃ names, s.attributeNames caller entityName = .ok names ∧ attributeName ∈ names) ↔
      ∃ operators, s.operatorNames caller entityName attributeName = .ok operators) := by
  refine ⟨?_, ?_, ?_⟩
  · obtain ⟨names, hnames, hmem⟩ := entityNames_eq hcatalog hvalid caller
    exact ⟨names, hnames, (hmem entityName).trans (letsThrough_namingEntity hcatalog).symm⟩
  · rw [attributeNames_eq hcatalog hvalid, letsThrough_namingAttribute hcatalog]
  · rw [attributeNames_eq hcatalog hvalid, exists_operatorNames_iff hcatalog]

end Service

/-! ### Owners and salaries -/

/-- The start of a condition on the owner of documents. -/
def Documents.owned : List Token :=
  Service.namingAttribute "find" "Document" "having" "Owner"

/-- Without a tenant the filter of documents has no value. -/
theorem Documents.compile_owned :
    (catalog "Document").compile .anonymous owned =
      .error (.missingScope "Document" "tenant") := by
  have hparts : (catalog "Document").parts owned =
      .ok [.text "SELECT DISTINCT".toList, .entity (document "Document"), .having,
        .label "owner" [] "name"] := by decide +kernel
  have hentity : (Context.of (catalog "Document") owned).entity = some (document "Document") := by
    decide +kernel
  have hfilter : (document "Document").filter = some "x.tenant = :tenant" := rfl
  have hbind : Draft.bindFilter (document "Document") "x.tenant = :tenant" .anonymous =
      .error (.missingScope "Document" "tenant") := by decide +kernel
  rw [Catalog.compile_eq_finish, hparts, except_ok_bind, Draft.finish, Sheet.draft_entity, hentity]
  simp only [hfilter]
  rw [Sheet.addFilter_draft rfl, hbind]
  rfl

/-- The start of a condition on salaries. -/
def Staff.paid : List Token :=
  Service.namingAttribute "find" "Employee" "having" "Salary"

/-- An anonymous caller is offered the owner of documents. The query does not compile, because no
tenant is known, but it is not refused. A guest is not offered salaries, and is refused for them. -/
theorem owner_offered_salary_refused :
    (Documents.catalog "Document").validate = .ok () ∧ Staff.catalog.validate = .ok () ∧
      Documents.service.attributeNames .anonymous "Document" = .ok ["Title", "Owner"] ∧
      (Documents.catalog "Document").compile .anonymous Documents.owned =
        .error (.missingScope "Document" "tenant") ∧
      Documents.service.LetsThrough .anonymous Documents.owned ServiceError.RefusesAttribute ∧
      Staff.service.attributeNames (.ofRoleList "guest") "Employee" = .ok ["Name"] ∧
      ¬ Staff.service.LetsThrough (.ofRoleList "guest") Staff.paid
        ServiceError.RefusesAttribute := by
  have hvalid : (Documents.catalog "Document").validate = .ok () := by decide +kernel
  have howner : Documents.service.attributeNames .anonymous "Document" =
      .ok ["Title", "Owner"] := except_toOption_eq_some.mp (by decide +kernel)
  have hsalary : Staff.service.attributeNames (.ofRoleList "guest") "Employee" = .ok ["Name"] :=
    except_toOption_eq_some.mp (by decide +kernel)
  obtain ⟨-, hdocuments, -⟩ := Service.listed_iff_letsThrough (s := Documents.service) rfl hvalid
    .anonymous "find" "having" "Document" "Owner"
  obtain ⟨-, hstaff, -⟩ := Service.listed_iff_letsThrough (s := Staff.service) rfl Staff.valid
    (.ofRoleList "guest") "find" "having" "Employee" "Salary"
  have hlisted := hdocuments.mp ⟨_, howner, by simp⟩
  refine ⟨hvalid, Staff.valid, howner, Documents.compile_owned, hlisted, hsalary, ?_⟩
  rw [Staff.paid, ← hstaff, hsalary]
  simp

end GuardedQuery
