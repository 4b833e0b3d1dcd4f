import GuardedQuery.Proofs.Query.Compilation
import GuardedQuery.Proofs.References
import GuardedQuery.Proofs.Service.Run

/-! # Access to the store

A service puts a query to the store only for a caller that may use everything the query refers to,
and at most one for each request. -/

namespace GuardedQuery

/-- The queries that a request may put to a store over a catalog. -/
inductive MayAsk (c : Catalog) : Request → CompiledQuery → Prop
  | execute {caller q call} (hadmits : c.Admits caller q.tokens)
      (hcompile : c.compile caller q.tokens = .ok call) : MayAsk c (.execute caller q) call
  | choices {caller entityName attributeName operatorName e a operator query}
      (he : c.entity? entityName = some e) (hentity : Access.checkEntity e caller = .ok ())
      (ha : e.attribute? attributeName .query = some a)
      (hattr : Access.checkAttribute a caller = .ok ())
      (hoperator : Operator.resolve? operatorName = some operator)
      (hquery : a.valuesQuery = some query) :
      MayAsk c (.choices caller entityName attributeName operatorName) ⟨query, []⟩

namespace Service

variable {s : Service} {store : Store} {c : Catalog} {caller : Caller} {q : Query}
  {call : CompiledQuery}

/-! ## Requests to execute -/

theorem compileTokens_eq_ok {tokens : List Token} :
    compileTokens c caller tokens = .ok call ↔
      Access.checkTokens c caller tokens = .ok () ∧ c.compile caller tokens = .ok call := by
  rw [compileTokens, except_bind_eq_ok]
  simp only [except_mapError_eq_ok]
  constructor
  · rintro ⟨⟨⟩, hcheck, hcompile⟩
    exact ⟨hcheck, hcompile⟩
  · rintro ⟨hcheck, hcompile⟩
    exact ⟨(), hcheck, hcompile⟩

/-- Tokens that compile only refer to what the caller may use. -/
theorem admits_of_compileTokens {tokens : List Token}
    (h : compileTokens c caller tokens = .ok call) : c.Admits caller tokens := by
  obtain ⟨hcheck, hcompile⟩ := compileTokens_eq_ok.mp h
  obtain ⟨ps, -, hreads, -⟩ := Catalog.compile_eq_ok.mp hcompile
  exact Catalog.admits_of_checkTokens hcheck hreads

/-- The records of a query that compiles belong to an entity of the catalog. -/
theorem exists_shown (h : c.compile caller q.tokens = .ok call) :
    ∃ shown, q.entityName?.bind c.entity? = some shown := by
  obtain ⟨ps, last, hreads, hlast, -⟩ := Catalog.compile_eq_ok.mp h
  obtain ⟨front, named, rest, htokens, hnamed, -⟩ := Context.exists_of_entity hlast
  have hmem : named ∈ q.tokens := by simp [htokens]
  cases hfirst : q.tokens.find? (·.kind = .entity) with
  | none =>
      have hnone := List.find?_eq_none.mp hfirst named hmem
      simp [hnamed] at hnone
  | some first =>
      have hkind : first.kind = .entity := by simpa using List.find?_some hfirst
      obtain ⟨e, he⟩ := hreads.entity_of_mem (List.mem_of_find?_eq_some hfirst) hkind
      exact ⟨e, by simp [Query.entityName?, hfirst, he]⟩

/-- A query that compiles is executed, and its rows are those of the entity that it names first. -/
theorem execute_of_compile (hcatalog : s.catalog = .ok c) (h : (s.compile caller q).1 = .ok call)
    (store : Store) :
    ∃ shown, q.entityName?.bind c.entity? = some shown ∧
      (s.execute store caller q).1 = .ask store call fun rows =>
        (Results.ofRows shown caller s.order rows).mapError .rows := by
  have htokens : compileTokens c caller q.tokens = .ok call := by
    rwa [compile_of_catalog_eq_ok hcatalog] at h
  obtain ⟨shown, hshown⟩ := exists_shown (compileTokens_eq_ok.mp htokens).2
  -- the form that a query holds does not decide what its records are
  have hresult : resultEntity c ⟨q.tokens, some call⟩ = .ok shown := by
    rw [resultEntity, show (⟨q.tokens, some call⟩ : Query).entityName? = q.entityName? from rfl,
      hshown]
  refine ⟨shown, hshown, ?_⟩
  simp only [execute, compile_of_catalog_eq_ok hcatalog, htokens, hcatalog, except_ok_bind,
    except_toOption_ok, hresult]

/-- A request to execute leaves the query as a request to compile does. It puts the query to the
store that the query then holds, or fails for the reason that it does not compile. -/
theorem execute_eq (s : Service) (store : Store) (caller : Caller) (q : Query) :
    (s.execute store caller q).2 = (s.compile caller q).2 ∧
      match (s.compile caller q).1 with
      | .ok compiled => (s.execute store caller q).1.calls = [compiled]
      | .error e => (s.execute store caller q).1 = .pure (.error e) := by
  constructor
  · rw [execute]
    dsimp only
    split <;> rfl
  · cases hcompile : (s.compile caller q).1 with
    | error e => simp only [execute, hcompile, except_error_bind]
    | ok compiled =>
        obtain ⟨-, c, hcatalog, -⟩ := compile_eq_ok hcompile
        obtain ⟨shown, -, hexecute⟩ := execute_of_compile hcatalog hcompile store
        simp only [hexecute, Outcome.ask]

theorem mayAsk_of_execute (h : call ∈ (s.execute store caller q).1.calls) :
    (s.execute store caller q).1.calls = [call] ∧
      (s.execute store caller q).2.compiled = some call ∧
      ∃ c, s.catalog = .ok c ∧ MayAsk c (.execute caller q) call := by
  obtain ⟨hleft, hcalls⟩ := execute_eq s store caller q
  cases hanswer : (s.compile caller q).1 with
  | error e =>
      simp only [hanswer] at hcalls
      simp [hcalls, Outcome.pure] at h
  | ok compiled =>
      simp only [hanswer] at hcalls
      rw [hcalls, List.mem_singleton] at h
      subst h
      obtain ⟨hcompiled, c, hcatalog, hcompile⟩ := compile_eq_ok hanswer
      refine ⟨hcalls, by rw [hleft, hcompiled], c, hcatalog, ?_⟩
      exact .execute (admits_of_compileTokens hcompile) (compileTokens_eq_ok.mp hcompile).2

/-! ## Requests for choices -/

private theorem checked_eq_ok {α : Type} {check : Except AccessDenied Unit} {a b : α} :
    (check.mapError ServiceError.denied >>= fun _ => .ok a) = .ok b ↔
      a = b ∧ check = .ok () := by
  cases check with
  | error denial => simp
  | ok _ => simp

theorem entity_eq_ok {name : String} {e : Entity} :
    entity c caller name = .ok e ↔
      c.entity? name = some e ∧ Access.checkEntity e caller = .ok () := by
  rw [entity]
  cases c.entity? name with
  | none => simp
  | some found =>
      simp only [checked_eq_ok, Option.some.injEq]
      exact and_congr_right fun h => by rw [h]

theorem mem_of_entity_eq_ok {name : String} {e : Entity} (h : entity c caller name = .ok e) :
    e ∈ c.entities :=
  List.mem_of_find?_eq_some (entity_eq_ok.mp h).1

theorem attr_eq_ok {e : Entity} {name : String} {a : Attribute} :
    attr e caller name = .ok a ↔
      e.attribute? name .query = some a ∧ Access.checkAttribute a caller = .ok () := by
  rw [attr]
  cases e.attribute? name .query with
  | none => simp
  | some found =>
      simp only [checked_eq_ok, Option.some.injEq]
      exact and_congr_right fun h => by rw [h]

/-- Only the query of an attribute that the caller may use is put to the store, and only once. -/
theorem mayAsk_of_choices {entityName attributeName operatorName : String}
    (h : call ∈ (s.choices store caller entityName attributeName operatorName).calls) :
    (s.choices store caller entityName attributeName operatorName).calls = [call] ∧
      ∃ c, s.catalog = .ok c ∧
        MayAsk c (.choices caller entityName attributeName operatorName) call := by
  rw [choices] at h ⊢
  cases hsubject : s.choiceSubject caller entityName attributeName operatorName with
  | error e => simp [hsubject, Outcome.pure] at h
  | ok subject =>
      obtain ⟨e, a, control⟩ := subject
      simp only [hsubject] at h ⊢
      cases hquery : a.valuesQuery with
      | none => simp [hquery, Outcome.pure] at h
      | some query =>
          simp only [hquery, Outcome.ask, List.mem_singleton] at h ⊢
          subst h
          rw [choiceSubject] at hsubject
          simp only [except_bind_eq_ok, entity_eq_ok, attr_eq_ok] at hsubject
          obtain ⟨c, hcatalog, e', ⟨he, hentity⟩, a', ⟨ha, hattr⟩, hoperator⟩ := hsubject
          cases hresolve : Operator.resolve? operatorName with
          | none => simp [hresolve] at hoperator
          | some operator =>
              simp only [hresolve, Except.ok.injEq, Prod.mk.injEq] at hoperator
              obtain ⟨rfl, rfl, -⟩ := hoperator
              exact ⟨rfl, c, hcatalog, .choices he hentity ha hattr hresolve hquery⟩

/-! ## Requests of a run -/

/-- A query that refers to something forbidden is denied before anything else is done with it. -/
theorem denied_of_forbids (hcatalog : s.catalog = .ok c) (h : c.Forbids caller q.tokens) :
    ∃ denial, s.compile caller q = (.error (.denied denial), ⟨q.tokens, none⟩) ∧
      ∀ store, s.execute store caller q = (.pure (.error (.denied denial)), ⟨q.tokens, none⟩) := by
  obtain ⟨denial, hdenial⟩ := Catalog.exists_denial_of_forbids h
  have htokens : compileTokens c caller q.tokens = .error (.denied denial) := by
    rw [compileTokens, hdenial, except_mapError_error, except_error_bind]
  have hcompile : s.compile caller q = (.error (.denied denial), ⟨q.tokens, none⟩) := by
    rw [compile_of_catalog_eq_ok hcatalog, htokens, except_toOption_error]
  refine ⟨denial, hcompile, fun store => ?_⟩
  obtain ⟨hleft, hcalls⟩ := execute_eq s store caller q
  rw [hcompile] at hleft hcalls
  exact Prod.ext hcalls hleft

/-- In every run, a request puts at most one query to the store, and only one that it may ask over
the catalog loaded last. What is executed is what the query then holds, and it is executed if it
compiles. Over a catalog that forbids the caller something that a query refers to, the query is
denied: it does not compile, it holds no compiled form, and the store is not asked. -/
theorem asks_only_with_access {first : Except CatalogError Catalog} {requests : List Request}
    (h : Reached first requests s) (store : Store) :
    (∀ request, ∀ call ∈ (s.answer store request).calls,
      (s.answer store request).calls = [call] ∧
      (∃ c, lastLoad first requests = .ok c ∧ c.validate = .ok () ∧ MayAsk c request call) ∧
      ∀ caller q, request = .execute caller q →
        (s.execute store caller q).2.compiled = some call) ∧
    (∀ caller q compiled, (s.compile caller q).1 = .ok compiled →
      (s.execute store caller q).1.calls = [compiled]) ∧
    ∀ c caller q, lastLoad first requests = .ok c → c.validate = .ok () →
      c.Forbids caller q.tokens →
      ∃ denial, s.compile caller q = (.error (.denied denial), ⟨q.tokens, none⟩) ∧
        s.execute store caller q = (.pure (.error (.denied denial)), ⟨q.tokens, none⟩) := by
  have hserved := h.catalog_eq
  refine ⟨?_, ?_, ?_⟩
  · intro request call hcall
    cases request with
    | choices caller entityName attributeName operatorName =>
        obtain ⟨hcalls, c, hcatalog, hmay⟩ := mayAsk_of_choices hcall
        obtain ⟨hlast, hvalid⟩ := served_eq_ok.mp (hserved.symm.trans hcatalog)
        refine ⟨hcalls, ⟨c, hlast, hvalid, hmay⟩, ?_⟩
        rintro _ _ ⟨⟩
    | execute caller q =>
        obtain ⟨hcalls, hcompiled, c, hcatalog, hmay⟩ := mayAsk_of_execute hcall
        obtain ⟨hlast, hvalid⟩ := served_eq_ok.mp (hserved.symm.trans hcatalog)
        refine ⟨hcalls, ⟨c, hlast, hvalid, hmay⟩, ?_⟩
        rintro _ _ ⟨⟩
        exact hcompiled
    | _ => simp [answer, Outcome.pure] at hcall
  · intro caller q compiled hcompile
    have hcalls := (execute_eq s store caller q).2
    simpa only [hcompile] using hcalls
  · intro c caller q hlast hvalid hforbids
    have hcatalog : s.catalog = .ok c := hserved.trans (served_eq_ok.mpr ⟨hlast, hvalid⟩)
    obtain ⟨denial, hcompile, hexecute⟩ := denied_of_forbids hcatalog hforbids
    exact ⟨denial, hcompile, hexecute store⟩

end Service

/-! ### Salaries -/

namespace Staff

/-- The salary of an employee, for `hr` alone. -/
def salary : Attribute :=
  ((Attribute.new "salary" "Salary" .int32).withRoles "hr").ownedBy "Employee" .unrestricted

def employee : Entity :=
  (Entity.new "Employee" "Employee").withAttributes [.new "name" "Name" .text, salary]

def catalog : Catalog := (Catalog.new "find").withEntities [employee]

def service : Service := ⟨⟨.ready catalog, 1⟩, .declared⟩

def store : Store := fun _ => .ok []

def earning : Query :=
  .ofTokens [⟨.find, "find"⟩, ⟨.entity, "Employee"⟩, ⟨.having, "having"⟩, ⟨.attr, "Salary"⟩,
    ⟨.operator, ">"⟩, ⟨.value, "1000"⟩]

def earningCall : CompiledQuery :=
  ⟨"SELECT DISTINCT x FROM Employee x WHERE x.salary > ?", [.int32 1000]⟩

theorem valid : catalog.validate = .ok () := by decide +kernel

theorem reached_service : Service.Reached (.ok catalog) [] service :=
  ⟨service, .declared, Service.new_of_valid valid, rfl⟩

theorem forbids_guest : catalog.Forbids (.ofRoleList "guest") earning.tokens := by
  have hemployee : catalog.entityBehind?
      [⟨.find, "find"⟩, ⟨.entity, "Employee"⟩, ⟨.having, "having"⟩] = some employee := rfl
  have hsalary : employee.attribute? "Salary" .query = some salary := by decide +kernel
  refine ⟨[⟨.find, "find"⟩, ⟨.entity, "Employee"⟩, ⟨.having, "having"⟩], ⟨.attr, "Salary"⟩,
    [⟨.operator, ">"⟩, ⟨.value, "1000"⟩], .attr salary, rfl, ?_, ?_⟩
  · simp only [Catalog.reference?, hemployee, Option.bind_some, hsalary, Option.map_some]
  · rw [Reference.check]
    decide +kernel

theorem compile_earning :
    (service.compile (.ofRoleList "hr") earning).1 = .ok earningCall := by
  rw [Service.compile_of_catalog_eq_ok rfl]
  exact Service.compileTokens_eq_ok.mpr ⟨by decide +kernel, by decide +kernel⟩

end Staff

/-- Salaries are executed for `hr`, who may use all that is asked for, and denied to a guest. -/
theorem execute_salaries :
    (Staff.service.execute Staff.store (.ofRoleList "hr") Staff.earning).1.calls =
        [Staff.earningCall] ∧
      Staff.catalog.Admits (.ofRoleList "hr") Staff.earning.tokens ∧
      Staff.catalog.Forbids (.ofRoleList "guest") Staff.earning.tokens ∧
      ∃ denial, Staff.service.execute Staff.store (.ofRoleList "guest") Staff.earning =
        (.pure (.error (.denied denial)), Staff.earning) := by
  obtain ⟨hasks, hexecutes, hdenies⟩ :=
    Service.asks_only_with_access Staff.reached_service Staff.store
  have hcalls := hexecutes _ _ _ Staff.compile_earning
  have hcall : Staff.earningCall ∈ (Staff.service.answer Staff.store
      (.execute (.ofRoleList "hr") Staff.earning)).calls := by
    change Staff.earningCall ∈ (Staff.service.execute Staff.store (.ofRoleList "hr")
      Staff.earning).1.calls
    rw [hcalls]
    exact List.mem_singleton_self _
  obtain ⟨-, ⟨c, hlast, -, hmay⟩, -⟩ := hasks _ _ hcall
  obtain ⟨denial, -, hexecute⟩ := hdenies _ _ _ rfl Staff.valid Staff.forbids_guest
  refine ⟨hcalls, ?_, Staff.forbids_guest, denial, hexecute⟩
  obtain rfl : Staff.catalog = c := Except.ok.inj hlast
  cases hmay with
  | execute hadmits _ => exact hadmits

end GuardedQuery
