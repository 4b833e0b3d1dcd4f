import GuardedQuery.Proofs.Except
import GuardedQuery.Service.Basic

/-! # Runs of a service

A service answers one request after another. Only a reload changes it, so what it serves is decided
by what was loaded last. -/

namespace GuardedQuery

/-- A request to a service. A reload comes with what is loaded for it. -/
inductive Request
  | catalog
  | findKeyword
  | entityNames (caller : Caller)
  | attributeNames (caller : Caller) (entityName : String)
  | operatorNames (caller : Caller) (entityName attributeName : String)
  | separatorNames
  | choices (caller : Caller) (entityName attributeName operatorName : String)
  | compile (caller : Caller) (q : Query)
  | execute (caller : Caller) (q : Query)
  | reload (loaded : Except CatalogError Catalog)

inductive Answer
  | catalog (c : Catalog)
  | findKeyword (name : String)
  | names (names : List String)
  | choices (choices : Choices)
  | compiled (q : CompiledQuery)
  | results (results : Results)
  | version (number : Nat)

/-- Change what a successful request is answered with. -/
def Outcome.map {α β : Type} (f : α → β) (o : Outcome α) : Outcome β :=
  ⟨o.result.map f, o.calls⟩

namespace Service

/-- The answer to a request, with the queries that are put to the store for it. -/
def answer (s : Service) (store : Store) : Request → Outcome Answer
  | .catalog => .pure (s.catalog.map .catalog)
  | .findKeyword => .pure (s.findKeyword.map .findKeyword)
  | .entityNames caller => .pure ((s.entityNames caller).map .names)
  | .attributeNames caller entityName =>
    .pure ((s.attributeNames caller entityName).map .names)
  | .operatorNames caller entityName attributeName =>
    .pure ((s.operatorNames caller entityName attributeName).map .names)
  | .separatorNames => .pure (.ok (.names separatorNames))
  | .choices caller entityName attributeName operatorName =>
    (s.choices store caller entityName attributeName operatorName).map .choices
  | .compile caller q => .pure ((s.compile caller q).1.map .compiled)
  | .execute caller q => (s.execute store caller q).1.map .results
  | .reload loaded => .pure ((s.reload loaded).1.map .version)

def after (s : Service) : Request → Service
  | .reload loaded => (s.reload loaded).2
  | _ => s

def afterAll (s : Service) (requests : List Request) : Service :=
  requests.foldl after s

/-- What was loaded last: `first`, or what came with the last reload. -/
def lastLoad (first : Except CatalogError Catalog) : List Request → Except CatalogError Catalog
  | [] => first
  | .reload loaded :: requests => lastLoad loaded requests
  | _ :: requests => lastLoad first requests

/-- What is served of a load: a valid catalog, or else the reason why there is none. -/
def served (loaded : Except CatalogError Catalog) : Except ServiceError Catalog :=
  match loaded.bind fun c => c.validate.map fun _ => c with
  | .ok c => .ok c
  | .error e => .error (.catalog (.unavailable e.message))

variable {loaded first : Except CatalogError Catalog} {s : Service} {c : Catalog}

theorem served_eq_ok : served loaded = .ok c ↔ loaded = .ok c ∧ c.validate = .ok () := by
  cases loaded with
  | error e => simp [served, Except.bind]
  | ok d =>
      cases hvalid : d.validate with
      | error e =>
          simp only [served, Except.bind, hvalid, except_map_error, reduceCtorEq, Except.ok.injEq,
            false_iff, not_and]
          rintro rfl
          simp [hvalid]
      | ok _ =>
          simp only [served, Except.bind, hvalid, except_map_ok, Except.ok.injEq]
          constructor
          · rintro rfl
            exact ⟨rfl, hvalid⟩
          · exact And.left

@[simp] theorem catalog_withOrder (s : Service) (order : AttributeOrder) :
    (s.withOrder order).catalog = s.catalog := rfl

/-- A reload serves what it loads, whatever was served before. -/
theorem catalog_reload (s : Service) (loaded : Except CatalogError Catalog) :
    (s.reload loaded).2.catalog = served loaded := by
  cases loaded with
  | error e => rfl
  | ok c =>
      simp only [reload, served, Except.bind, CatalogHandle.replace]
      cases c.validate with
      | error e => rfl
      | ok _ => rfl

theorem new_of_valid (h : c.validate = .ok ()) :
    Service.new (.ok c) = .ok ⟨⟨.ready c, 1⟩, .declared⟩ := by
  simp only [Service.new, Except.bind, CatalogHandle.new, h, except_ok_bind]

theorem catalog_new (h : Service.new first = .ok s) : s.catalog = served first := by
  cases first with
  | error e => cases h
  | ok c =>
      cases hvalid : c.validate with
      | error e =>
          simp only [Service.new, Except.bind, CatalogHandle.new, hvalid] at h
          cases h
      | ok _ =>
          rw [new_of_valid hvalid] at h
          cases h
          exact (served_eq_ok.mpr ⟨rfl, hvalid⟩).symm

theorem catalog_after (s : Service) (request : Request) (h : s.catalog = served first) :
    (s.after request).catalog = served (lastLoad first [request]) := by
  cases request with
  | reload loaded => exact catalog_reload s loaded
  | _ => exact h

theorem lastLoad_cons (first : Except CatalogError Catalog) (request : Request)
    (requests : List Request) :
    lastLoad first (request :: requests) = lastLoad (lastLoad first [request]) requests := by
  cases request <;> rfl

/-- Behind any requests, a service serves what was loaded last. -/
theorem catalog_afterAll (h : s.catalog = served first) (requests : List Request) :
    (s.afterAll requests).catalog = served (lastLoad first requests) := by
  induction requests generalizing s first with
  | nil => exact h
  | cons request requests ih =>
      rw [lastLoad_cons]
      exact ih (catalog_after s request h)

/-- A service was made from a first load, and requests have come to it since. -/
def Reached (first : Except CatalogError Catalog) (requests : List Request) (s : Service) : Prop :=
  ∃ start order, Service.new first = .ok start ∧ s = (start.withOrder order).afterAll requests

theorem Reached.catalog_eq {requests : List Request} (h : Reached first requests s) :
    s.catalog = served (lastLoad first requests) := by
  obtain ⟨start, order, hnew, rfl⟩ := h
  have hstart : (start.withOrder order).catalog = served first :=
    (catalog_withOrder start order).trans (catalog_new hnew)
  exact catalog_afterAll hstart requests

/-! ## Requests to compile -/

variable {caller : Caller} {q : Query}

theorem compile_of_catalog_eq_error {e : ServiceError} (h : s.catalog = .error e) :
    s.compile caller q = (.error e, q) := by
  rw [compile, h]

theorem compile_of_catalog_eq_ok (h : s.catalog = .ok c) :
    s.compile caller q = (compileTokens c caller q.tokens,
      { q with compiled := (compileTokens c caller q.tokens).toOption }) := by
  rw [compile, h]

/-- A query that compiles does so over the catalog being served, and holds its compiled form. -/
theorem compile_eq_ok {compiled : CompiledQuery} (h : (s.compile caller q).1 = .ok compiled) :
    (s.compile caller q).2 = ⟨q.tokens, some compiled⟩ ∧
      ∃ c, s.catalog = .ok c ∧ compileTokens c caller q.tokens = .ok compiled := by
  cases hcatalog : s.catalog with
  | error e =>
      rw [compile_of_catalog_eq_error hcatalog] at h
      cases h
  | ok c =>
      rw [compile_of_catalog_eq_ok hcatalog] at h ⊢
      have hcompile : compileTokens c caller q.tokens = .ok compiled := h
      exact ⟨by rw [hcompile, except_toOption_ok], c, rfl, hcompile⟩

end Service

end GuardedQuery
