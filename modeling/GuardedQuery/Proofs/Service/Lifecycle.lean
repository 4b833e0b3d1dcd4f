import GuardedQuery.Proofs.Catalog.Run
import GuardedQuery.Proofs.Service.Run

/-! # The life of a service

Requests reach the handle of a service only by reloads: a reload makes calls to the handle, and all
other requests leave it alone. While the last reload has failed, every request that needs a catalog
is answered with the text of that failure. -/

namespace GuardedQuery

namespace Request

/-- The calls that a request makes to the handle of a service. A catalog that is not accepted is a
failure, like one that cannot be loaded. -/
def handleCalls : Request → List HandleCall
  | .reload (.ok c) =>
    match c.validate with
    | .ok _ => [.replace c]
    | .error e => [.replace c, .fail e.message]
  | .reload (.error e) => [.fail e.message]
  | _ => []

/-- The request is a reload that succeeds. -/
def reloads : Request → Bool
  | .reload (.ok c) => c.isValid
  | _ => false

/-- The request is answered from the catalog. -/
def needsCatalog : Request → Bool
  | .separatorNames | .reload _ => false
  | _ => true

/-- A request installs a catalog exactly if it is a reload that succeeds, and then only one. -/
theorem countP_handleCalls (request : Request) :
    request.handleCalls.countP HandleCall.installs = if request.reloads then 1 else 0 := by
  cases request with
  | reload loaded =>
      cases loaded with
      | error e => rfl
      | ok c =>
          rw [handleCalls, reloads, Catalog.isValid]
          cases hc : c.validate with
          | ok _ => simp [HandleCall.installs, Catalog.isValid, hc]
          | error e => simp [HandleCall.installs, Catalog.isValid, hc]
  | _ => rfl

theorem countP_flatMap_handleCalls (requests : List Request) :
    (requests.flatMap handleCalls).countP HandleCall.installs = requests.countP reloads := by
  induction requests with
  | nil => rfl
  | cons request requests ih =>
      rw [List.flatMap_cons, List.countP_append, countP_handleCalls, ih, List.countP_cons,
        Nat.add_comm]

end Request

namespace Service

variable {s : Service} {first loaded : Except CatalogError Catalog} {c : Catalog}

/-! ## Reloads -/

/-- A load, with the check of its catalog. -/
def checked (loaded : Except CatalogError Catalog) : Except CatalogError Catalog :=
  loaded.bind fun c => c.validate.map fun _ => c

theorem checked_load_eq_ok : checked loaded = .ok c ↔ loaded = .ok c ∧ c.validate = .ok () := by
  rw [← served_eq_ok, served, show loaded.bind _ = checked loaded from rfl]
  cases checked loaded with
  | ok d => simp
  | error e => simp

theorem served_of_checked_eq_error {e : CatalogError} (h : checked loaded = .error e) :
    served loaded = .error (.catalog (.unavailable e.message)) := by
  rw [served, show loaded.bind _ = checked loaded from rfl, h]

/-- A reload that succeeds installs what it loads. -/
theorem reload_of_valid (s : Service) (h : c.validate = .ok ()) :
    s.reload (.ok c) =
      (.ok (s.handle.version + 1), { s with handle := ⟨.ready c, s.handle.version + 1⟩ }) := by
  simp only [reload, Except.bind, s.handle.replace_of_valid h]

/-- A reload that fails keeps the version, and only its text. -/
theorem reload_of_failure (s : Service) {e : CatalogError} (h : checked loaded = .error e) :
    s.reload loaded =
      (.error (.catalog e), { s with handle := ⟨.failed e.message, s.handle.version⟩ }) := by
  cases loaded with
  | error e' =>
      obtain rfl : e' = e := Except.error.inj h
      rfl
  | ok c =>
      have hinvalid : c.validate = .error e := by
        simpa only [checked, Except.bind, except_map_eq_error] using h
      simp only [reload, Except.bind, s.handle.replace_of_invalid hinvalid]
      rfl

/-- A request changes the handle by the calls that it makes. -/
theorem handle_after (s : Service) (request : Request) :
    (s.after request).handle = s.handle.afterAll request.handleCalls := by
  cases request with
  | reload loaded =>
      cases loaded with
      | error e => rfl
      | ok c =>
          cases hc : c.validate with
          | ok _ =>
              simp only [after, s.reload_of_valid hc, Request.handleCalls, hc,
                CatalogHandle.afterAll, List.foldl_cons, List.foldl_nil, CatalogHandle.after,
                s.handle.replace_of_valid hc]
          | error e =>
              have hfailed : checked (.ok c) = .error e := by
                simp only [checked, Except.bind, hc, except_map_error]
              simp only [after, s.reload_of_failure hfailed, Request.handleCalls, hc,
                CatalogHandle.afterAll, List.foldl_cons, List.foldl_nil, CatalogHandle.after,
                s.handle.replace_of_invalid hc]
              rfl
  | _ => rfl

theorem handle_afterAll (s : Service) (requests : List Request) :
    (s.afterAll requests).handle = s.handle.afterAll (requests.flatMap Request.handleCalls) := by
  induction requests generalizing s with
  | nil => rfl
  | cons request requests ih =>
      rw [List.flatMap_cons, CatalogHandle.afterAll_append, ← handle_after]
      exact ih (s.after request)

theorem after_of_not_reload (s : Service) {request : Request}
    (h : ∀ loaded, request ≠ .reload loaded) : s.after request = s := by
  cases request with
  | reload loaded => exact absurd rfl (h loaded)
  | _ => rfl

/-! ## Answers -/

/-- Without a catalog, there is one answer to all requests that need it. -/
theorem answer_of_catalog_eq_error {e : ServiceError} (h : s.catalog = .error e) (store : Store)
    {request : Request} (hneeds : request.needsCatalog = true) :
    s.answer store request = .pure (.error e) := by
  cases request with
  | separatorNames => cases hneeds
  | reload loaded => cases hneeds
  | catalog => rw [answer, h, except_map_error]
  | findKeyword => rw [answer, findKeyword, h, except_error_bind, except_map_error]
  | entityNames caller => rw [answer, entityNames, h, except_error_bind, except_map_error]
  | attributeNames caller entityName =>
      rw [answer, attributeNames, h, except_error_bind, except_map_error]
  | operatorNames caller entityName attributeName =>
      rw [answer, operatorNames, h, except_error_bind, except_map_error]
  | choices caller entityName attributeName operatorName =>
      have hsubject : s.choiceSubject caller entityName attributeName operatorName = .error e := by
        rw [choiceSubject, h, except_error_bind]
      simp only [answer, choices, hsubject, Outcome.map, Outcome.pure, except_map_error]
  | compile caller q => rw [answer, compile_of_catalog_eq_error h, except_map_error]
  | execute caller q =>
      simp only [answer, execute, compile_of_catalog_eq_error h, except_error_bind, Outcome.map,
        Outcome.pure, except_map_error]

/-- The answers to requests one after another, each with the store as it is at that time. -/
def answers (s : Service) : List (Request × Store) → List (Outcome Answer)
  | [] => []
  | (request, store) :: requests => s.answer store request :: (s.after request).answers requests

/-- An answer is decided by the requests before it, whatever comes later. -/
theorem getElem?_answers (s : Service) (front : List (Request × Store)) (request : Request)
    (store : Store) (later : List (Request × Store)) :
    (s.answers (front ++ (request, store) :: later))[front.length]? =
      some ((s.afterAll (front.map Prod.fst)).answer store request) := by
  induction front generalizing s with
  | nil => rfl
  | cons head front ih => exact ih (s.after head.1)

/-! ## Runs -/

/-- Loads that fail do not end a failure. -/
theorem exists_failure_of_no_reload {requests : List Request} {e : CatalogError}
    (hfailed : checked loaded = .error e) (h : ∀ r ∈ requests, r.reloads = false) :
    ∃ e', checked (lastLoad loaded requests) = .error e' := by
  induction requests generalizing loaded e with
  | nil => exact ⟨e, hfailed⟩
  | cons request requests ih =>
      have hrequests : ∀ r ∈ requests, r.reloads = false := by
        intro r hr
        exact h r (by simp [hr])
      cases request with
      | reload next =>
          cases hnext : checked next with
          | error e' => exact ih hnext hrequests
          | ok c =>
              obtain ⟨rfl, hvalid⟩ := checked_load_eq_ok.mp hnext
              have hreload : c.isValid = false := h (.reload (.ok c)) (by simp)
              rw [Catalog.isValid_iff.mpr hvalid] at hreload
              cases hreload
      | _ => exact ih hfailed hrequests

/-- What a service is behind a first load and requests, and what the next request does to it. -/
structure Follows (first : Except CatalogError Catalog) (requests : List Request) (s : Service) :
    Prop where
  /-- The requests are calls to the handle of the first catalog. -/
  handle_eq : ∃ c start, first = .ok c ∧ CatalogHandle.new c = .ok start ∧
    s.handle = start.afterAll (requests.flatMap Request.handleCalls)
  version_eq : s.handle.version = 1 + requests.countP Request.reloads
  only_reloads : ∀ request, (∀ loaded, request ≠ .reload loaded) → s.after request = s
  reload_ok : ∀ c, c.validate = .ok () →
    s.reload (.ok c) =
      (.ok (s.handle.version + 1), { s with handle := ⟨.ready c, s.handle.version + 1⟩ })
  reload_error : ∀ loaded e, checked loaded = .error e →
    s.reload loaded =
      (.error (.catalog e), { s with handle := ⟨.failed e.message, s.handle.version⟩ })
  /-- Behind a reload that fails there is no catalog until a reload succeeds. The answers carry the
  text of the failure that came last. -/
  unavailable : ∀ loaded e later, checked loaded = .error e → (∀ r ∈ later, r.reloads = false) →
    ∃ latest, checked (lastLoad loaded later) = .error latest ∧
      ∀ store request, request.needsCatalog = true →
        ((s.reload loaded).2.afterAll later).answer store request =
          .pure (.error (.catalog (.unavailable latest.message)))
  /-- A snapshot is what was served when it was taken, whatever comes later. -/
  snapshots : ∀ front store later,
    (s.answers (front ++ (.catalog, store) :: later))[front.length]? =
      some (.pure ((served (lastLoad (lastLoad first requests) (front.map Prod.fst))).map .catalog))

/-- A version is at most one more than the number of requests so far. -/
theorem Follows.version_lt_size {requests : List Request} (hfollows : s.Follows first requests)
    (hshort : requests.length + 1 < UInt64.size) : s.handle.version < UInt64.size := by
  have hreloads : requests.countP Request.reloads ≤ requests.length := List.countP_le_length
  rw [hfollows.version_eq]
  omega

theorem handle_of_new {start : Service} (h : Service.new first = .ok start) :
    ∃ c handle, first = .ok c ∧ CatalogHandle.new c = .ok handle ∧ start.handle = handle := by
  cases first with
  | error e => cases h
  | ok c =>
      cases hhandle : CatalogHandle.new c with
      | error e =>
          simp only [Service.new, Except.bind, hhandle] at h
          cases h
      | ok handle =>
          simp only [Service.new, Except.bind, hhandle] at h
          cases h
          exact ⟨c, handle, rfl, hhandle, rfl⟩

theorem Reached.follows {requests : List Request} (h : Reached first requests s) :
    s.Follows first requests := by
  have hhandle : ∃ c start, first = .ok c ∧ CatalogHandle.new c = .ok start ∧
      s.handle = start.afterAll (requests.flatMap Request.handleCalls) := by
    obtain ⟨start, order, hnew, rfl⟩ := h
    obtain ⟨c, handle, hc, hhandle, hstart⟩ := handle_of_new hnew
    refine ⟨c, handle, hc, hhandle, ?_⟩
    rw [handle_afterAll, ← hstart]
    rfl
  have hversion : s.handle.version = 1 + requests.countP Request.reloads := by
    obtain ⟨c, start, -, hnew, hs⟩ := hhandle
    rw [hs, (CatalogHandle.follows_afterAll hnew _).version_eq, Request.countP_flatMap_handleCalls]
  refine ⟨hhandle, hversion, fun request => s.after_of_not_reload, fun c => s.reload_of_valid,
    fun loaded e => s.reload_of_failure, ?_, ?_⟩
  · intro loaded e later hfailed hlater
    obtain ⟨latest, hlatest⟩ := exists_failure_of_no_reload hfailed hlater
    have hcatalog := catalog_afterAll (catalog_reload s loaded) later
    rw [served_of_checked_eq_error hlatest] at hcatalog
    exact ⟨latest, hlatest, fun store request => answer_of_catalog_eq_error hcatalog store⟩
  · intro front store later
    rw [getElem?_answers, answer, catalog_afterAll h.catalog_eq]

end Service

/-- The life of a catalog. Every run of calls to a handle counts the valid catalogs in the version
and serves what the last call put into service that took effect; a catalog that is not valid changes
nothing. Every run of requests to a service is such a run of its reloads alone: a reload that
succeeds counts the version up and serves what it loaded, and a reload that fails keeps the version
and leaves its text as the answer to every request that needs a catalog, until a reload succeeds.
Snapshots that were taken earlier stay as they were. Runs that are too short to count through 64 bits
keep the version within 64 bits. -/
theorem catalog_lifecycle :
    (∀ first start, CatalogHandle.new first = .ok start → ∀ calls,
      (start.afterAll calls).Follows first calls ∧
      (calls.length + 1 < UInt64.size → (start.afterAll calls).version < UInt64.size)) ∧
    ∀ first requests s, Service.Reached first requests s →
      s.Follows first requests ∧
      (requests.length + 1 < UInt64.size → s.handle.version < UInt64.size) := by
  constructor
  · intro first start hnew calls
    have hfollows := CatalogHandle.follows_afterAll hnew calls
    exact ⟨hfollows, hfollows.version_lt_size⟩
  · intro first requests s hreached
    have hfollows := hreached.follows
    exact ⟨hfollows, hfollows.version_lt_size⟩

/-! ### An outage -/

namespace Outage

def first : Catalog := .new "find"

def second : Catalog := .new "search"

/-- A catalog that is not valid. -/
def blank : Catalog := .new " "

theorem first_valid : first.validate = .ok () := by decide +kernel

theorem second_valid : second.validate = .ok () := by decide +kernel

theorem blank_not_valid : blank.validate = .error .missingFindKeyword := by decide +kernel

/-- A second catalog, a failure, and a catalog that is not accepted. -/
def calls : List HandleCall := [.replace second, .fail "disk", .replace blank]

theorem lastEffect_calls : HandleCall.lastEffect? first calls = some (.fail "disk") := by
  have hblank : blank.isValid = false := by decide +kernel
  simp [HandleCall.lastEffect?, calls, HandleCall.takesEffect, List.filter, hblank,
    Catalog.isValid_iff.mpr first_valid, Catalog.isValid_iff.mpr second_valid]

def service : Service := ⟨⟨.ready first, 1⟩, .declared⟩

theorem service_reached : Service.Reached (.ok first) [] service :=
  ⟨service, .declared, Service.new_of_valid first_valid, rfl⟩

end Outage

/-- A handle and a service that lose their second catalog. A catalog that is not valid does not end
the outage. -/
theorem outage_serves_no_catalog :
    (∃ start, CatalogHandle.new Outage.first = .ok start ∧
      (start.afterAll Outage.calls).version = 2 ∧
      Outage.calls.length + 1 < UInt64.size ∧
      (start.afterAll Outage.calls).version < UInt64.size ∧
      (start.afterAll Outage.calls).snapshot = .error (.unavailable "disk")) ∧
    Service.Reached (.ok Outage.first) [] Outage.service ∧
    Outage.service.reload (.ok Outage.second) =
      (.ok 2, ⟨⟨.ready Outage.second, 2⟩, .declared⟩) ∧
    (∀ store, ((Outage.service.reload (.error .malformed)).2.afterAll
        [.reload (.ok Outage.blank)]).answer store .findKeyword =
      .pure (.error (.catalog (.unavailable "catalog does not declare a find keyword")))) ∧
    ∀ store, (Outage.service.answers [(.catalog, store),
        (.reload (.ok Outage.second), store)])[0]? =
      some (.pure (.ok (.catalog Outage.first))) := by
  obtain ⟨hhandle, hservice⟩ := catalog_lifecycle
  have hnew := CatalogHandle.new_eq_ok.mpr ⟨Outage.first_valid, rfl⟩
  obtain ⟨hcalls, hfits⟩ := hhandle _ _ hnew Outage.calls
  obtain ⟨hrun, -⟩ := hservice _ _ _ Outage.service_reached
  have hshort : Outage.calls.length + 1 < UInt64.size := by decide
  refine ⟨⟨_, hnew, ?_, hshort, hfits hshort, ?_⟩, Outage.service_reached,
    hrun.reload_ok _ Outage.second_valid, ?_, ?_⟩
  · rw [hcalls.version_eq]
    decide +kernel
  · exact (hcalls.snapshot_error_iff _).mpr ⟨"disk", Outage.lastEffect_calls, rfl⟩
  · intro store
    obtain ⟨latest, hlatest, hanswer⟩ := hrun.unavailable (.error .malformed) .malformed
      [.reload (.ok Outage.blank)] rfl (by decide +kernel)
    have hblank : Service.checked (.ok Outage.blank) = .error .missingFindKeyword := by
      simp only [Service.checked, Except.bind, Outage.blank_not_valid, except_map_error]
    obtain rfl : CatalogError.missingFindKeyword = latest := by
      exact Except.error.inj (hblank.symm.trans hlatest)
    exact hanswer store .findKeyword rfl
  · intro store
    have hserved : Service.served (.ok Outage.first) = .ok Outage.first :=
      Service.served_eq_ok.mpr ⟨rfl, Outage.first_valid⟩
    have hkept := hrun.snapshots [] store [(.reload (.ok Outage.second), store)]
    simp only [Service.lastLoad, List.map_nil, hserved, except_map_ok] at hkept
    exact hkept

end GuardedQuery
