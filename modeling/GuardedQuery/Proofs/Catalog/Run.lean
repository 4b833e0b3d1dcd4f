import GuardedQuery.Catalog.Handle
import GuardedQuery.Proofs.Except
import Mathlib.Data.List.Induction

/-! # Runs of a handle

A handle is changed by catalogs that are to be installed and by failures. What it serves is decided
by the last call that took effect, and its version counts the catalogs that were installed. Versions
are natural numbers, and a run too short to count through 64 bits keeps them within 64 bits. -/

namespace GuardedQuery

theorem Catalog.isValid_iff {c : Catalog} : c.isValid = true ↔ c.validate = .ok () := by
  rw [isValid]
  cases c.validate with
  | ok _ => simp
  | error e => simp

/-- A call that is to change what a handle serves. -/
inductive HandleCall
  | replace (c : Catalog)
  | fail (reason : String)

namespace HandleCall

/-- The call installs a catalog. -/
def installs : HandleCall → Bool
  | .replace c => c.isValid
  | .fail _ => false

/-- The call changes what is served. -/
def takesEffect : HandleCall → Bool
  | .replace c => c.isValid
  | .fail _ => true

/-- What the call puts into service when it takes effect. -/
def serving : HandleCall → Serving
  | .replace c => .ready c
  | .fail reason => .failed reason

/-- The last call that took effect. The first one installed the first catalog. -/
def lastEffect? (first : Catalog) (calls : List HandleCall) : Option HandleCall :=
  ((.replace first :: calls).filter takesEffect).getLast?

theorem lastEffect?_nil {first : Catalog} (h : first.isValid = true) :
    lastEffect? first [] = some (.replace first) := by
  simp [lastEffect?, takesEffect, h]

theorem lastEffect?_concat (first : Catalog) (calls : List HandleCall) (call : HandleCall) :
    lastEffect? first (calls ++ [call]) =
      if call.takesEffect then some call else lastEffect? first calls := by
  rw [lastEffect?, lastEffect?, ← List.cons_append, List.filter_append]
  by_cases h : call.takesEffect
  · simp [h]
  · simp [h]

end HandleCall

namespace CatalogHandle

variable {h : CatalogHandle} {c : Catalog}

/-! ## One call -/

theorem replace_of_valid (h : CatalogHandle) (hvalid : c.validate = .ok ()) :
    h.replace c = .ok ⟨.ready c, h.version + 1⟩ := by
  rw [replace, hvalid, except_ok_bind]

theorem replace_of_invalid (h : CatalogHandle) {e : CatalogError} (hinvalid : c.validate = .error e) :
    h.replace c = .error e := by
  rw [replace, hinvalid, except_error_bind]

/-- The handle behind a call. A catalog that is not accepted leaves it as it is. -/
def after (h : CatalogHandle) : HandleCall → CatalogHandle
  | .replace c =>
    match h.replace c with
    | .ok installed => installed
    | .error _ => h
  | .fail reason => h.fail reason

theorem after_of_not_takesEffect (h : CatalogHandle) {call : HandleCall}
    (hcall : call.takesEffect = false) : h.after call = h := by
  cases call with
  | fail reason => cases hcall
  | replace c =>
      cases hc : c.validate with
      | ok _ =>
          rw [HandleCall.takesEffect, Catalog.isValid_iff.mpr hc] at hcall
          cases hcall
      | error e => rw [after, h.replace_of_invalid hc]

theorem serving_after_of_takesEffect (h : CatalogHandle) {call : HandleCall}
    (hcall : call.takesEffect = true) : (h.after call).serving = call.serving := by
  cases call with
  | fail reason => rfl
  | replace c =>
      have hvalid : c.validate = .ok () := Catalog.isValid_iff.mp hcall
      rw [after, h.replace_of_valid hvalid]
      rfl

/-- A version counts an installed catalog and nothing else. -/
theorem version_after (h : CatalogHandle) (call : HandleCall) :
    (h.after call).version = h.version + if call.installs then 1 else 0 := by
  cases call with
  | fail reason => rfl
  | replace c =>
      by_cases hc : c.isValid
      · rw [after, h.replace_of_valid (Catalog.isValid_iff.mp hc)]
        simp [HandleCall.installs, hc]
      · have hcall : (HandleCall.replace c).takesEffect = false := Bool.eq_false_iff.mpr hc
        rw [h.after_of_not_takesEffect hcall]
        simp [HandleCall.installs, hc]

/-! ## Calls one after another -/

def afterAll (h : CatalogHandle) (calls : List HandleCall) : CatalogHandle :=
  calls.foldl after h

theorem afterAll_concat (h : CatalogHandle) (calls : List HandleCall) (call : HandleCall) :
    h.afterAll (calls ++ [call]) = (h.afterAll calls).after call := by
  rw [afterAll, List.foldl_append]
  rfl

theorem afterAll_append (h : CatalogHandle) (calls more : List HandleCall) :
    h.afterAll (calls ++ more) = (h.afterAll calls).afterAll more :=
  List.foldl_append

theorem version_afterAll (h : CatalogHandle) (calls : List HandleCall) :
    (h.afterAll calls).version = h.version + calls.countP HandleCall.installs := by
  induction calls using List.reverseRecOn with
  | nil => rfl
  | append_singleton calls call ih =>
      rw [afterAll_concat, version_after, ih, List.countP_append, List.countP_singleton,
        Nat.add_assoc]

theorem new_eq_ok {first : Catalog} {start : CatalogHandle} :
    CatalogHandle.new first = .ok start ↔ first.validate = .ok () ∧ start = ⟨.ready first, 1⟩ := by
  rw [CatalogHandle.new, except_bind_eq_ok]
  constructor
  · rintro ⟨⟨⟩, hvalid, hstart⟩
    exact ⟨hvalid, (Except.ok.inj hstart).symm⟩
  · rintro ⟨hvalid, rfl⟩
    exact ⟨(), hvalid, rfl⟩

/-- Behind any calls, a handle serves what the last call put into service that took effect. -/
theorem exists_lastEffect {first : Catalog} {start : CatalogHandle}
    (hnew : CatalogHandle.new first = .ok start) (calls : List HandleCall) :
    ∃ call, HandleCall.lastEffect? first calls = some call ∧ call.takesEffect = true ∧
      (start.afterAll calls).serving = call.serving := by
  induction calls using List.reverseRecOn with
  | nil =>
      obtain ⟨hvalid, rfl⟩ := new_eq_ok.mp hnew
      have hfirst := Catalog.isValid_iff.mpr hvalid
      exact ⟨.replace first, HandleCall.lastEffect?_nil hfirst, hfirst, rfl⟩
  | append_singleton calls call ih =>
      rw [afterAll_concat, HandleCall.lastEffect?_concat]
      by_cases hcall : call.takesEffect
      · rw [if_pos hcall]
        exact ⟨call, rfl, hcall, serving_after_of_takesEffect _ hcall⟩
      · rw [if_neg hcall, after_of_not_takesEffect _ (Bool.eq_false_iff.mpr hcall)]
        exact ih

theorem snapshot_eq_ok : h.snapshot = .ok c ↔ h.serving = .ready c := by
  rw [snapshot]
  cases h.serving with
  | ready d => simp
  | failed reason => simp

theorem snapshot_eq_error {e : CatalogError} :
    h.snapshot = .error e ↔ ∃ reason, h.serving = .failed reason ∧ e = .unavailable reason := by
  rw [snapshot]
  cases h.serving with
  | ready d => simp
  | failed reason => simp [eq_comm]

/-- What a handle of a first catalog is behind calls, and what the next call does to it. -/
structure Follows (first : Catalog) (calls : List HandleCall) (h : CatalogHandle) : Prop where
  version_eq : h.version = 1 + calls.countP HandleCall.installs
  snapshot_ok_iff : ∀ c, h.snapshot = .ok c ↔
    HandleCall.lastEffect? first calls = some (.replace c)
  snapshot_error_iff : ∀ e, h.snapshot = .error e ↔
    ∃ reason, HandleCall.lastEffect? first calls = some (.fail reason) ∧ e = .unavailable reason
  valid_of_snapshot : ∀ c, h.snapshot = .ok c → c.validate = .ok ()
  accepts : ∀ c, c.validate = .ok () →
    h.replace c = .ok ⟨.ready c, h.version + 1⟩ ∧ h.after (.replace c) = ⟨.ready c, h.version + 1⟩
  rejects : ∀ c e, c.validate = .error e → h.replace c = .error e ∧ h.after (.replace c) = h
  fails : ∀ reason, h.after (.fail reason) = ⟨.failed reason, h.version⟩

/-- A version is at most one more than the number of calls so far. -/
theorem Follows.version_lt_size {first : Catalog} {calls : List HandleCall}
    (hfollows : h.Follows first calls) (hshort : calls.length + 1 < UInt64.size) :
    h.version < UInt64.size := by
  have hinstalled : calls.countP HandleCall.installs ≤ calls.length := List.countP_le_length
  rw [hfollows.version_eq]
  omega

theorem follows_afterAll {first : Catalog} {start : CatalogHandle}
    (hnew : CatalogHandle.new first = .ok start) (calls : List HandleCall) :
    (start.afterAll calls).Follows first calls := by
  obtain ⟨call, hlast, heffect, hserving⟩ := exists_lastEffect hnew calls
  have hready : ∀ c, (start.afterAll calls).snapshot = .ok c ↔ call = .replace c := by
    intro c
    rw [snapshot_eq_ok, hserving]
    cases call <;> simp [HandleCall.serving]
  refine ⟨?_, ?_, ?_, ?_, ?_, ?_, ?_⟩
  · obtain ⟨-, rfl⟩ := new_eq_ok.mp hnew
    exact version_afterAll _ calls
  · intro c
    rw [hready, hlast, Option.some.injEq]
  · intro e
    rw [snapshot_eq_error, hserving, hlast]
    cases call <;> simp [HandleCall.serving]
  · intro c hc
    obtain rfl := (hready c).mp hc
    exact Catalog.isValid_iff.mp heffect
  · intro c hc
    have hreplace := (start.afterAll calls).replace_of_valid hc
    exact ⟨hreplace, by rw [after, hreplace]⟩
  · intro c e hc
    have hreplace := (start.afterAll calls).replace_of_invalid hc
    exact ⟨hreplace, by rw [after, hreplace]⟩
  · intro reason
    rfl

end CatalogHandle

end GuardedQuery
