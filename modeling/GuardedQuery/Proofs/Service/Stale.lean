import GuardedQuery.Proofs.Service.Restriction
import GuardedQuery.Proofs.Service.Run

/-! # Stale compiled forms

A query holds the form that it was compiled to last. A failure to compile is meant to remove that
form, but while a service has no catalog it does not look at the query at all. -/

namespace GuardedQuery

namespace Service

/-- A request to compile keeps the tokens, and its answer is decided by them, the caller and what was
loaded last. If it succeeds, the query holds the answer. If it fails, the query holds no compiled
form exactly if it held none before or there is a catalog to compile for; without a catalog it stays
as it was. -/
theorem compile_clears_iff {first : Except CatalogError Catalog} {requests : List Request}
    {s : Service} (h : Reached first requests s) (caller : Caller) (q : Query) :
    (s.compile caller q).2.tokens = q.tokens ∧
      (s.compile caller q).1 =
        (served (lastLoad first requests) >>= fun c => compileTokens c caller q.tokens) ∧
      (∀ compiled, (s.compile caller q).1 = .ok compiled →
        (s.compile caller q).2.compiled = some compiled) ∧
      (∀ error, (s.compile caller q).1 = .error error →
        ((s.compile caller q).2.compiled = none ↔
          q.compiled = none ∨ ∃ c, lastLoad first requests = .ok c ∧ c.validate = .ok ())) ∧
      ((∀ c, lastLoad first requests = .ok c → c.validate ≠ .ok ()) →
        (s.compile caller q).2 = q) := by
  have hserved := h.catalog_eq
  cases hload : served (lastLoad first requests) with
  | error e =>
      rw [hload] at hserved
      have hnone : ¬ ∃ c, lastLoad first requests = .ok c ∧ c.validate = .ok () := by
        rintro ⟨c, hc⟩
        rw [served_eq_ok.mpr hc] at hload
        cases hload
      rw [compile_of_catalog_eq_error hserved]
      refine ⟨rfl, rfl, ?_, ?_, fun _ => rfl⟩
      · rintro compiled ⟨⟩
      · intro error _
        simp only [hnone, or_false]
  | ok c =>
      rw [hload] at hserved
      obtain ⟨hlast, hvalid⟩ := served_eq_ok.mp hload
      have hsome : ∃ c, lastLoad first requests = .ok c ∧ c.validate = .ok () := ⟨c, hlast, hvalid⟩
      rw [compile_of_catalog_eq_ok hserved]
      refine ⟨rfl, rfl, ?_, ?_, fun hnone => absurd hvalid (hnone c hlast)⟩
      · intro compiled hcompiled
        have hanswer : compileTokens c caller q.tokens = .ok compiled := hcompiled
        rw [hanswer, except_toOption_ok]
      · intro error herror
        have hanswer : compileTokens c caller q.tokens = .error error := herror
        simp only [hanswer, except_toOption_error, hsome, or_true]

end Service

/-! ### Documents of a tenant -/

namespace Documents

/-- Documents as the caller of the tenant sees them. -/
def compiledNaming : Query :=
  ⟨(naming ["Document"]).tokens,
    some ⟨"SELECT DISTINCT x FROM Document x WHERE x.tenant = ?", [.int64 42]⟩⟩

end Documents

/-- Behind a failed and a successful reload, a caller without a tenant gets no form that was compiled
for the tenant. -/
theorem compile_clears_reloaded :
    ∃ s, Service.Reached (.ok (Documents.catalog "Document"))
        [.reload (.error .malformed), .reload (.ok (Documents.catalog "Document"))] s ∧
      (s.compile .anonymous Documents.compiledNaming).1 =
        .error (.compile (.missingScope "Document" "tenant")) ∧
      (s.compile .anonymous Documents.compiledNaming).2.compiled = none := by
  have hvalid : (Documents.catalog "Document").validate = .ok () := by decide +kernel
  refine ⟨_, ⟨Documents.service, .declared, Documents.new_service, rfl⟩, ?_⟩
  obtain ⟨-, hanswer, -, hfailure, -⟩ :=
    Service.compile_clears_iff ⟨Documents.service, .declared, Documents.new_service, rfl⟩
      .anonymous Documents.compiledNaming
  have herror : Service.compileTokens (Documents.catalog "Document") .anonymous
      Documents.compiledNaming.tokens = .error (.compile (.missingScope "Document" "tenant")) := by
    decide +kernel
  have hserved : Service.served (Service.lastLoad (.ok (Documents.catalog "Document"))
      [.reload (.error .malformed), .reload (.ok (Documents.catalog "Document"))]) = .ok _ :=
    Service.served_eq_ok.mpr ⟨rfl, hvalid⟩
  rw [hserved, except_ok_bind, herror] at hanswer
  exact ⟨hanswer, (hfailure _ hanswer).mpr (.inr ⟨_, rfl, hvalid⟩)⟩

/-- Behind a failed reload, a query still holds the form that it was compiled to before. -/
theorem compile_stale :
    Service.new (.ok (Documents.catalog "Document")) = .ok Documents.service ∧
      Documents.service.compile Documents.caller (Documents.naming ["Document"]) =
        (.ok ⟨"SELECT DISTINCT x FROM Document x WHERE x.tenant = ?", [.int64 42]⟩,
          Documents.compiledNaming) ∧
      (Documents.service.afterAll [.reload (.error .malformed)]).compile Documents.caller
          Documents.compiledNaming =
        (.error (.catalog (.unavailable "invalid catalog document")), Documents.compiledNaming) :=
  ⟨Documents.new_service, by decide +kernel, rfl⟩

end GuardedQuery
