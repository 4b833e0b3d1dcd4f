import GuardedQuery.Proofs.Query.Binding
import GuardedQuery.Proofs.Service.Authorization

/-! # Restriction of executed queries

A query may name several entities. Its records belong to the first one, and the filter that it is
completed with is that of the last one. -/

namespace GuardedQuery

/-! ## Filters in a query -/

/-- A query of parts is restricted by a filter: the filter stands behind the conditions, with the
values of the caller behind all other values. -/
def Restricted (caller : Caller) (ps : List Part) (filter : String) (q : CompiledQuery) : Prop :=
  ∃ text filterValues, Layout.bracketed? ps = some text ∧
    (Placeholder.names filter).map caller.scope? = filterValues.map some ∧
    q = ⟨String.ofList (text ++ Layout.closing ps (Placeholder.marked filter)),
      Layout.values ps ++ filterValues⟩

/-- Two filters that put the same condition on a caller. -/
def SameCondition (caller : Caller) (f g : String) : Prop :=
  Placeholder.marked f = Placeholder.marked g ∧
    (Placeholder.names f).map caller.scope? = (Placeholder.names g).map caller.scope?

namespace Layout

theorem length_le_of_bracketed?_eq_some {ps : List Part} {bracketed : List Char}
    (h : bracketed? ps = some bracketed) : (text [] 1 ps).length ≤ bracketed.length := by
  rw [bracketed?] at h
  split at h
  · obtain rfl := Option.some.inj h
    exact Nat.le_refl _
  · rename_i front conditions hsplit
    obtain ⟨inserted, hinserted, rfl⟩ := Option.map_eq_some_iff.mp h
    obtain ⟨skipped, rest, hcut, -, rfl⟩ := Text.insertAt_eq_some.mp hinserted
    obtain ⟨rfl, -⟩ := splitHaving_spec hsplit
    rw [text_eq_opening_append, hcut]
    simp only [List.length_append]
    omega

theorem closing_length_pos (ps : List Part) (condition : List Char) :
    0 < (closing ps condition).length := by
  rw [closing]
  split
  · simp only [List.length_append]
    have : 0 < " ) AND ( ".toList.length := by decide
    omega
  · simp only [List.length_append]
    have : 0 < " WHERE ".toList.length := by decide
    omega

theorem closing_injective (ps : List Part) {condition other : List Char}
    (h : closing ps condition = closing ps other) : condition = other := by
  rw [closing, closing] at h
  split at h
  · exact List.append_cancel_left (List.append_cancel_right h)
  · exact List.append_cancel_left h

end Layout

theorem Completes.restricted_iff {caller : Caller} {ps : List Part} {e : Entity} {q : CompiledQuery}
    (h : Completes caller ps e q) (filter : String) :
    Restricted caller ps filter q ↔
      ∃ own, e.filter = some own ∧ SameCondition caller own filter := by
  obtain hnone | ⟨hsome, hbind, htext⟩ := h
  · constructor
    · -- the text of the parts alone is too short to hold a filter behind it
      rintro ⟨text, filterValues, hbracketed, -, heq⟩
      have htext := congrArg (fun q => q.text.toList.length) heq
      have hle := Layout.length_le_of_bracketed?_eq_some hbracketed
      have hpos := Layout.closing_length_pos ps (Placeholder.marked filter)
      simp only [String.toList_ofList, List.length_append] at htext
      omega
    · rintro ⟨own, hown, -⟩
      simp [hnone] at hown
  · rename_i own condition filterValues text
    obtain ⟨rfl, hvalues⟩ := Draft.bindFilter_eq_ok.mp hbind
    constructor
    · rintro ⟨text', filterValues', hbracketed, hvalues', heq⟩
      obtain rfl := Option.some.inj (htext.symm.trans hbracketed)
      have hchars := congrArg (fun q => q.text.toList) heq
      have hparameters := congrArg CompiledQuery.parameters heq
      simp only [String.toList_ofList] at hchars
      obtain rfl := List.append_cancel_left hparameters
      exact ⟨own, hsome, Layout.closing_injective ps (List.append_cancel_left hchars),
        hvalues.trans hvalues'.symm⟩
    · rintro ⟨own', hown, hmarked, hnames⟩
      obtain rfl := Option.some.inj (hsome.symm.trans hown)
      exact ⟨text, filterValues, htext, hnames.symm.trans hvalues, by rw [hmarked]⟩

/-! ## Execution -/

namespace Service

variable {s : Service} {store : Store} {caller : Caller} {q : Query} {call : CompiledQuery}

/-- Whatever is put to the store has been compiled from the tokens, and its records belong to an
entity of the catalog. -/
theorem compile_of_mem_calls (h : call ∈ (s.execute store caller q).1.calls) :
    ∃ c shown, s.catalog = .ok c ∧ c.compile caller q.tokens = .ok call ∧
      q.entityName?.bind c.entity? = some shown := by
  obtain ⟨-, -, c, hcatalog, hmay⟩ := mayAsk_of_execute h
  cases hmay with
  | execute _ hcompile =>
      obtain ⟨shown, hshown⟩ := exists_shown hcompile
      exact ⟨c, shown, hcatalog, hcompile, hshown⟩

/-- An executed query is restricted by the filter of the entity that its last entity token names.
For every other entity that it names, also the one that the records belong to, this is exactly the
case if the filter of the last one puts the same condition on the caller. -/
theorem execute_restricted_iff (h : call ∈ (s.execute store caller q).1.calls) :
    ∃ c ps front named rest last shown, s.catalog = .ok c ∧ ReadsAll c .empty q.tokens ps ∧
      q.tokens = front ++ named :: rest ∧ named.kind = .entity ∧ (∀ t ∈ rest, t.kind ≠ .entity) ∧
      c.entity? named.text = some last ∧ q.entityName?.bind c.entity? = some shown ∧
      (∀ t ∈ q.tokens, t.kind = .entity → ∃ e, c.entity? t.text = some e) ∧
      (∀ filter, last.filter = some filter → Restricted caller ps filter call) ∧
      ∀ e, (e = shown ∨ ∃ t ∈ q.tokens, t.kind = .entity ∧ c.entity? t.text = some e) →
        ∀ filter, e.filter = some filter →
          (Restricted caller ps filter call ↔
            ∃ own, last.filter = some own ∧ SameCondition caller own filter) := by
  obtain ⟨c, shown, hcatalog, hcompile, hshown⟩ := compile_of_mem_calls h
  obtain ⟨ps, last, hreads, hlast, hcompletes⟩ := Catalog.compile_eq_ok.mp hcompile
  obtain ⟨front, named, rest, htokens, hnamed, hrest, hfound⟩ := Context.exists_of_entity hlast
  refine ⟨c, ps, front, named, rest, last, shown, hcatalog, hreads, htokens, hnamed, hrest, hfound,
    hshown, fun t => hreads.entity_of_mem, ?_, ?_⟩
  · intro filter hfilter
    exact (hcompletes.restricted_iff filter).mpr ⟨filter, hfilter, rfl, rfl⟩
  · intro e _ filter _
    exact hcompletes.restricted_iff filter

end Service

/-! ### Documents and notes -/

namespace Documents

def service : Service := ⟨⟨.ready (catalog "Document"), 1⟩, .declared⟩

theorem new_service : Service.new (.ok (catalog "Document")) = .ok service := by
  have hvalid : (catalog "Document").validate = .ok () := by decide +kernel
  exact Service.new_of_valid hvalid

/-- A store without records. -/
def store : Store := fun _ => .ok []

/-- A query that names several entities. -/
def naming (names : List String) : Query :=
  .ofTokens (⟨.find, "find"⟩ :: names.map (⟨.entity, ·⟩))

def tenantCall : CompiledQuery :=
  ⟨"SELECT DISTINCT x FROM Note x x FROM Document x WHERE x.tenant = ?", [.int64 42]⟩

end Documents

/-- A query that names notes and then documents is restricted to the tenant of the caller. -/
theorem execute_note_document_restricted :
    Documents.tenantCall ∈ (Documents.service.execute Documents.store Documents.caller
        (Documents.naming ["Note", "Document"])).1.calls ∧
      ∃ ps, ReadsAll (Documents.catalog "Document") .empty
          (Documents.naming ["Note", "Document"]).tokens ps ∧
        Restricted Documents.caller ps "x.tenant = :tenant" Documents.tenantCall := by
  have hcalls : (Documents.service.execute Documents.store Documents.caller
      (Documents.naming ["Note", "Document"])).1.calls = [Documents.tenantCall] := by decide +kernel
  have hcall : Documents.tenantCall ∈ (Documents.service.execute Documents.store Documents.caller
      (Documents.naming ["Note", "Document"])).1.calls := by
    rw [hcalls]
    exact List.mem_singleton_self _
  refine ⟨hcall, ?_⟩
  obtain ⟨c, ps, front, named, rest, last, shown, hcatalog, hreads, htokens, hnamed, hrest, hlast,
    -, -, hrestricted, -⟩ := Service.execute_restricted_iff hcall
  cases hcatalog
  have hentity := Context.entity_of (Documents.catalog "Document") front hnamed hrest
  rw [← htokens, hlast] at hentity
  obtain rfl : Documents.document "Document" = last := Option.some.inj hentity
  exact ⟨ps, hreads, hrestricted _ rfl⟩

/-- A query that names documents and then notes returns documents of every tenant: nothing that it
executes is restricted by the filter of documents. -/
theorem execute_document_note_unrestricted :
    (Documents.catalog "Document").isValid = true ∧
      (Documents.naming ["Document", "Note"]).entityName? = some "Document" ∧
      (Documents.catalog "Document").entity? "Document" =
        some (Documents.document "Document") ∧
      (Documents.document "Document").filter = some "x.tenant = :tenant" ∧
      (Documents.service.execute Documents.store Documents.caller
          (Documents.naming ["Document", "Note"])).1.calls =
        [⟨"SELECT DISTINCT x FROM Document x x FROM Note x", []⟩] ∧
      ∀ ps, ¬ Restricted Documents.caller ps "x.tenant = :tenant"
        ⟨"SELECT DISTINCT x FROM Document x x FROM Note x", []⟩ := by
  refine ⟨by decide +kernel, rfl, rfl, rfl, by decide +kernel, ?_⟩
  rintro ps ⟨text, filterValues, -, hvalues, heq⟩
  have hnames : (Placeholder.names "x.tenant = :tenant").map Documents.caller.scope? =
      [some (.int64 42)] := by decide +kernel
  have hparameters := congrArg CompiledQuery.parameters heq
  have hnone : filterValues = [] := (List.append_eq_nil_iff.mp hparameters.symm).2
  rw [hnames, hnone] at hvalues
  cases hvalues

end GuardedQuery
