import GuardedQuery.Proofs.Query.Binding
import GuardedQuery.Proofs.Query.Compilation

/-! # Rendering in two passes

The text of a query that names one entity is the text up to that entity, then all joins, then
everything else, then the filter: what one pass with insertions builds, two passes can write from
left to right. -/

namespace GuardedQuery

open Draft (entityClause)

namespace ReadsAll

variable {c : Catalog} {context : Context} {tokens : List Token} {ps : List Part}

/-- Before the first entity there are no joins. -/
theorem joinCount_eq_zero (h : ReadsAll c context tokens ps) (hc : context.entity = none)
    (hps : ∀ p ∈ ps, p.isEntity = false) : Layout.joinCount ps = 0 := by
  induction h with
  | nil => rfl
  | @cons context token tokens p ps hp _ ih =>
      have hafter : (context.after c token).entity = none := by
        rw [hp.entity_after, hc, Part.entity?_eq_none.mpr (hps p (by simp))]
        rfl
      rw [Layout.joinCount_cons, hp.joinCount_eq_zero hc,
        ih hafter fun p hp => hps p (by simp [hp])]

end ReadsAll

namespace Layout

/-- The filter of an entity behind parts, and the values of its names. -/
inductive FilterText (caller : Caller) (e : Entity) (ps : List Part) :
    List Char → List Value → Prop
  | none (hfilter : e.filter = none) : FilterText caller e ps [] []
  | some {filter filterValues} (hfilter : e.filter = some filter)
      (hbound : (Placeholder.names filter).map caller.scope? = filterValues.map some) :
      FilterText caller e ps (closing ps (Placeholder.marked filter)) filterValues

/-- Parts whose conditions have a bracket if a filter follows them. -/
def withBracket (e : Entity) (ps : List Part) : List Part :=
  if e.filter.isSome then bracketConditions ps else ps

end Layout

/-! ## One entity -/

/-- The parts around the only entity of a query: those before it neither start the conditions nor
join anything. -/
structure OneEntity (before : List Part) (e : Entity) (after : List Part) : Prop where
  before_entity : ∀ p ∈ before, p.isEntity = false
  before_having : ∀ p ∈ before, p.isHaving = false
  before_joins : Layout.joinCount before = 0
  after_entity : ∀ p ∈ after, p.isEntity = false

theorem ReadsAll.split_entity {c : Catalog} {front rest : List Token} {named : Token}
    {ps : List Part} (h : ReadsAll c .empty (front ++ named :: rest) ps)
    (hentity : ∀ t ∈ front, t.kind ≠ .entity) (hhaving : ∀ t ∈ front, t.kind ≠ .having)
    (hnamed : named.kind = .entity) (hrest : ∀ t ∈ rest, t.kind ≠ .entity) :
    ∃ before e after, ps = before ++ .entity e :: after ∧ before.length = front.length ∧
      (Context.of c (front ++ named :: rest)).entity = some e ∧ OneEntity before e after := by
  obtain ⟨before, back, rfl, hbefore, hback⟩ := append_iff.mp h
  have hno := hbefore.no_part Reads.isEntity hentity
  cases hback with
  | @cons _ _ _ p after hp hafter =>
      cases hp with
      | @entity _ e he =>
          refine ⟨before, e, after, rfl, hbefore.length_eq, ?_, hno,
            hbefore.no_part Reads.isHaving hhaving, hbefore.joinCount_eq_zero rfl hno,
            hafter.no_part Reads.isEntity hrest⟩
          rw [Context.entity_of c front hnamed hrest, he]
      | _ => simp_all

namespace OneEntity

variable {before after : List Part} {e : Entity}

/-- Parts with a bracket still have one entity. -/
theorem bracketConditions (h : OneEntity before e after) :
    OneEntity before e (Layout.bracketConditions after) :=
  ⟨h.before_entity, h.before_having, h.before_joins,
    Layout.isEntity_bracketConditions h.after_entity⟩

theorem front_having (h : OneEntity before e after) :
    ∀ p ∈ before ++ [.entity e], p.isHaving = false := by
  intro p hp
  rcases List.mem_append.mp hp with hp | hp
  · exact h.before_having p hp
  · rw [List.mem_singleton.mp hp]
    rfl

/-- Everything up to the entity, all joins, everything else. -/
theorem text_eq (h : OneEntity before e after) :
    Layout.text [] 1 (before ++ .entity e :: after) =
      Layout.body 1 before ++ entityClause e ++ Layout.joins 1 after ++ Layout.body 1 after := by
  rw [Layout.text_append, Layout.text_of_no_entity h.before_entity, h.before_joins]
  simp only [Layout.text, Layout.bodyText, Part.isEntity, Part.joinCount, if_true, Nat.add_zero,
    Layout.nearJoins_of_no_entity h.after_entity, Layout.text_of_no_entity h.after_entity,
    List.append_nil, List.append_assoc]

theorem closing_eq (h : OneEntity before e after) (condition : List Char) :
    Layout.closing (before ++ .entity e :: after) condition = Layout.closing after condition := by
  simpa using Layout.closing_append_left h.front_having after condition

/-- The bracket before the conditions cannot drift: no joins are inserted behind it. -/
theorem bracketed?_eq (h : OneEntity before e after) :
    Layout.bracketed? (before ++ .entity e :: after) =
      some (Layout.text [] 1 (before ++ .entity e :: Layout.bracketConditions after)) := by
  have happend : before ++ .entity e :: after = (before ++ [.entity e]) ++ after := by simp
  rw [Layout.bracketed?_of_no_drift, happend, Layout.bracketConditions_append_left h.front_having]
  · simp
  · intro front conditions hsplit
    rw [happend, Layout.splitHaving_append_left h.front_having, Option.map_eq_some_iff] at hsplit
    obtain ⟨⟨near, conditions⟩, hsplit, heq⟩ := hsplit
    cases heq
    obtain ⟨rfl, -⟩ := Layout.splitHaving_spec hsplit
    have hconditions : ∀ p ∈ conditions, p.isEntity = false :=
      fun p hp => h.after_entity p (by simp [hp])
    rw [Layout.drift, Layout.farJoins_of_no_entity hconditions, Text.byteLength_nil]

/-- The entity and its filter complete a query that two passes write. -/
theorem completes_iff (h : OneEntity before e after) {caller : Caller} {q : CompiledQuery} :
    Completes caller (before ++ .entity e :: after) e q ↔
      ∃ tail filterValues, Layout.FilterText caller e after tail filterValues ∧
        q = ⟨String.ofList ((Layout.body 1 before ++ entityClause e) ++ Layout.joins 1 after ++
            Layout.body 1 (Layout.withBracket e after) ++ tail),
          Layout.values (before ++ .entity e :: after) ++ filterValues⟩ := by
  have hbracketed : Layout.bracketed? (before ++ .entity e :: after) =
      some (Layout.body 1 before ++ entityClause e ++ Layout.joins 1 after ++
        Layout.body 1 (Layout.bracketConditions after)) := by
    rw [h.bracketed?_eq, h.bracketConditions.text_eq, Layout.joins_bracketConditions]
  constructor
  · rintro (hfilter | ⟨hfilter, hbind, htext⟩)
    · refine ⟨[], [], .none hfilter, ?_⟩
      simp only [h.text_eq, Layout.withBracket, hfilter, Option.isSome_none, Bool.false_eq_true,
        if_false, List.append_nil]
    · obtain ⟨rfl, hbound⟩ := Draft.bindFilter_eq_ok.mp hbind
      rw [hbracketed, Option.some.injEq] at htext
      refine ⟨_, _, .some hfilter hbound, ?_⟩
      simp only [← htext, h.closing_eq, Layout.withBracket, hfilter, Option.isSome_some, if_true]
  · rintro ⟨tail, filterValues, hfilter | ⟨hfilter, hbound⟩, rfl⟩
    · simp only [Layout.withBracket, hfilter, Option.isSome_none, Bool.false_eq_true, if_false,
        List.append_nil, ← h.text_eq]
      exact .plain hfilter
    · have hbind := Draft.bindFilter_eq_ok (e := e).mpr ⟨rfl, hbound⟩
      have hcompletes := Completes.filtered hfilter hbind hbracketed
      rw [h.closing_eq] at hcompletes
      simpa only [Layout.withBracket, hfilter, Option.isSome_some, if_true] using hcompletes

end OneEntity

/-- Compilation succeeds exactly if every token has a part and the caller has a value for every name
in the filter, and the query then is what two passes write. -/
theorem compile_eq_ok_iff_rendering {c : Catalog} {caller : Caller} {front rest : List Token}
    {named : Token} (hfront : ∀ t ∈ front, t.kind ≠ .entity ∧ t.kind ≠ .having)
    (hnamed : named.kind = .entity) (hrest : ∀ t ∈ rest, t.kind ≠ .entity) (q : CompiledQuery) :
    c.compile caller (front ++ named :: rest) = .ok q ↔
      ∃ before e after tail filterValues,
        before.length = front.length ∧
        ReadsAll c .empty (front ++ named :: rest) (before ++ .entity e :: after) ∧
        Layout.FilterText caller e after tail filterValues ∧
        q = ⟨String.ofList ((Layout.body 1 before ++ entityClause e) ++ Layout.joins 1 after ++
            Layout.body 1 (Layout.withBracket e after) ++ tail),
          Layout.values (before ++ .entity e :: after) ++ filterValues⟩ := by
  have hentity : ∀ t ∈ front, t.kind ≠ .entity := fun t ht => (hfront t ht).1
  have hhaving : ∀ t ∈ front, t.kind ≠ .having := fun t ht => (hfront t ht).2
  rw [Catalog.compile_eq_ok]
  constructor
  · rintro ⟨ps, e', hreads, he', hq⟩
    obtain ⟨before, e, after, rfl, hlength, he, hone⟩ :=
      hreads.split_entity hentity hhaving hnamed hrest
    obtain rfl := Option.some.inj (he.symm.trans he')
    obtain ⟨tail, filterValues, htail, rfl⟩ := hone.completes_iff.mp hq
    exact ⟨before, e, after, tail, filterValues, hlength, hreads, htail, rfl⟩
  · rintro ⟨before, e, after, tail, filterValues, hlength, hreads, htail, rfl⟩
    obtain ⟨before', e', after', heq, hlength', he, hone⟩ :=
      hreads.split_entity hentity hhaving hnamed hrest
    obtain ⟨rfl, hcons⟩ := List.append_inj heq (hlength.trans hlength'.symm)
    cases hcons
    exact ⟨_, e, hreads, he, hone.completes_iff.mpr ⟨tail, filterValues, htail, rfl⟩⟩

/-- Joins go behind the entity and the bracket behind `WHERE`, wherever the label stands. -/
theorem compile_documents_of_owner :
    (∀ t ∈ [(⟨.find, "find"⟩ : Token)], t.kind ≠ .entity ∧ t.kind ≠ .having) ∧
      (∀ t ∈ [(⟨.having, "having"⟩ : Token), ⟨.attr, "Owner"⟩, ⟨.operator, "in"⟩, ⟨.value, "Ada"⟩],
        t.kind ≠ .entity) ∧
      (Documents.catalog "Document").compile Documents.caller
          [⟨.find, "find"⟩, ⟨.entity, "Document"⟩, ⟨.having, "having"⟩, ⟨.attr, "Owner"⟩,
            ⟨.operator, "in"⟩, ⟨.value, "Ada"⟩] =
        .ok ⟨"SELECT DISTINCT x FROM Document x LEFT JOIN x.owner x1 WHERE ( x1.name IN (?) ) " ++
            "AND ( x.tenant = ? )", [.string "Ada", .int64 42]⟩ := by
  refine ⟨by decide, by decide, ?_⟩
  let before : List Part := [.text "SELECT DISTINCT".toList]
  let after : List Part :=
    [.having, .label "owner" [] "name", .text " IN".toList, .literal ⟨" (?)", [.string "Ada"]⟩]
  apply (@compile_eq_ok_iff_rendering _ _ [⟨.find, "find"⟩] _ _ (by decide) rfl (by decide) _).mpr
  refine ⟨before, Documents.document "Document", after, _, [.int64 42], rfl, ?_,
    .some rfl (by decide +kernel), ?_⟩
  · refine .cons (.find rfl) (.cons (.entity rfl rfl) (.cons (.having rfl) ?_))
    exact Documents.reads_owner_in "Document" rfl
  · have hjoins : Layout.joins 1 after = " LEFT JOIN x.owner x1".toList := by decide +kernel
    have hbody : Layout.body 1 (Layout.withBracket (Documents.document "Document") after) =
        " WHERE ( x1.name IN (?)".toList := by decide +kernel
    have htail : Layout.closing after (Placeholder.marked "x.tenant = :tenant") =
        " ) AND ( x.tenant = ? )".toList := by decide +kernel
    rw [hjoins, hbody, htail]
    decide +kernel

end GuardedQuery
