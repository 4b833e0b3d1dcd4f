import GuardedQuery.Proofs.Query.Sheet

/-! # Compilation by parts

What compilation returns, for tokens in any order, as a function of their parts: the layout of the
parts, with the filter of the entity named last around and behind its conditions. -/

namespace GuardedQuery

namespace Layout

open Draft (entityClause)

/-- The parts before and behind the last start of conditions. -/
def splitHaving : List Part → Option (List Part × List Part)
  | [] => none
  | p :: ps =>
    match splitHaving ps with
    | some (front, conditions) => some (p :: front, conditions)
    | none => if p.isHaving then some ([], ps) else none

theorem splitHaving_eq_none {ps : List Part} :
    splitHaving ps = none ↔ ∀ p ∈ ps, p.isHaving = false := by
  induction ps with
  | nil => simp [splitHaving]
  | cons p ps ih =>
      rw [List.forall_mem_cons, ← ih, splitHaving]
      cases splitHaving ps with
      | none => simp
      | some pair => simp

theorem splitHaving_append (front : List Part) {conditions : List Part}
    (h : ∀ p ∈ conditions, p.isHaving = false) :
    splitHaving (front ++ .having :: conditions) = some (front, conditions) := by
  induction front with
  | nil =>
      have hnone : splitHaving conditions = none := splitHaving_eq_none.mpr h
      simp [splitHaving, hnone, Part.isHaving]
  | cons p front ih => simp [splitHaving, ih]

theorem splitHaving_spec {ps front conditions : List Part}
    (h : splitHaving ps = some (front, conditions)) :
    ps = front ++ .having :: conditions ∧ ∀ p ∈ conditions, p.isHaving = false := by
  induction ps generalizing front with
  | nil => simp [splitHaving] at h
  | cons p ps ih =>
      rw [splitHaving] at h
      split at h
      · rename_i later hlater
        cases h
        obtain ⟨rfl, hconditions⟩ := ih hlater
        exact ⟨rfl, hconditions⟩
      · rename_i hnone
        split at h
        · rename_i hp
          cases h
          cases p <;> simp [Part.isHaving] at hp
          exact ⟨rfl, splitHaving_eq_none.mp hnone⟩
        · cases h

/-- Parts that do not start conditions stay in front. -/
theorem splitHaving_append_left {front : List Part} (h : ∀ p ∈ front, p.isHaving = false)
    (ps : List Part) :
    splitHaving (front ++ ps) =
      (splitHaving ps).map fun (near, conditions) => (front ++ near, conditions) := by
  induction front with
  | nil => simp
  | cons p front ih =>
      have hp := h p (by simp)
      rw [List.cons_append, splitHaving, ih fun p hp => h p (by simp [hp])]
      cases splitHaving ps with
      | none => simp [hp]
      | some pair => simp

/-- The text up to the last start of conditions, with the joins that the conditions add to it. -/
def opening (front conditions : List Part) : List Char :=
  text (nearJoins [] (1 + joinCount front) conditions) 1 front ++ " WHERE".toList

/-- The text behind the last start of conditions. -/
def conditionText (front conditions : List Part) : List Char :=
  text [] (1 + joinCount front) conditions

/-- The bytes between the start of the conditions and the place where a bracket is put before
them. -/
def drift (front conditions : List Part) : Nat :=
  Text.byteLength (farJoins (1 + joinCount front) conditions)

/-- The text of parts with a bracket before their conditions, if they have any; `none` if the place
of the bracket is inside a character. -/
def bracketed? (ps : List Part) : Option (List Char) :=
  match splitHaving ps with
  | none => some (text [] 1 ps)
  | some (front, conditions) =>
    (Text.insertAt (drift front conditions) " (".toList (conditionText front conditions)).map
      (opening front conditions ++ ·)

/-- What a filter writes behind parts. -/
def closing (ps : List Part) (condition : List Char) : List Char :=
  if ps.any Part.isHaving then " ) AND ( ".toList ++ condition ++ " )".toList
  else " WHERE ".toList ++ condition

theorem text_eq_opening_append (front conditions : List Part) :
    text [] 1 (front ++ .having :: conditions) =
      opening front conditions ++ conditionText front conditions := by
  rw [text_append]
  simp only [opening, conditionText, nearJoins, text, bodyText, joinText, Part.isEntity,
    Part.joinCount, Bool.false_eq_true, if_false, List.nil_append, List.append_nil, Nat.add_zero,
    List.append_assoc]

/-- The parts with a bracket directly behind the last start of conditions. -/
def bracketConditions (ps : List Part) : List Part :=
  match splitHaving ps with
  | none => ps
  | some (front, conditions) => front ++ .having :: .text " (".toList :: conditions

theorem bracketConditions_append_left {front : List Part} (h : ∀ p ∈ front, p.isHaving = false)
    (ps : List Part) : bracketConditions (front ++ ps) = front ++ bracketConditions ps := by
  rw [bracketConditions, splitHaving_append_left h, bracketConditions]
  cases splitHaving ps with
  | none => rfl
  | some pair => simp

theorem joins_bracketConditions (number : Nat) (ps : List Part) :
    joins number (bracketConditions ps) = joins number ps := by
  rw [bracketConditions]
  cases h : splitHaving ps with
  | none => rfl
  | some pair =>
      obtain ⟨front, conditions⟩ := pair
      obtain ⟨rfl, -⟩ := splitHaving_spec h
      simp only [joins_append, joins, joinText, Part.joinCount, List.nil_append, Nat.add_zero]

theorem isEntity_bracketConditions {ps : List Part} (h : ∀ p ∈ ps, p.isEntity = false) :
    ∀ p ∈ bracketConditions ps, p.isEntity = false := by
  rw [bracketConditions]
  cases hsplit : splitHaving ps with
  | none => exact h
  | some pair =>
      obtain ⟨front, conditions⟩ := pair
      obtain ⟨rfl, -⟩ := splitHaving_spec hsplit
      intro p hp
      simp only [List.mem_append, List.mem_cons] at hp
      rcases hp with hp | rfl | rfl | hp
      · exact h p (by simp [hp])
      · rfl
      · rfl
      · exact h p (by simp [hp])

/-- A bracket that does not drift stands directly behind the start of the conditions. -/
theorem bracketed?_of_no_drift {ps : List Part}
    (h : ∀ front conditions, splitHaving ps = some (front, conditions) →
      drift front conditions = 0) :
    bracketed? ps = some (text [] 1 (bracketConditions ps)) := by
  cases hsplit : splitHaving ps with
  | none => simp only [bracketed?, bracketConditions, hsplit]
  | some pair =>
      obtain ⟨front, conditions⟩ := pair
      simp only [bracketed?, bracketConditions, hsplit, h front conditions hsplit,
        Text.insertAt_zero, Option.map_some]
      rw [text_append]
      simp only [opening, conditionText, nearJoins, text, bodyText, joinText, Part.isEntity,
        Part.joinCount, Bool.false_eq_true, if_false, List.nil_append, Nat.add_zero,
        List.append_assoc]

theorem closing_append_left {front : List Part} (h : ∀ p ∈ front, p.isHaving = false)
    (ps : List Part) (condition : List Char) :
    closing (front ++ ps) condition = closing ps condition := by
  have hany : front.any Part.isHaving = false := by simpa using h
  simp only [closing, List.any_append, hany, Bool.false_or]

theorem closing_of_splitHaving_eq_some {ps front conditions : List Part}
    (h : splitHaving ps = some (front, conditions)) (condition : List Char) :
    closing ps condition = " ) AND ( ".toList ++ condition ++ " )".toList := by
  obtain ⟨rfl, -⟩ := splitHaving_spec h
  simp [closing, Part.isHaving]

theorem closing_of_splitHaving_eq_none {ps : List Part} (h : splitHaving ps = none)
    (condition : List Char) : closing ps condition = " WHERE ".toList ++ condition := by
  have hps := splitHaving_eq_none.mp h
  have hany : ps.any Part.isHaving = false := by simpa using hps
  simp [closing, hany]

end Layout

/-! ## Parts that tokens can have -/

namespace ReadsAll

variable {c : Catalog} {context : Context} {tokens : List Token} {ps : List Part}

/-- Before the first entity there is nothing to join. -/
theorem nearJoins_eq_nil (h : ReadsAll c context tokens ps) (hc : context.entity = none)
    (number : Nat) : Layout.nearJoins [] number ps = [] := by
  induction h generalizing number with
  | nil => rfl
  | @cons context token tokens p ps hp _ ih =>
      rw [Layout.nearJoins]
      split
      · rfl
      · rename_i hentity
        have hafter : (context.after c token).entity = none := by
          rw [hp.entity_after, hc, Part.entity?_eq_none.mpr (by simpa using hentity)]
          rfl
        have hjoin : Layout.joinText number p = [] := by
          have := hp.joinCount_eq_zero hc
          cases p <;> simp_all [Layout.joinText, Part.joinCount]
        rw [hjoin, ih hafter, List.append_nil]

end ReadsAll

namespace Sheet

/-- The sheet of parts. -/
def ofParts (ps : List Part) : Sheet :=
  ps.foldl add empty

theorem parameters_ofParts (ps : List Part) : (ofParts ps).parameters = Layout.values ps :=
  parameters_foldl_add empty ps

/-- The text of a sheet is the layout of its parts. -/
theorem text_ofParts {ps : List Part} (h : Layout.nearJoins [] 1 ps = []) :
    (ofParts ps).text = Layout.text [] 1 ps := by
  have htext := text_foldl_add empty ps []
  rw [List.append_nil] at htext
  simpa [ofParts, text, empty, h] using htext

theorem filterAt_of_splitHaving_eq_none {ps : List Part} (h : Layout.splitHaving ps = none) :
    (ofParts ps).filterAt = none := by
  rw [ofParts, filterAt_foldl_add empty (Layout.splitHaving_eq_none.mp h)]
  rfl

/-- Joins that are still to come lengthen the text of a sheet. -/
theorem byteLength_text_ofParts_add {ps : List Part} {more : List Char}
    (h : Layout.nearJoins more 1 ps = []) :
    Text.byteLength (ofParts ps).text + Text.byteLength more =
      Text.byteLength (Layout.text more 1 ps) := by
  have htext := congrArg Text.byteLength (text_foldl_add empty ps more)
  simp only [empty, h, Text.byteLength_append, Text.byteLength_nil] at htext
  simp only [ofParts, text, Text.byteLength_append, empty]
  omega

/-- A start of conditions is recorded behind its `WHERE`. -/
theorem filterAt_add_having (s : Sheet) :
    (s.add .having).filterAt =
      some (Text.byteLength s.text + Text.byteLength " WHERE".toList) := by
  simp only [add, write, text, Text.byteLength_append, Nat.add_assoc]

/-- The recorded place of the bracket is behind the start of the conditions by the drift. -/
theorem filterAt_of_splitHaving_eq_some {ps front conditions : List Part}
    (h : Layout.nearJoins [] 1 ps = [])
    (hsplit : Layout.splitHaving ps = some (front, conditions)) :
    (ofParts ps).filterAt =
      some (Text.byteLength (Layout.opening front conditions) + Layout.drift front conditions) := by
  obtain ⟨rfl, hconditions⟩ := Layout.splitHaving_spec hsplit
  have hnumber : ((ofParts front).add .having).nextAlias = 1 + Layout.joinCount front :=
    nextAlias_foldl_add empty front
  have hfront : Layout.nearJoins (Layout.nearJoins [] (1 + Layout.joinCount front) conditions) 1
      front = [] := by
    simpa [Layout.nearJoins_append, Layout.nearJoins, Part.isEntity, Layout.joinText,
      Part.joinCount] using h
  have hjoins : Text.byteLength (Layout.joins (1 + Layout.joinCount front) conditions) =
      Text.byteLength (Layout.nearJoins [] (1 + Layout.joinCount front) conditions) +
        Layout.drift front conditions := by
    rw [Layout.joins_eq_nearJoins_append_farJoins, Text.byteLength_append]
    rfl
  have hsheet : ofParts (front ++ .having :: conditions) =
      conditions.foldl add ((ofParts front).add .having) := by
    rw [ofParts, List.foldl_append, List.foldl_cons]
    rfl
  rw [hsheet, filterAt_foldl_add _ hconditions, filterAt_add_having, hnumber, Option.map_some,
    hjoins, Layout.opening, Text.byteLength_append, ← byteLength_text_ofParts_add hfront]
  congr 1
  omega

/-- The bracket before the conditions goes to the recorded place. -/
theorem insertAt_filterAt {ps front conditions : List Part} (h : Layout.nearJoins [] 1 ps = [])
    (hsplit : Layout.splitHaving ps = some (front, conditions)) :
    ∃ offset, (ofParts ps).filterAt = some offset ∧
      Text.insertAt offset " (".toList (ofParts ps).text = Layout.bracketed? ps := by
  refine ⟨_, filterAt_of_splitHaving_eq_some h hsplit, ?_⟩
  rw [text_ofParts h, Layout.bracketed?, hsplit]
  obtain ⟨rfl, -⟩ := Layout.splitHaving_spec hsplit
  rw [Layout.text_eq_opening_append, Text.insertAt_byteLength_add]

/-- A filter is put around and behind the conditions of a sheet. -/
theorem addFilter_draft {ps : List Part} (h : Layout.nearJoins [] 1 ps = []) (context : Context)
    (e : Entity) (filter : String) (caller : Caller) :
    ((ofParts ps).draft context).addFilter e filter caller =
      Draft.bindFilter e filter caller >>= fun (condition, filterValues) =>
        match Layout.bracketed? ps with
        | some text => .ok { (ofParts ps).draft context with
            text := text ++ Layout.closing ps condition
            parameters := Layout.values ps ++ filterValues }
        | none => .error (.misplacedSplice ((ofParts ps).filterAt.getD 0)) := by
  unfold Draft.addFilter
  cases Draft.bindFilter e filter caller with
  | error e => rfl
  | ok bound =>
      obtain ⟨condition, filterValues⟩ := bound
      simp only [except_ok_bind]
      cases hsplit : Layout.splitHaving ps with
      | none =>
          have hplace := filterAt_of_splitHaving_eq_none hsplit
          have hbracketed : Layout.bracketed? ps = some (Layout.text [] 1 ps) := by
            rw [Layout.bracketed?, hsplit]
          simp only [draft, hplace, hbracketed, Layout.closing_of_splitHaving_eq_none hsplit,
            Draft.write, text_ofParts h, parameters_ofParts, except_ok_bind]
      | some pair =>
          obtain ⟨front, conditions⟩ := pair
          obtain ⟨offset, hplace, hinsert⟩ := insertAt_filterAt h hsplit
          simp only [draft, hplace, Draft.splice, hinsert]
          cases Layout.bracketed? ps with
          | none => rfl
          | some text =>
              simp only [Layout.closing_of_splitHaving_eq_some hsplit, Draft.write,
                parameters_ofParts, except_ok_bind]

end Sheet

/-! ## Compilation -/

/-- A query is made of parts and the filter of an entity, if the entity has one. -/
inductive Completes (caller : Caller) (ps : List Part) (e : Entity) : CompiledQuery → Prop
  | plain (hfilter : e.filter = none) :
      Completes caller ps e ⟨String.ofList (Layout.text [] 1 ps), Layout.values ps⟩
  | filtered {filter condition filterValues text} (hfilter : e.filter = some filter)
      (hbind : Draft.bindFilter e filter caller = .ok (condition, filterValues))
      (htext : Layout.bracketed? ps = some text) :
      Completes caller ps e
        ⟨String.ofList (text ++ Layout.closing ps condition), Layout.values ps ++ filterValues⟩

namespace Catalog

theorem compile_eq_finish (c : Catalog) (caller : Caller) (tokens : List Token) :
    c.compile caller tokens =
      c.parts tokens >>= fun ps =>
        ((Sheet.ofParts ps).draft (.of c tokens)).finish caller := by
  have hrun := Sheet.draft_steps c .empty .empty 0 tokens
  unfold compile parts
  rw [show Draft.empty = Sheet.empty.draft .empty from rfl, hrun]
  cases c.partsFrom .empty 0 tokens with
  | error e => rfl
  | ok ps => rfl

theorem finish_eq_ok {ps : List Part} (h : Layout.nearJoins [] 1 ps = []) {context : Context}
    {caller : Caller} {q : CompiledQuery} :
    ((Sheet.ofParts ps).draft context).finish caller = .ok q ↔
      ∃ e, context.entity = some e ∧ Completes caller ps e q := by
  unfold Draft.finish
  rw [Sheet.draft_entity]
  cases context.entity with
  | none => simp
  | some e =>
      simp only [Option.some.injEq, exists_eq_left']
      cases hfilter : e.filter with
      | none =>
          simp only [except_ok_bind, Sheet.draft, Sheet.text_ofParts h, Sheet.parameters_ofParts,
            Except.ok.injEq]
          constructor
          · rintro rfl
            exact .plain hfilter
          · rintro (_ | ⟨hsome⟩)
            · rfl
            · simp [hfilter] at hsome
      | some filter =>
          simp only [Sheet.addFilter_draft h, except_bind_eq_ok]
          constructor
          · rintro ⟨d, ⟨⟨condition, filterValues⟩, hbind, hd⟩, hq⟩
            split at hd
            · rename_i text htext
              cases hd
              cases hq
              exact .filtered hfilter hbind htext
            · cases hd
          · rintro (hnone | ⟨hsome, hbind, htext⟩)
            · simp [hfilter] at hnone
            · rw [hfilter, Option.some.injEq] at hsome
              subst hsome
              exact ⟨_, ⟨_, hbind, by simp only [htext]; rfl⟩, rfl⟩

/-- Compilation succeeds exactly if every token has a part and the filter of the entity named last
can be added. -/
theorem compile_eq_ok {c : Catalog} {caller : Caller} {tokens : List Token} {q : CompiledQuery} :
    c.compile caller tokens = .ok q ↔
      ∃ ps e, ReadsAll c .empty tokens ps ∧ (Context.of c tokens).entity = some e ∧
        Completes caller ps e q := by
  rw [compile_eq_finish, except_bind_eq_ok]
  constructor
  · rintro ⟨ps, hps, hq⟩
    have hreads := partsFrom_eq_ok.mp hps
    obtain ⟨e, he, hq⟩ := (finish_eq_ok (hreads.nearJoins_eq_nil rfl 1)).mp hq
    exact ⟨ps, e, hreads, he, hq⟩
  · rintro ⟨ps, e, hreads, he, hq⟩
    exact ⟨ps, partsFrom_eq_ok.mpr hreads,
      (finish_eq_ok (hreads.nearJoins_eq_nil rfl 1)).mpr ⟨e, he, hq⟩⟩

end Catalog

/-! ## Documents

A catalog for the cases of later results: documents belong to a tenant and have an owner, and notes
belong to everyone. -/

namespace Documents

/-- The owner of a document. -/
def owner : Attribute :=
  ((Attribute.new "owner" "Owner" (.reference "Person")).withLabel "name").ownedBy "Document"
    .unrestricted

/-- Documents, of which a caller sees those of its tenant. -/
def document (typeId : String) : Entity :=
  ((Entity.new typeId "Document").withFilter "x.tenant = :tenant").withAttributes
    [.new "title" "Title" .text, owner]

def note : Entity := .new "Note" "Note"

def catalog (typeId : String) : Catalog :=
  (Catalog.new "find").withEntities [document typeId, note]

/-- A caller of the tenant 42. -/
def caller : Caller := Caller.anonymous.withScope "tenant" (.int64 42)

theorem joinAlias_one : Draft.joinAlias 1 = ['x', '1'] := by decide +kernel

theorem chain_owner : Layout.chain 1 ["owner"] = " LEFT JOIN x.owner x1".toList := by
  decide +kernel

theorem bindFilter_document (typeId : String) :
    Draft.bindFilter (document typeId) "x.tenant = :tenant" caller =
      .ok ("x.tenant = ?".toList, [.int64 42]) := by
  have hname : Draft.bindFilter (document typeId) "x.tenant = :tenant" caller =
      Draft.bindFilter (document "Document") "x.tenant = :tenant" caller := rfl
  rw [hname]
  decide +kernel

/-- Behind a document, its owner can be compared with a list of names. -/
theorem reads_owner_in (typeId : String) {context : Context}
    (h : context.entity = some (document typeId)) :
    ReadsAll (catalog typeId) context [⟨.attr, "Owner"⟩, ⟨.operator, "in"⟩, ⟨.value, "Ada"⟩]
      [.label "owner" [] "name", .text " IN".toList, .literal ⟨" (?)", [.string "Ada"]⟩] := by
  have howner : (document typeId).attribute? "Owner" .query = some owner := rfl
  have hattr : (context.after (catalog typeId) ⟨.attr, "Owner"⟩).attr = some owner := by
    simp only [Context.after, h, Option.bind_some, howner]
  have hread : Literal.read owner "Ada" .builtin = .ok ⟨" (?)", [.string "Ada"]⟩ := by
    decide +kernel
  refine .cons (.label rfl h howner rfl (by decide +kernel)) ?_
  refine .cons (@Reads.operator _ _ _ rfl .isIn rfl) ?_
  exact .cons (.value rfl hattr hread) (.nil _)

/-- Documents with a question mark for a title, and with one of two owners. -/
def titledAndOwned : List Token :=
  [⟨.find, "find"⟩, ⟨.entity, "Document"⟩, ⟨.having, "having"⟩, ⟨.attr, "Title"⟩, ⟨.operator, "="⟩,
    ⟨.value, "?"⟩, ⟨.separator, "and"⟩, ⟨.attr, "Owner"⟩, ⟨.operator, "in"⟩, ⟨.value, "Ada,Bob"⟩]

def titledAndOwnedParts : List Part :=
  [.text "SELECT DISTINCT".toList, .entity (document "Document"), .having, .text " x.title".toList,
    .text " =".toList, .literal (.single (.string "?")), .text " AND".toList,
    .label "owner" [] "name", .text " IN".toList, .literal (.list [.string "Ada", .string "Bob"])]

theorem bracketed_titledAndOwned :
    Layout.bracketed? titledAndOwnedParts =
      some ("SELECT DISTINCT x FROM Document x LEFT JOIN x.owner x1 WHERE ( x.title = ? AND " ++
        "x1.name IN (?,?)").toList := by
  decide +kernel

def titledAndOwnedQuery : CompiledQuery :=
  ⟨"SELECT DISTINCT x FROM Document x LEFT JOIN x.owner x1 WHERE ( x.title = ? AND " ++
      "x1.name IN (?,?) ) AND ( x.tenant = ? )",
    [.string "?", .string "Ada", .string "Bob", .int64 42]⟩

theorem compile_titledAndOwned :
    (catalog "Document").compile caller titledAndOwned = .ok titledAndOwnedQuery := by
  have hparts : (catalog "Document").parts titledAndOwned = .ok titledAndOwnedParts := by
    decide +kernel
  have hentity : (Context.of (catalog "Document") titledAndOwned).entity =
      some (document "Document") := by decide +kernel
  have hcompletes := Completes.filtered rfl (bindFilter_document "Document")
    bracketed_titledAndOwned
  rw [Catalog.compile_eq_ok.mpr ⟨_, _, Catalog.partsFrom_eq_ok.mp hparts, hentity, hcompletes⟩]
  decide +kernel

end Documents

end GuardedQuery
