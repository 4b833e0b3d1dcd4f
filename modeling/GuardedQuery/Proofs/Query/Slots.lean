import GuardedQuery.Proofs.Query.Compilation
import GuardedQuery.Proofs.Query.Glyph

/-! # Slots

A compiled query has a `?` for every parameter, and which value belongs to which `?` is decided by
their order alone. Here a query is compiled once more into a text whose placeholders remember the
value they were written for. Without the values this is the compiled query, so the values stand in
the text in the order of the parameters. -/

namespace GuardedQuery

/-! ## Compilation with values in the text -/

/-- A sheet whose text remembers its values, so that it needs no parameters beside it. -/
structure SlotSheet where
  before : List Glyph
  after : List Glyph
  nextAlias : Nat
  /-- Where a draft takes the start of the conditions to be. -/
  filterAt : Option Nat

namespace SlotSheet

open Glyph (plain fill)

def empty : SlotSheet := ⟨[], [], 1, none⟩

def glyphs (s : SlotSheet) : List Glyph :=
  s.before ++ s.after

def write (s : SlotSheet) (piece : List Glyph) : SlotSheet :=
  { s with after := s.after ++ piece }

/-- The sheet after one more part. The values of a literal go where its placeholders go. -/
def add (s : SlotSheet) : Part → SlotSheet
  | .text chars => s.write (plain chars)
  | .having =>
    let s := s.write (plain " WHERE".toList)
    { s with filterAt := some (Text.byteLength (Glyph.text s.glyphs)) }
  | .entity e => { s with before := s.glyphs ++ plain (Draft.entityClause e), after := [] }
  | .label hop hops field =>
    let joins := Layout.chain s.nextAlias (hop :: hops)
    { before := s.before ++ plain joins
      after := s.after ++ plain (Layout.bodyText s.nextAlias (.label hop hops field))
      nextAlias := s.nextAlias + (hops.length + 1)
      filterAt := s.filterAt.map (· + Text.byteLength joins) }
  | .literal l => s.write (fill l.fragment.toList l.values)

def ofParts (ps : List Part) : SlotSheet :=
  ps.foldl add empty

def bindFilter (e : Entity) (filter : String) (caller : Caller) :
    Except CompileError (List Glyph) :=
  Glyph.ofPieces
    (fun name =>
      match caller.scope? name with
      | some value => .ok value
      | none => .error (.missingScope e.displayName name))
    (Placeholder.pieces filter.toList)

/-- Put the filter of an entity around and behind the conditions. -/
def addFilter (s : SlotSheet) (e : Entity) (filter : String) (caller : Caller) :
    Except CompileError (List Glyph) := do
  let condition ← bindFilter e filter caller
  match s.filterAt with
  | some offset =>
    match Glyph.insertAt offset (plain " (".toList) s.glyphs with
    | some gs => .ok (gs ++ plain " ) AND ( ".toList ++ condition ++ plain " )".toList)
    | none => .error (.misplacedSplice offset)
  | none => .ok (s.glyphs ++ plain " WHERE ".toList ++ condition)

def finish (s : SlotSheet) (e : Entity) (caller : Caller) : Except CompileError (List Glyph) :=
  match e.filter with
  | some filter => s.addFilter e filter caller
  | none => .ok s.glyphs

end SlotSheet

/-- Compile tokens for a caller into a text that remembers its values. -/
def Catalog.compileSlots (c : Catalog) (caller : Caller) (tokens : List Token) :
    Except CompileError (List Glyph) := do
  let ps ← c.parts tokens
  match (Context.of c tokens).entity with
  | none => .error .missingEntity
  | some e => (SlotSheet.ofParts ps).finish e caller

/-! ## Without the values -/

/-- The literals of a part have a value for every placeholder. -/
def Part.Paired (p : Part) : Prop :=
  ∀ l, p = .literal l → l.fragment.toList.count '?' = l.values.length

theorem count_mark_intercalate (values : List Value) :
    ([','].intercalate (values.map fun _ => ['?'])).count '?' = values.length := by
  induction values with
  | nil => rfl
  | cons value values ih =>
      cases values with
      | nil => rfl
      | cons next values =>
          rw [List.map_cons] at ih
          rw [List.map_cons, List.map_cons, List.intercalate_cons_cons, List.count_append, ih]
          simp [Nat.add_comm]

theorem Literal.count_of_read {a : Attribute} {literal : String} {readers : LiteralReaders}
    {l : ParsedLiteral} (h : Literal.read a literal readers = .ok l) :
    l.fragment.toList.count '?' = l.values.length := by
  rcases Literal.shape_of_read h with ⟨value, rfl⟩ | ⟨values, rfl⟩
  · have hmark : " ?".toList.count '?' = 1 := by decide
    exact hmark
  · have hopening : " (".toList.count '?' = 0 := by decide
    have hclosing : ")".toList.count '?' = 0 := by decide
    rw [ParsedLiteral.toList_fragment_list, List.count_append, List.count_append, hopening,
      hclosing, count_mark_intercalate, Nat.zero_add, Nat.add_zero]
    rfl

theorem Reads.paired {c : Catalog} {context : Context} {token : Token} {p : Part}
    (h : Reads c context token p) : p.Paired := by
  rintro l rfl
  cases h with
  | value _ _ hl => exact Literal.count_of_read hl

namespace SlotSheet

open Glyph (plain fill)

/-- A sheet without the values in its text, which become its parameters. -/
def sheet (s : SlotSheet) : Sheet :=
  ⟨Glyph.text s.before, Glyph.text s.after, Glyph.values s.glyphs, s.nextAlias, s.filterAt⟩

theorem text_sheet (s : SlotSheet) : s.sheet.text = Glyph.text s.glyphs :=
  (Glyph.text_append s.before s.after).symm

theorem sheet_write (s : SlotSheet) (piece : List Glyph) :
    (s.write piece).sheet =
      { s.sheet.write (Glyph.text piece) with
        parameters := s.sheet.parameters ++ Glyph.values piece } := by
  simp [sheet, write, Sheet.write, glyphs]

/-- Parts are added in the same way with and without the values. -/
theorem sheet_add (s : SlotSheet) {p : Part} (h : p.Paired) :
    (s.add p).sheet = s.sheet.add p := by
  cases p with
  | text chars => simp [add, Sheet.add, sheet_write, Sheet.write]
  | having => simp [add, Sheet.add, sheet, glyphs, write, Sheet.write, Sheet.text]
  | entity e => simp [add, Sheet.add, sheet, glyphs, Sheet.text]
  | label hop hops field => simp [add, Sheet.add, sheet, glyphs]
  | literal l =>
      have hvalues := Glyph.values_fill (Nat.le_of_eq (h l rfl).symm)
      rw [add, sheet_write, Glyph.text_fill, hvalues]
      rfl

theorem sheet_ofParts {ps : List Part} (h : ∀ p ∈ ps, p.Paired) :
    (ofParts ps).sheet = Sheet.ofParts ps := by
  -- the induction goes over the sheets that are reached, not only over the empty one
  have hrun : ∀ s : SlotSheet, (ps.foldl add s).sheet = ps.foldl Sheet.add s.sheet := by
    induction ps with
    | nil => exact fun s => rfl
    | cons p ps ih =>
        intro s
        rw [List.foldl_cons, List.foldl_cons, ih fun p hp => h p (by simp [hp]),
          sheet_add s (h p (by simp))]
  exact hrun empty

theorem bindFilter_eq (e : Entity) (filter : String) (caller : Caller) :
    Draft.bindFilter e filter caller =
      (bindFilter e filter caller).map fun gs => (Glyph.text gs, Glyph.values gs) :=
  Glyph.bindPieces_eq _ _

theorem addFilter_draft (s : SlotSheet) (context : Context) (e : Entity) (filter : String)
    (caller : Caller) :
    ((s.sheet.draft context).addFilter e filter caller).map
        (fun d => (⟨String.ofList d.text, d.parameters⟩ : CompiledQuery)) =
      (s.addFilter e filter caller).map Glyph.query := by
  rw [Draft.addFilter, addFilter, bindFilter_eq]
  cases bindFilter e filter caller with
  | error error => rfl
  | ok condition =>
      simp only [except_map_ok, except_ok_bind]
      cases hplace : s.filterAt with
      | none =>
          simp [Sheet.draft, sheet, hplace, Draft.write, Glyph.query, glyphs, Sheet.text]
      | some offset =>
          have hinsert := Glyph.map_text_insertAt offset (plain " (".toList) s.glyphs
          rw [Glyph.text_plain, ← text_sheet] at hinsert
          have hdraft : (s.sheet.draft context).filterAt = some offset := hplace
          have htext : (s.sheet.draft context).text = s.sheet.text := rfl
          simp only [hdraft, Draft.splice, htext, ← hinsert]
          cases hglyphs : Glyph.insertAt offset (plain " (".toList) s.glyphs with
          | none => rfl
          | some gs =>
              -- the bracket holds no values, so those on its two sides stay in order
              obtain ⟨front, rest, hsplit, rfl⟩ := Glyph.exists_of_insertAt hglyphs
              simp [Draft.write, Sheet.draft, sheet, Glyph.query, hsplit]

/-- A sheet is completed in the same way with and without the values. -/
theorem finish_draft (s : SlotSheet) {context : Context} {e : Entity}
    (he : context.entity = some e) (caller : Caller) :
    (s.sheet.draft context).finish caller = (s.finish e caller).map Glyph.query := by
  rw [Draft.finish, Sheet.draft_entity, he, finish]
  cases hfilter : e.filter with
  | none =>
      simp only [hfilter, except_ok_bind, except_map_ok, Glyph.query, ← text_sheet]
      rfl
  | some filter =>
      simp only [hfilter, ← addFilter_draft s context]
      cases (s.sheet.draft context).addFilter e filter caller <;> rfl

end SlotSheet

/-- Compilation is compilation with values in the text, without the values. -/
theorem Catalog.compile_eq_compileSlots (c : Catalog) (caller : Caller) (tokens : List Token) :
    c.compile caller tokens = (c.compileSlots caller tokens).map Glyph.query := by
  rw [compile_eq_finish, compileSlots]
  cases hparts : c.parts tokens with
  | error e => rfl
  | ok ps =>
      have hpaired : ∀ p ∈ ps, p.Paired := by
        intro p hp
        obtain ⟨context, token, -, hpart⟩ := exists_reads_of_parts hparts hp
        exact hpart.paired
      rw [except_ok_bind, except_ok_bind, ← SlotSheet.sheet_ofParts hpaired]
      cases he : (Context.of c tokens).entity with
      | none =>
          rw [Draft.finish, Sheet.draft_entity, he]
          rfl
      | some e => exact SlotSheet.finish_draft _ he caller

/-! ## Names without question marks -/

/-- Nothing that the catalog writes into a query holds a question mark. -/
def Catalog.MarkFree (c : Catalog) : Prop :=
  ∀ e ∈ c.entities, '?' ∉ e.typeId.toList ∧ (∀ filter ∈ e.filter, '?' ∉ filter.toList) ∧
    ∀ a ∈ e.attributes, '?' ∉ a.name.toList ∧ ∀ path ∈ a.labelPath?, '?' ∉ path.toList

instance (c : Catalog) : Decidable c.MarkFree :=
  inferInstanceAs (Decidable (∀ e ∈ c.entities, _))

/-- The text that a part writes holds no question mark but those of a literal. -/
inductive Part.Unmarked : Part → Prop
  | text {chars} (h : '?' ∉ chars) : Unmarked (.text chars)
  | having : Unmarked .having
  | entity {e : Entity} (h : '?' ∉ e.typeId.toList) : Unmarked (.entity e)
  | label {hop hops field} (h : ∀ name ∈ field :: hop :: hops, '?' ∉ name.toList) :
      Unmarked (.label hop hops field)
  | literal (l) : Unmarked (.literal l)

theorem mark_notMem_joinAlias (number : Nat) : '?' ∉ Draft.joinAlias number :=
  Draft.notMem_joinAlias (by decide) (by decide) number

theorem mark_notMem_fieldOf {source field : List Char} (hsource : '?' ∉ source)
    (hfield : '?' ∉ field) : '?' ∉ Draft.fieldOf source field := by
  simp [Draft.fieldOf, hsource, hfield]

theorem mark_notMem_joinClause {source hop target : List Char} (hsource : '?' ∉ source)
    (hhop : '?' ∉ hop) (htarget : '?' ∉ target) : '?' ∉ Draft.joinClause source hop target := by
  have hjoin : '?' ∉ " LEFT JOIN".toList := by decide
  have hfield := mark_notMem_fieldOf hsource hhop
  have htarget : '?' ∉ ' ' :: target := by simpa using htarget
  unfold Draft.joinClause
  simp only [List.mem_append, not_or]
  exact ⟨⟨hjoin, hfield⟩, htarget⟩

theorem mark_notMem_chain {hops : List String} (h : ∀ hop ∈ hops, '?' ∉ hop.toList)
    (number : Nat) : '?' ∉ Layout.chain number hops := by
  rw [Layout.chain, List.mem_flatMap]
  rintro ⟨⟨hop, k⟩, hmem, hmark⟩
  have hhop : '?' ∉ hop.toList := by
    rw [(List.mem_zipIdx hmem).2.2]
    exact h _ (List.getElem_mem _)
  have hsource : '?' ∉ (if k = number then Draft.rootAlias else Draft.joinAlias (k - 1)) := by
    split
    · decide
    · exact mark_notMem_joinAlias _
  exact mark_notMem_joinClause hsource hhop (mark_notMem_joinAlias k) hmark

theorem mark_notMem_entityClause {e : Entity} (h : '?' ∉ e.typeId.toList) :
    '?' ∉ Draft.entityClause e := by
  have hfrom : '?' ∉ " FROM ".toList := by decide
  have hroot : '?' ∉ ' ' :: Draft.rootAlias := by decide
  unfold Draft.entityClause
  simp only [List.mem_append, not_or]
  exact ⟨⟨⟨hroot, hfrom⟩, h⟩, hroot⟩

theorem Reads.unmarked {c : Catalog} {context : Context} {token : Token} {p : Part}
    (h : Reads c context token p) (hc : c.MarkFree)
    (hcontext : ∀ e, context.entity = some e → e ∈ c.entities) : p.Unmarked := by
  have hnames : ∀ {e a}, context.entity = some e → e.attribute? token.text .query = some a →
      '?' ∉ a.name.toList ∧ ∀ path ∈ a.labelPath?, '?' ∉ path.toList := by
    intro e a he ha
    exact (hc e (hcontext e he)).2.2 a (Entity.mem_of_attribute? ha)
  cases h with
  | find | openBracket | closeBracket => exact .text (by decide)
  | having => exact .having
  | entity _ he => exact .entity (hc _ (List.mem_of_find?_eq_some he)).1
  | field _ he ha => exact .text (mark_notMem_fieldOf (by decide) (hnames he ha).1)
  | label _ he ha _ hpath =>
      obtain ⟨path, hlabel, hjoins⟩ := Option.bind_eq_some_iff.mp hpath
      refine .label fun name hname hmark => ?_
      exact (hnames he ha).2 path hlabel (Draft.mem_of_joinsOf? hjoins (by simpa using hname) hmark)
  | @operator _ operator => exact .text (by cases operator <;> decide)
  | value => exact .literal _
  | @separator _ separator => exact .text (by cases separator <;> decide)

namespace SlotSheet

open Glyph (plain fill char_mem_plain)

/-- A part adds no `?` without a value. -/
theorem mark_notMem_add {s : SlotSheet} {p : Part} (hs : .char '?' ∉ s.glyphs)
    (hp : p.Unmarked) (hpaired : p.Paired) : .char '?' ∉ (s.add p).glyphs := by
  obtain ⟨hbefore, hafter⟩ : .char '?' ∉ s.before ∧ .char '?' ∉ s.after := by
    simpa [glyphs] using hs
  cases hp with
  | text h => simp [add, glyphs, write, hbefore, hafter, char_mem_plain, h]
  | having => simp [add, glyphs, write, hbefore, hafter, char_mem_plain]
  | entity h =>
      simp [add, glyphs, hbefore, hafter, char_mem_plain, mark_notMem_entityClause h]
  | @label hop hops field h =>
      have hhops : ∀ name ∈ hop :: hops, '?' ∉ name.toList :=
        fun name hname => h name (List.mem_cons_of_mem field hname)
      have hchain := mark_notMem_chain hhops s.nextAlias
      have hfield := mark_notMem_fieldOf (mark_notMem_joinAlias (s.nextAlias + hops.length))
        (h field (by simp))
      simp [add, glyphs, hbefore, hafter, char_mem_plain, hchain, hfield, Layout.bodyText]
  | literal l =>
      have hfill := Glyph.mark_notMem_fill (Nat.le_of_eq (hpaired l rfl))
      simp [add, glyphs, write, hbefore, hafter, hfill]

theorem mark_notMem_ofParts {ps : List Part} (h : ∀ p ∈ ps, p.Unmarked ∧ p.Paired) :
    .char '?' ∉ (ofParts ps).glyphs := by
  have hrun : ∀ s : SlotSheet, .char '?' ∉ s.glyphs → .char '?' ∉ (ps.foldl add s).glyphs := by
    induction ps with
    | nil => exact fun s hs => hs
    | cons p ps ih =>
        intro s hs
        obtain ⟨hp, hpaired⟩ := h p (by simp)
        exact ih (fun p hp => h p (by simp [hp])) _ (mark_notMem_add hs hp hpaired)
  exact hrun empty (by simp [empty, glyphs])

theorem mark_notMem_bindFilter {e : Entity} {filter : String} {caller : Caller} {gs : List Glyph}
    (h : bindFilter e filter caller = .ok gs) (hfilter : '?' ∉ filter.toList) :
    .char '?' ∉ gs := by
  intro hmark
  exact hfilter (Placeholder.mem_of_char_mem_piecesFrom (Glyph.char_mem_of_ofPieces h hmark))

theorem mark_notMem_finish {s : SlotSheet} {e : Entity} {caller : Caller} {gs : List Glyph}
    (h : s.finish e caller = .ok gs) (hs : .char '?' ∉ s.glyphs)
    (he : ∀ filter ∈ e.filter, '?' ∉ filter.toList) : .char '?' ∉ gs := by
  rw [finish] at h
  cases hfilter : e.filter with
  | none =>
      simp only [hfilter, Except.ok.injEq] at h
      rwa [← h]
  | some filter =>
      simp only [hfilter, addFilter] at h
      obtain ⟨condition, hbind, h⟩ := except_bind_eq_ok.mp h
      have hcondition := mark_notMem_bindFilter hbind (he filter hfilter)
      split at h
      · split at h
        · rename_i inserted hinsert
          obtain ⟨front, rest, hglyphs, rfl⟩ := Glyph.exists_of_insertAt hinsert
          rw [hglyphs, List.mem_append, not_or] at hs
          cases h
          simp [char_mem_plain, hs, hcondition]
        · cases h
      · cases h
        simp [char_mem_plain, hs, hcondition]

end SlotSheet

/-- In a query over a catalog without question marks, every `?` has a value. -/
theorem Catalog.mark_notMem_compileSlots {c : Catalog} {caller : Caller} {tokens : List Token}
    {gs : List Glyph} (hc : c.MarkFree) (h : c.compileSlots caller tokens = .ok gs) :
    .char '?' ∉ gs := by
  rw [compileSlots] at h
  obtain ⟨ps, hparts, h⟩ := except_bind_eq_ok.mp h
  have hps : ∀ p ∈ ps, p.Unmarked ∧ p.Paired := by
    intro p hp
    obtain ⟨context, token, hcontext, hpart⟩ := exists_reads_of_parts hparts hp
    exact ⟨hpart.unmarked hc hcontext, hpart.paired⟩
  split at h
  · cases h
  · rename_i e he
    have hmem := Context.entity_mem_of c tokens e he
    exact SlotSheet.mark_notMem_finish h (SlotSheet.mark_notMem_ofParts hps) (hc e hmem).2.1

/-- The values of a compiled query stand in its text, each in the placeholder that was written for
it, in the order of the parameters; over a catalog without question marks these are all the `?` of
the text, so that the first belongs to the first parameter, and so on. -/
theorem slots_pair_parameters {c : Catalog} {caller : Caller} {tokens : List Token}
    {q : CompiledQuery} (hc : c.MarkFree) (hq : c.compile caller tokens = .ok q) :
    ∃ gs, c.compileSlots caller tokens = .ok gs ∧
      Glyph.text gs = q.text.toList ∧ Glyph.values gs = q.parameters ∧
      gs.filter (·.shown = '?') = q.parameters.map .slot ∧
      q.text.toList.count '?' = q.parameters.length := by
  rw [Catalog.compile_eq_compileSlots, except_map_eq_ok] at hq
  obtain ⟨gs, hgs, rfl⟩ := hq
  have hslots := Glyph.filter_shown_eq (Catalog.mark_notMem_compileSlots hc hgs)
  refine ⟨gs, hgs, (String.toList_ofList).symm, rfl, hslots, ?_⟩
  have hcount : (Glyph.text gs).count '?' = (gs.filter (·.shown = '?')).length := by
    rw [Glyph.text, List.count, List.countP_map, List.countP_eq_length_filter]
    rfl
  rw [Glyph.query, String.toList_ofList, hcount, hslots, List.length_map]

/-! ### Documents with a title and owners -/

namespace Documents

theorem markFree : (catalog "Document").MarkFree := by decide +kernel

end Documents

/-- The join and the bracket, which are inserted before the placeholders, leave them in order. -/
theorem slots_pair_title_and_owners :
    (Documents.catalog "Document").MarkFree ∧
      (Documents.catalog "Document").compile Documents.caller Documents.titledAndOwned =
        .ok Documents.titledAndOwnedQuery ∧
      ∃ gs, (Documents.catalog "Document").compileSlots Documents.caller Documents.titledAndOwned =
          .ok gs ∧
        gs.filter (·.shown = '?') = [.slot (.string "?"), .slot (.string "Ada"),
          .slot (.string "Bob"), .slot (.int64 42)] := by
  obtain ⟨gs, hgs, -, -, hslots, -⟩ :=
    slots_pair_parameters Documents.markFree Documents.compile_titledAndOwned
  exact ⟨Documents.markFree, Documents.compile_titledAndOwned, gs, hgs, hslots⟩

end GuardedQuery
