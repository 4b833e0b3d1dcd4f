import GuardedQuery.Proofs.Query.Layout
import GuardedQuery.Proofs.Text.Insertion

/-! # Sheets

A sheet is a draft whose text is cut where joins are inserted, so that no place has to be counted.
Drafts and sheets take the same steps, and the text of a sheet is the layout of the parts added to
it. -/

namespace GuardedQuery

open Draft (entityClause)

/-- A query text under construction, cut where joins are inserted. -/
structure Sheet where
  before : List Char
  after : List Char
  parameters : List Value
  nextAlias : Nat
  /-- Where a draft takes the start of the conditions to be. -/
  filterAt : Option Nat

namespace Sheet

/-- The sheet before the first part. -/
def empty : Sheet := ⟨[], [], [], 1, none⟩

/-- The whole text. -/
def text (s : Sheet) : List Char :=
  s.before ++ s.after

def write (s : Sheet) (piece : List Char) : Sheet :=
  { s with after := s.after ++ piece }

/-- The sheet after one more part. -/
def add (s : Sheet) : Part → Sheet
  | .text chars => s.write chars
  | .having =>
    let s := s.write " WHERE".toList
    { s with filterAt := some (Text.byteLength s.text) }
  | .entity e => { s with before := s.text ++ entityClause e, after := [] }
  | .label hop hops field =>
    let joins := Layout.chain s.nextAlias (hop :: hops)
    { before := s.before ++ joins
      after := s.after ++ Layout.bodyText s.nextAlias (.label hop hops field)
      parameters := s.parameters
      nextAlias := s.nextAlias + (hops.length + 1)
      filterAt := s.filterAt.map (· + Text.byteLength joins) }
  | .literal l => { s.write l.fragment.toList with parameters := s.parameters ++ l.values }

/-- The draft of a sheet in a context. -/
def draft (s : Sheet) (context : Context) : Draft where
  text := s.text
  parameters := s.parameters
  nextAlias := s.nextAlias
  joinsAt := Text.byteLength s.before
  filterAt := s.filterAt
  entity := context.entity
  attr := context.attr

@[simp] theorem draft_entity (s : Sheet) (context : Context) :
    (s.draft context).entity = context.entity := rfl

@[simp] theorem draft_attr (s : Sheet) (context : Context) :
    (s.draft context).attr = context.attr := rfl

theorem draft_write (s : Sheet) (context : Context) (piece : List Char) :
    (s.draft context).write piece = (s.write piece).draft context := by
  simp [Draft.write, draft, write, text]

theorem draft_insertJoins (s : Sheet) (context : Context) (joins : List Char) (count : Nat) :
    (s.draft context).insertJoins joins count =
      .ok ({ s with
        before := s.before ++ joins
        nextAlias := s.nextAlias + count
        filterAt := s.filterAt.map (· + Text.byteLength joins) }.draft context) := by
  simp [Draft.insertJoins, Draft.splice, draft, text, Text.insertAt_byteLength]

theorem draft_startFilter (s : Sheet) (context : Context) :
    (s.draft context).startFilter = (s.add .having).draft context := by
  simp only [Draft.startFilter, draft_write, add]
  rfl

theorem draft_startEntity (s : Sheet) (context : Context) (e : Entity) :
    (s.draft context).startEntity e = (s.add (.entity e)).draft ⟨some e, context.attr⟩ := by
  simp [Draft.startEntity, Draft.write, draft, add, text]

/-! ## Steps -/

/-- A relationship adds its joins and its label. -/
private theorem draft_writeLabel (s : Sheet) (context : Context) (a : Attribute)
    (h : a.type.isRelationship = true) :
    (s.draft context).writeLabel a =
      (Part.ofAttribute a).map fun p => (s.add p).draft context := by
  unfold Draft.writeLabel Part.ofAttribute
  rw [if_pos h]
  cases hpath : a.labelPath?.bind Draft.joinsOf? with
  | none => rfl
  | some pair =>
      obtain ⟨hops, field⟩ := pair
      cases hops with
      | nil =>
          obtain ⟨path, _, hjoins⟩ := Option.bind_eq_some_iff.mp hpath
          exact absurd rfl (Draft.joinsOf?_eq_some.mp hjoins).1
      | cons hop hops =>
          have hchain : Draft.joinChain Draft.rootAlias (s.draft context).nextAlias (hop :: hops) =
              (Layout.chain s.nextAlias (hop :: hops),
                Draft.joinAlias (s.nextAlias + hops.length)) :=
            Layout.joinChain_eq s.nextAlias hop hops
          simp only [hchain, draft_insertJoins, except_ok_bind, except_map_ok, draft_write]
          rfl

theorem draft_writeAttribute (s : Sheet) (context : Context) (a : Attribute) :
    (s.draft context).writeAttribute a =
      (Part.ofAttribute a).map fun p => (s.add p).draft context := by
  unfold Draft.writeAttribute
  split
  · rename_i h
    exact draft_writeLabel s context a h
  · rename_i h
    simp [Part.ofAttribute, h, draft_write, add]

/-- A token that has a part adds it, and a token without one fails in the same way. -/
theorem draft_step (c : Catalog) (s : Sheet) (context : Context) (position : Nat) (token : Token) :
    (s.draft context).step c position token =
      (Part.ofToken c context position token).map fun p =>
        (s.add p).draft (context.after c token) := by
  unfold Draft.step Part.ofToken Context.after
  cases token.kind with
  | find | openBracket | closeBracket => simp only [draft_write, except_map_ok, add]
  | having => simp only [draft_startFilter, except_map_ok]
  | entity =>
      cases c.entity? token.text with
      | none => simp only [except_map_error]
      | some e => simp only [draft_startEntity, except_map_ok]
  | attr =>
      dsimp only [draft_entity]
      cases he : context.entity with
      | none => rfl
      | some e =>
          simp only [Option.bind_some]
          cases e.attribute? token.text .query with
          | none => rfl
          | some a =>
              simp only [draft_writeAttribute]
              cases Part.ofAttribute a with
              | error e => rfl
              | ok p => simp only [except_map_ok, except_ok_bind, draft, he]
  | operator =>
      cases Operator.resolve? token.text with
      | none => simp only [except_map_error]
      | some operator => simp only [draft_write, except_map_ok, add]
  | value =>
      dsimp only [draft_attr]
      cases context.attr with
      | none => rfl
      | some a =>
          simp only [draft_write]
          cases Literal.read a token.text c.readers with
          | error e => rfl
          | ok l => rfl
  | separator =>
      cases Separator.resolve? token.text with
      | none => simp only [except_map_error]
      | some separator => simp only [draft_write, except_map_ok, add]

/-- A run of tokens adds their parts one by one, and fails where a token has no part. -/
theorem draft_steps (c : Catalog) (s : Sheet) (context : Context) (position : Nat)
    (tokens : List Token) :
    (s.draft context).steps c position tokens =
      (c.partsFrom context position tokens).map fun ps =>
        (ps.foldl add s).draft (tokens.foldl (Context.after c) context) := by
  induction tokens generalizing s context position with
  | nil => rfl
  | cons token tokens ih =>
      rw [Draft.steps, draft_step, Catalog.partsFrom]
      cases Part.ofToken c context position token with
      | error e => rfl
      | ok p =>
          simp only [except_map_ok, except_ok_bind, ih]
          cases c.partsFrom (context.after c token) (position + 1) tokens with
          | error e => rfl
          | ok ps => rfl

/-! ## The text of a sheet -/

theorem nextAlias_add (s : Sheet) (p : Part) :
    (s.add p).nextAlias = s.nextAlias + p.joinCount := by
  cases p <;> rfl

theorem nextAlias_foldl_add (s : Sheet) (ps : List Part) :
    (ps.foldl add s).nextAlias = s.nextAlias + Layout.joinCount ps := by
  induction ps generalizing s with
  | nil => rfl
  | cons p ps ih =>
      rw [List.foldl_cons, ih, nextAlias_add, Layout.joinCount_cons, Nat.add_assoc]

theorem parameters_foldl_add (s : Sheet) (ps : List Part) :
    (ps.foldl add s).parameters = s.parameters ++ Layout.values ps := by
  induction ps generalizing s with
  | nil => simp
  | cons p ps ih =>
      rw [List.foldl_cons, ih, Layout.values_cons, ← List.append_assoc]
      cases p <;> simp [add, write, Part.values]

/-- Joins go in front of the cut, but an entity moves the cut to the end. -/
theorem before_add (s : Sheet) (p : Part) :
    (s.add p).before =
      if p.isEntity then s.text ++ Layout.bodyText s.nextAlias p
      else s.before ++ Layout.joinText s.nextAlias p := by
  cases p with
  | entity e => rfl
  | label hop hops field => rfl
  | _ => exact (List.append_nil _).symm

/-- Everything else goes to the end. -/
theorem after_add (s : Sheet) (p : Part) :
    (s.add p).after =
      if p.isEntity then [] else s.after ++ Layout.bodyText s.nextAlias p := by
  cases p <;> rfl

/-- Parts write their joins into the cut and everything else at the end. `more` stands for the joins
that are still to come. -/
theorem text_foldl_add (s : Sheet) (ps : List Part) (more : List Char) :
    (ps.foldl add s).before ++ more ++ (ps.foldl add s).after =
      s.before ++ Layout.nearJoins more s.nextAlias ps ++ s.after ++
        Layout.text more s.nextAlias ps := by
  induction ps generalizing s with
  | nil => simp [Layout.nearJoins, Layout.text]
  | cons p ps ih =>
      rw [List.foldl_cons, ih, nextAlias_add, before_add, after_add, Layout.nearJoins, Layout.text]
      by_cases hp : p.isEntity
      · -- the cut moves to the end, and `more` waits behind the next entity
        have hcount := Layout.joinCount_of_isEntity hp
        simp only [hp, hcount, if_true, text, Nat.add_zero, List.append_nil, List.append_assoc]
      · simp only [hp, Bool.false_eq_true, if_false, List.append_nil, List.append_assoc]

/-- Parts that do not start the conditions again move their start by all their joins. -/
theorem filterAt_foldl_add (s : Sheet) {ps : List Part} (h : ∀ p ∈ ps, p.isHaving = false) :
    (ps.foldl add s).filterAt =
      s.filterAt.map (· + Text.byteLength (Layout.joins s.nextAlias ps)) := by
  induction ps generalizing s with
  | nil => simp [Layout.joins]
  | cons p ps ih =>
      rw [List.foldl_cons, ih _ fun p hp => h p (by simp [hp])]
      cases p with
      | having => simpa [Part.isHaving] using h .having (by simp)
      | text chars => rfl
      | entity e => rfl
      | literal l => rfl
      | label hop hops field =>
          simp [add, Layout.joins, Layout.joinText, Part.joinCount, Function.comp_def,
            Nat.add_assoc]

end Sheet

end GuardedQuery
