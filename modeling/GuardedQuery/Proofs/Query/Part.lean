import GuardedQuery.Proofs.Except
import GuardedQuery.Proofs.Query.LabelPath
import GuardedQuery.Proofs.Query.Literal
import GuardedQuery.Query.Compile

/-! # Parts of a query

What every token contributes to a query, found before any text is written. Names are looked up and
literals are read in the context of the tokens before them; nothing here depends on a text or on a
place in it. -/

namespace GuardedQuery

/-- The entity and the attribute named last. -/
structure Context where
  entity : Option Entity
  attr : Option Attribute

namespace Context

/-- The context of the first token. -/
def empty : Context := ⟨none, none⟩

/-- The context behind a token. -/
def after (c : Catalog) (context : Context) (token : Token) : Context :=
  match token.kind with
  | .entity => { context with entity := c.entity? token.text }
  | .attr => { context with attr := context.entity.bind (·.attribute? token.text .query) }
  | _ => context

/-- The context behind tokens. -/
def of (c : Catalog) (tokens : List Token) : Context :=
  tokens.foldl (after c) empty

/-- Only an entity token changes the entity. -/
theorem entity_foldl_after (c : Catalog) (context : Context) {tokens : List Token}
    (h : ∀ t ∈ tokens, t.kind ≠ .entity) :
    (tokens.foldl (after c) context).entity = context.entity := by
  induction tokens generalizing context with
  | nil => rfl
  | cons token tokens ih =>
      rw [List.foldl_cons, ih _ fun t ht => h t (by simp [ht])]
      have htoken := h token (by simp)
      unfold after
      split <;> simp_all

/-- The entity of a query is that of its last entity token. -/
theorem entity_of (c : Catalog) (front : List Token) {named : Token} {rest : List Token}
    (hnamed : named.kind = .entity) (hrest : ∀ t ∈ rest, t.kind ≠ .entity) :
    (of c (front ++ named :: rest)).entity = c.entity? named.text := by
  rw [of, List.foldl_append, List.foldl_cons, entity_foldl_after c _ hrest]
  simp [after, hnamed]

/-- Tokens name no entity, or one of them is the last to do so. -/
theorem exists_last_entity (tokens : List Token) :
    (∀ t ∈ tokens, t.kind ≠ .entity) ∨
      ∃ front named rest, tokens = front ++ named :: rest ∧ named.kind = .entity ∧
        ∀ t ∈ rest, t.kind ≠ .entity := by
  induction tokens with
  | nil => simp
  | cons t tokens ih =>
      rcases ih with hnone | ⟨front, named, rest, rfl, hnamed, hrest⟩
      · by_cases ht : t.kind = .entity
        · exact .inr ⟨[], t, tokens, rfl, ht, hnone⟩
        · left
          rw [List.forall_mem_cons]
          exact ⟨ht, hnone⟩
      · exact .inr ⟨t :: front, named, rest, rfl, hnamed, hrest⟩

/-- An entity of a query is named by its last entity token. -/
theorem exists_of_entity {c : Catalog} {tokens : List Token} {e : Entity}
    (h : (of c tokens).entity = some e) :
    ∃ front named rest, tokens = front ++ named :: rest ∧ named.kind = .entity ∧
      (∀ t ∈ rest, t.kind ≠ .entity) ∧ c.entity? named.text = some e := by
  rcases exists_last_entity tokens with hnone | ⟨front, named, rest, rfl, hnamed, hrest⟩
  · rw [of, entity_foldl_after c _ hnone] at h
    cases h
  · rw [entity_of c front hnamed hrest] at h
    exact ⟨front, named, rest, rfl, hnamed, hrest, h⟩

/-- The entity of a context is one of the catalog. -/
theorem entity_mem_after {c : Catalog} {context : Context}
    (hcontext : ∀ e, context.entity = some e → e ∈ c.entities) (token : Token) :
    ∀ e, (context.after c token).entity = some e → e ∈ c.entities := by
  unfold after
  split
  · intro e he
    exact List.mem_of_find?_eq_some he
  · exact hcontext
  · exact hcontext

theorem entity_mem_of (c : Catalog) (tokens : List Token) :
    ∀ e, (of c tokens).entity = some e → e ∈ c.entities := by
  have hempty : ∀ e, empty.entity = some e → e ∈ c.entities := by simp [empty]
  rw [of]
  generalize empty = context at hempty
  induction tokens generalizing context with
  | nil => exact hempty
  | cons token tokens ih => exact ih _ (entity_mem_after hempty token)

end Context

/-- What a token contributes to a query. -/
inductive Part
  /-- A text in the place of the token. -/
  | text (chars : List Char)
  /-- The start of the conditions. -/
  | having
  /-- The records asked for. -/
  | entity (e : Entity)
  /-- A field of a related record, which one or more joins lead to. -/
  | label (hop : String) (hops : List String) (field : String)
  /-- Placeholders with their values. -/
  | literal (l : ParsedLiteral)
  deriving DecidableEq

namespace Part

/-- The part of an attribute. -/
def ofAttribute (a : Attribute) : Except CompileError Part :=
  if a.type.isRelationship then
    match a.labelPath?.bind Draft.joinsOf? with
    | some (hop :: hops, field) => .ok (.label hop hops field)
    | _ => .error (.invalidLabelPath a.displayName)
  else .ok (.text (Draft.fieldOf Draft.rootAlias a.name.toList))

/-- The part of a token with its context and position. -/
def ofToken (c : Catalog) (context : Context) (position : Nat) (token : Token) :
    Except CompileError Part :=
  match token.kind with
  | .find => .ok (.text "SELECT DISTINCT".toList)
  | .having => .ok .having
  | .openBracket => .ok (.text " (".toList)
  | .closeBracket => .ok (.text " )".toList)
  | .entity =>
    match c.entity? token.text with
    | none => .error (.unknownEntity token.text position)
    | some e => .ok (.entity e)
  | .attr =>
    match context.entity with
    | none => .error .missingEntity
    | some e =>
      match e.attribute? token.text .query with
      | none => .error (.unknownAttribute e.displayName token.text position)
      | some a => ofAttribute a
  | .operator =>
    match Operator.resolve? token.text with
    | none => .error (.unknownOperator token.text position)
    | some operator => .ok (.text (' ' :: operator.symbol.toList))
  | .value =>
    match context.attr with
    | none => .error (.missingAttribute token.text position)
    | some a => (Literal.read a token.text c.readers).map .literal
  | .separator =>
    match Separator.resolve? token.text with
    | none => .error (.unknownSeparator token.text position)
    | some separator => .ok (.text (' ' :: separator.keyword.toList))

/-- The values of the placeholders of a part. -/
def values : Part → List Value
  | .literal l => l.values
  | _ => []

/-- The entity that a part names. -/
def entity? : Part → Option Entity
  | .entity e => some e
  | _ => none

def isEntity : Part → Bool
  | .entity _ => true
  | _ => false

def isHaving : Part → Bool
  | .having => true
  | _ => false

theorem entity?_eq_none {p : Part} : p.entity? = none ↔ p.isEntity = false := by
  cases p <;> simp [entity?, isEntity]

/-- The number of joins of a part. -/
def joinCount : Part → Nat
  | .label _ hops _ => hops.length + 1
  | _ => 0

end Part

/-! ## Names and literals -/

theorem Entity.mem_of_attribute? {e : Entity} {name : String} {purpose : Purpose} {a : Attribute}
    (h : e.attribute? name purpose = some a) : a ∈ e.attributes :=
  (List.mem_filter.mp (List.mem_of_find?_eq_some h)).1

theorem ParsedLiteral.toList_fragment_list (values : List Value) :
    (ParsedLiteral.list values).fragment.toList =
      " (".toList ++ [','].intercalate (values.map fun _ => ['?']) ++ ")".toList := by
  have hcomma : ",".toList = [','] := by decide
  have hmark : "?".toList = ['?'] := by decide
  rw [list, String.toList_append, String.toList_append, String.toList_intercalate, List.map_map,
    hcomma]
  simp only [Function.comp_def, hmark]

/-- The placeholders of a list and the commas between them. -/
theorem ParsedLiteral.mem_placeholders {values : List Value} {c : Char}
    (h : c ∈ [','].intercalate (values.map fun _ => ['?'])) : c = ',' ∨ c = '?' := by
  induction values with
  | nil => cases h
  | cons value values ih =>
      cases values with
      | nil => exact .inr (List.mem_singleton.mp h)
      | cons next values =>
          rw [List.map_cons] at ih
          rw [List.map_cons, List.map_cons, List.intercalate_cons_cons, List.mem_append,
            List.mem_append] at h
          rcases h with (h | h) | h
          · exact .inr (List.mem_singleton.mp h)
          · exact .inl (List.mem_singleton.mp h)
          · exact ih h

/-! ## Rules -/

/-- The rules by which a token has a part. They do not mention the text of a query. -/
inductive Reads (c : Catalog) (context : Context) (token : Token) : Part → Prop
  | find (h : token.kind = .find) : Reads c context token (.text "SELECT DISTINCT".toList)
  | having (h : token.kind = .having) : Reads c context token .having
  | openBracket (h : token.kind = .openBracket) : Reads c context token (.text " (".toList)
  | closeBracket (h : token.kind = .closeBracket) : Reads c context token (.text " )".toList)
  | entity (h : token.kind = .entity) {e} (he : c.entity? token.text = some e) :
      Reads c context token (.entity e)
  | field (h : token.kind = .attr) {e a} (he : context.entity = some e)
      (ha : e.attribute? token.text .query = some a) (hplain : a.type.isRelationship = false) :
      Reads c context token (.text (Draft.fieldOf Draft.rootAlias a.name.toList))
  | label (h : token.kind = .attr) {e a} (he : context.entity = some e)
      (ha : e.attribute? token.text .query = some a) (hrelated : a.type.isRelationship = true)
      {hop hops field} (hpath : a.labelPath?.bind Draft.joinsOf? = some (hop :: hops, field)) :
      Reads c context token (.label hop hops field)
  | operator (h : token.kind = .operator) {operator}
      (ho : Operator.resolve? token.text = some operator) :
      Reads c context token (.text (' ' :: operator.symbol.toList))
  | value (h : token.kind = .value) {a l} (ha : context.attr = some a)
      (hl : Literal.read a token.text c.readers = .ok l) : Reads c context token (.literal l)
  | separator (h : token.kind = .separator) {separator}
      (hs : Separator.resolve? token.text = some separator) :
      Reads c context token (.text (' ' :: separator.keyword.toList))

/-- Every token of a list has its part, each in the context of the tokens before it. -/
inductive ReadsAll (c : Catalog) : Context → List Token → List Part → Prop
  | nil (context) : ReadsAll c context [] []
  | cons {context token tokens part parts} : Reads c context token part →
      ReadsAll c (context.after c token) tokens parts →
      ReadsAll c context (token :: tokens) (part :: parts)

namespace Part

variable {c : Catalog} {context : Context} {position : Nat} {token : Token} {part : Part}

theorem reads_of_ofToken (h : ofToken c context position token = .ok part) :
    Reads c context token part := by
  unfold ofToken at h
  split at h
  case h_1 hk => cases h; exact .find hk
  case h_2 hk => cases h; exact .having hk
  case h_3 hk => cases h; exact .openBracket hk
  case h_4 hk => cases h; exact .closeBracket hk
  case h_5 hk =>
    split at h
    · cases h
    · rename_i he
      cases h
      exact .entity hk he
  case h_6 hk =>
    split at h
    · cases h
    · rename_i he
      split at h
      · cases h
      · rename_i ha
        unfold ofAttribute at h
        split at h
        · rename_i hrelated
          split at h
          · rename_i hpath
            cases h
            exact .label hk he ha hrelated hpath
          · cases h
        · rename_i hplain
          cases h
          exact .field hk he ha (by simpa using hplain)
  case h_7 hk =>
    split at h
    · cases h
    · rename_i ho
      cases h
      exact .operator hk ho
  case h_8 hk =>
    split at h
    · cases h
    · rename_i ha
      obtain ⟨l, hl, rfl⟩ := except_map_eq_ok.mp h
      exact .value hk ha hl
  case h_9 hk =>
    split at h
    · cases h
    · rename_i hs
      cases h
      exact .separator hk hs

theorem ofToken_eq_ok :
    ofToken c context position token = .ok part ↔ Reads c context token part := by
  refine ⟨reads_of_ofToken, ?_⟩
  intro h
  unfold ofToken
  cases h with
  | find h | having h | openBracket h | closeBracket h => simp only [h]
  | entity h he => simp only [h, he]
  | field h he ha hplain => simp [h, he, ha, ofAttribute, hplain]
  | label h he ha hrelated hpath => simp [h, he, ha, ofAttribute, hrelated, hpath]
  | operator h ho => simp only [h, ho]
  | value h ha hl => simp only [h, ha, hl, except_map_ok]
  | separator h hs => simp only [h, hs]

end Part

namespace Reads

variable {c : Catalog} {context : Context} {token : Token} {part : Part}

theorem isHaving (h : Reads c context token part) :
    part.isHaving = true ↔ token.kind = .having := by
  cases h <;> simp_all [Part.isHaving]

theorem isEntity (h : Reads c context token part) :
    part.isEntity = true ↔ token.kind = .entity := by
  cases h <;> simp_all [Part.isEntity]

theorem entity_after (h : Reads c context token part) :
    (context.after c token).entity = part.entity?.or context.entity := by
  cases h <;> simp_all [Context.after, Part.entity?]

/-- A label needs an entity. -/
theorem joinCount_eq_zero (h : Reads c context token part) (hc : context.entity = none) :
    part.joinCount = 0 := by
  cases h <;> simp_all [Part.joinCount]

end Reads

namespace ReadsAll

variable {c : Catalog} {context : Context} {tokens others : List Token} {ps : List Part}

theorem length_eq (h : ReadsAll c context tokens ps) : ps.length = tokens.length := by
  induction h with
  | nil => rfl
  | cons _ _ ih => simp [ih]

theorem append_iff :
    ReadsAll c context (tokens ++ others) ps ↔
      ∃ front back, ps = front ++ back ∧ ReadsAll c context tokens front ∧
        ReadsAll c (tokens.foldl (Context.after c) context) others back := by
  induction tokens generalizing context ps with
  | nil =>
      constructor
      · intro h
        exact ⟨[], ps, rfl, .nil context, h⟩
      · rintro ⟨front, back, rfl, ⟨⟩, hback⟩
        exact hback
  | cons token tokens ih =>
      constructor
      · rintro (_ | ⟨hp, hps⟩)
        obtain ⟨front, back, rfl, hfront, hback⟩ := ih.mp hps
        exact ⟨_ :: front, back, rfl, .cons hp hfront, hback⟩
      · rintro ⟨front, back, rfl, hfront, hback⟩
        cases hfront with
        | cons hp hfront => exact .cons hp (ih.mpr ⟨_, back, rfl, hfront, hback⟩)

/-- A kind of token that does not occur has no part. -/
theorem no_part {kind : TokenKind} {is : Part → Bool}
    (his : ∀ {context token part}, Reads c context token part →
      (is part = true ↔ token.kind = kind))
    (h : ReadsAll c context tokens ps) (hkind : ∀ t ∈ tokens, t.kind ≠ kind) :
    ∀ p ∈ ps, is p = false := by
  induction h with
  | nil => simp
  | cons hp _ ih =>
      intro p hmem
      rcases List.mem_cons.mp hmem with rfl | hmem
      · rw [Bool.eq_false_iff, ne_eq, his hp]
        exact hkind _ (by simp)
      · exact ih (fun t ht => hkind t (by simp [ht])) p hmem

/-- Every part is that of a token in a context of the catalog. -/
theorem exists_reads (h : ReadsAll c context tokens ps)
    (hcontext : ∀ e, context.entity = some e → e ∈ c.entities) {p : Part} (hp : p ∈ ps) :
    ∃ context token, (∀ e, context.entity = some e → e ∈ c.entities) ∧
      Reads c context token p := by
  induction h with
  | nil => simp at hp
  | @cons context token tokens part ps hpart _ ih =>
      rcases List.mem_cons.mp hp with rfl | hp
      · exact ⟨context, token, hcontext, hpart⟩
      · exact ih (Context.entity_mem_after hcontext token) hp

theorem entity_of_mem (h : ReadsAll c context tokens ps) {t : Token} (ht : t ∈ tokens)
    (hentity : t.kind = .entity) : ∃ e, c.entity? t.text = some e := by
  induction h with
  | nil => simp at ht
  | @cons context token tokens p ps hp _ ih =>
      rcases List.mem_cons.mp ht with rfl | ht
      · cases hp with
        | entity _ he => exact ⟨_, he⟩
        | _ => simp_all
      · exact ih ht

/-- Parts of tokens, cut at a start of conditions. -/
theorem split_having {front conditions : List Token} {start : Token}
    (h : ReadsAll c .empty (front ++ start :: conditions) ps)
    (hstart : start.kind = .having) :
    ∃ before after, ps = before ++ .having :: after ∧ before.length = front.length ∧
      ReadsAll c ((Context.of c front).after c start) conditions after := by
  obtain ⟨before, back, rfl, hbefore, hback⟩ := append_iff.mp h
  cases hback with
  | @cons _ _ _ p after hp hafter =>
      have hhaving := hp.isHaving.mpr hstart
      cases p with
      | having => exact ⟨before, after, rfl, hbefore.length_eq, hafter⟩
      | _ => cases hhaving

end ReadsAll

/-! ## Whole queries -/

namespace Catalog

/-- The parts of tokens that follow a context, of which the first has the given position. -/
def partsFrom (c : Catalog) (context : Context) (position : Nat) :
    List Token → Except CompileError (List Part)
  | [] => .ok []
  | token :: tokens => do
    let part ← Part.ofToken c context position token
    let parts ← c.partsFrom (context.after c token) (position + 1) tokens
    .ok (part :: parts)

/-- The parts of a whole query. -/
def parts (c : Catalog) (tokens : List Token) : Except CompileError (List Part) :=
  c.partsFrom .empty 0 tokens

theorem partsFrom_eq_ok {c : Catalog} {context : Context} {position : Nat} {tokens : List Token}
    {parts : List Part} :
    c.partsFrom context position tokens = .ok parts ↔ ReadsAll c context tokens parts := by
  induction tokens generalizing context position parts with
  | nil =>
      constructor
      · intro h
        cases h
        exact .nil context
      · rintro ⟨⟩
        rfl
  | cons token tokens ih =>
      simp only [partsFrom, except_bind_eq_ok, Part.ofToken_eq_ok, ih]
      constructor
      · rintro ⟨part, hpart, parts, hparts, h⟩
        cases h
        exact .cons hpart hparts
      · rintro (_ | ⟨hpart, hparts⟩)
        exact ⟨_, hpart, _, hparts, rfl⟩

/-- A part of a query is that of a token in a context of the catalog. -/
theorem exists_reads_of_parts {c : Catalog} {tokens : List Token} {ps : List Part}
    (h : c.parts tokens = .ok ps) {p : Part} (hp : p ∈ ps) :
    ∃ context token, (∀ e, context.entity = some e → e ∈ c.entities) ∧
      Reads c context token p := by
  have hempty : ∀ e, Context.empty.entity = some e → e ∈ c.entities := by simp [Context.empty]
  exact (partsFrom_eq_ok.mp h).exists_reads hempty hp

end Catalog

end GuardedQuery
