import GuardedQuery.Proofs.Catalog.Violations
import GuardedQuery.Proofs.Condition.Text
import GuardedQuery.Proofs.Query.Layout

/-! # Conditions of callers

A caller writes a condition as tokens, three for every comparison. Where a catalog accepts the names
and the literal of a comparison, the tokens have parts, and the parts write the text of the
condition with its joins. -/

namespace GuardedQuery

/-- A comparison as a caller phrases it. -/
structure Phrase where
  attr : String
  operator : String
  literal : String
  deriving DecidableEq

namespace Lexeme

/-- The lexemes of tokens. -/
def ofTokens? : List Token → Option (List (Lexeme Phrase))
  | [] => some []
  | ⟨.openBracket, _⟩ :: rest => (ofTokens? rest).map (.opening :: ·)
  | ⟨.closeBracket, _⟩ :: rest => (ofTokens? rest).map (.closing :: ·)
  | ⟨.separator, name⟩ :: rest =>
    (Separator.resolve? name).bind fun s => (ofTokens? rest).map (.separator s :: ·)
  | ⟨.attr, attr⟩ :: ⟨.operator, operator⟩ :: ⟨.value, literal⟩ :: rest =>
    (ofTokens? rest).map (.leaf ⟨attr, operator, literal⟩ :: ·)
  | _ => none

end Lexeme

/-- The condition that tokens are read as. -/
def Condition.ofTokens? (tokens : List Token) : Option (Condition Phrase) :=
  (Lexeme.ofTokens? tokens).bind read?

/-- A comparison that a catalog accepts. -/
structure Comparison where
  attr : Attribute
  operator : Operator
  literal : ParsedLiteral
  deriving DecidableEq

/-- The comparison that a phrase stands for. -/
def Phrase.comparison? (c : Catalog) (e : Entity) (p : Phrase) : Option Comparison := do
  let a ← e.attribute? p.attr .query
  let operator ← Operator.resolve? p.operator
  let literal ← (Literal.read a p.literal c.readers).toOption
  some ⟨a, operator, literal⟩

namespace Comparison

variable (k : Comparison)

/-- The hops to join, and the field that is compared behind them. -/
def target : List String × String :=
  if k.attr.type.isRelationship then (k.attr.labelPath?.bind Draft.joinsOf?).getD ([], "")
  else ([], k.attr.name)

/-- The number of joins. -/
def width : Nat :=
  k.target.1.length

/-- The joins, numbered from `number`. -/
def joins (number : Nat) : List Char :=
  (Draft.joinChain Draft.rootAlias number k.target.1).1

/-- The field, behind the alias of the last join. -/
def path (number : Nat) : List Char :=
  (Draft.joinChain Draft.rootAlias number k.target.1).2 ++ '.' :: k.target.2.toList

def places : Places :=
  if k.attr.type.isRelationship then .list k.literal.values.length else .one

/-- The comparison of the store. -/
def clause (number : Nat) : Clause :=
  .comparison (String.ofList (k.path number)) k.operator.symbol k.places

/-- The part of the attribute. -/
def subject : Part :=
  match k.target with
  | ([], field) => .text (Draft.fieldOf Draft.rootAlias field.toList)
  | (hop :: hops, field) => .label hop hops field

/-- The parts of the three tokens. -/
def parts : List Part :=
  [k.subject, .text (' ' :: k.operator.symbol.toList), .literal k.literal]

/-- The catalog accepts the names and the literal. -/
structure Accepted (c : Catalog) (e : Entity) : Prop where
  attr : k.attr ∈ e.attributes
  literal : ∃ literal, Literal.read k.attr literal c.readers = .ok k.literal

end Comparison

/-- The parts of the tokens of a lexeme. -/
def Lexeme.parts : Lexeme Comparison → List Part
  | .opening => [.text " (".toList]
  | .closing => [.text " )".toList]
  | .separator s => [.text (' ' :: s.keyword.toList)]
  | .leaf k => k.parts

/-! ## The text of a comparison -/

namespace Comparison

variable (k : Comparison) (number : Nat)

theorem joinCount_subject : k.subject.joinCount = k.width := by
  rw [subject, width]
  split
  · rename_i htarget
    rw [htarget]
    rfl
  · rename_i htarget
    rw [htarget]
    rfl

theorem joinText_subject : Layout.joinText number k.subject = k.joins number := by
  rw [subject, joins]
  split
  · rename_i htarget
    rw [htarget]
    rfl
  · rename_i htarget
    rw [htarget, Layout.joinChain_eq]
    rfl

theorem bodyText_subject : Layout.bodyText number k.subject = ' ' :: k.path number := by
  rw [subject, path]
  split
  · rename_i htarget
    rw [htarget]
    rfl
  · rename_i htarget
    rw [htarget, Layout.joinChain_eq]
    rfl

theorem joinCount_parts : Layout.joinCount k.parts = k.width := by
  rw [parts, Layout.joinCount_cons, joinCount_subject]
  rfl

theorem joins_parts : Layout.joins number k.parts = k.joins number := by
  rw [parts, Layout.joins, joinText_subject]
  exact List.append_nil _

theorem values_parts : Layout.values k.parts = k.literal.values := by
  have hsubject : k.subject.values = [] := by
    rw [subject]
    split <;> rfl
  rw [parts, Layout.values_cons, hsubject]
  exact List.append_nil _

end Comparison

/-- A literal takes a list of placeholders if it belongs to a relationship, and else one. -/
theorem Literal.places_of_read {a : Attribute} {literal : String} {readers : LiteralReaders}
    {l : ParsedLiteral} (h : Literal.read a literal readers = .ok l) :
    (a.type.isRelationship = true ∧ l.values ≠ [] ∧ l = .list l.values) ∨
      (a.type.isRelationship = false ∧ ∃ value, l = .single value) := by
  by_cases hrel : a.type.isRelationship = true
  · obtain ⟨hitems, rfl⟩ := Literal.eq_list_of_read hrel h
    refine .inl ⟨hrel, ?_, rfl⟩
    intro hempty
    exact hitems (List.map_eq_nil_iff.mp hempty)
  · have hplain : a.type.isRelationship = false := Bool.eq_false_iff.mpr hrel
    exact .inr ⟨hplain, Literal.eq_single_of_read hplain h⟩

namespace Comparison

variable {k : Comparison}

/-- The placeholders of an accepted literal. -/
theorem Accepted.fragment_eq {c : Catalog} {e : Entity} (h : k.Accepted c e) :
    k.literal.fragment.toList = ' ' :: k.places.chars ∧ k.places ≠ .list 0 := by
  obtain ⟨literal, hliteral⟩ := h.literal
  rcases Literal.places_of_read hliteral with ⟨hrel, hne, hlist⟩ | ⟨hrel, value, hsingle⟩
  · rw [places, if_pos hrel]
    refine ⟨?_, ?_⟩
    · have hopening : " (".toList = [' ', '('] := by decide
      have hclosing : ")".toList = [')'] := by decide
      rw [hlist, ParsedLiteral.toList_fragment_list, List.map_const', hopening, hclosing]
      rfl
    · intro hzero
      have hlength : k.literal.values.length = 0 := by simpa using hzero
      exact hne (List.length_eq_zero_iff.mp hlength)
  · have hmark : " ?".toList = [' ', '?'] := by decide
    rw [places, hrel, hsingle]
    exact ⟨hmark, by simp⟩

/-- The text of an accepted comparison. -/
theorem Accepted.body_eq {c : Catalog} {e : Entity} (h : k.Accepted c e) (number : Nat)
    (bound : List Char) :
    Layout.body number k.parts =
      Mark.text bound ((k.clause number).pieces.flatMap (.char ' ' :: ·)) := by
  rw [parts, Layout.body, Layout.body, Layout.body, Layout.body, bodyText_subject]
  simp only [Layout.bodyText, h.fragment_eq.1, clause, Clause.pieces, List.flatMap_cons,
    List.flatMap_nil, List.append_nil, Mark.text_append, Mark.text_char_cons, Mark.text_ofText,
    String.toList_ofList]

end Comparison

/-! ## The text of lexemes -/

namespace Lexeme

variable {c : Catalog} {e : Entity} {L : List (Lexeme Comparison)}

theorem joinCount_parts (L : List (Lexeme Comparison)) :
    Layout.joinCount (L.flatMap parts) = total Comparison.width L := by
  induction L with
  | nil => rfl
  | cons l L ih =>
      rw [List.flatMap_cons, Layout.joinCount_append, ih]
      cases l with
      | leaf k =>
          rw [parts, k.joinCount_parts]
          rfl
      | _ => exact Nat.zero_add _

/-- The joins of lexemes are those of their comparisons. -/
theorem joins_parts (number : Nat) (L : List (Lexeme Comparison)) :
    Layout.joins number (L.flatMap parts) =
      (leaves (Lexeme.number Comparison.width (fun n k => k.joins n) number L)).flatten := by
  induction L generalizing number with
  | nil => rfl
  | cons l L ih =>
      rw [List.flatMap_cons, Layout.joins_append, ih]
      cases l with
      | leaf k =>
          rw [parts, k.joins_parts, k.joinCount_parts]
          rfl
      | _ => rfl

theorem values_parts (L : List (Lexeme Comparison)) :
    Layout.values (L.flatMap parts) = (leaves L).flatMap (·.literal.values) := by
  induction L with
  | nil => rfl
  | cons l L ih =>
      rw [List.flatMap_cons, Layout.values_append, ih]
      cases l with
      | leaf k =>
          rw [parts, k.values_parts]
          rfl
      | _ => rfl

/-- The text of lexemes is that of their clauses. -/
theorem body_parts (h : ∀ k ∈ leaves L, k.Accepted c e) (number : Nat) (bound : List Char) :
    Layout.body number (L.flatMap parts) =
      Mark.text bound
        (marks (Lexeme.number Comparison.width (fun n k => k.clause n) number L)) := by
  induction L generalizing number with
  | nil => rfl
  | cons l L ih =>
      rw [List.flatMap_cons, Layout.body_append]
      cases l with
      | leaf k =>
          obtain ⟨hk, hL⟩ := List.forall_mem_cons.mp h
          rw [parts, k.joinCount_parts, hk.body_eq number bound, ih hL, Lexeme.number, marks_cons,
            Mark.text_append]
          rfl
      | opening =>
          have hopening : " (".toList = [' ', '('] := by decide
          rw [parts, ih h, Lexeme.number, marks_cons, Mark.text_append, hopening]
          rfl
      | closing =>
          have hclosing : " )".toList = [' ', ')'] := by decide
          rw [parts, ih h, Lexeme.number, marks_cons, Mark.text_append, hclosing]
          rfl
      | separator s =>
          rw [parts, ih h, Lexeme.number, marks_cons, Mark.text_append, pieces]
          simp [Layout.body, Layout.bodyText, Part.joinCount]

end Lexeme

/-! ## Names of a catalog -/

/-- No name that the catalog writes into a condition ends before its end. Plain identifiers are such
names. -/
def Catalog.WordNames (c : Catalog) : Prop :=
  ∀ e ∈ c.entities, ∀ a ∈ e.attributes, Word.IsName a.name.toList ∧
    ∀ path ∈ a.labelPath?, Word.IsName path.toList

instance (cs : List Char) : Decidable (Word.IsName cs) :=
  List.decidableBAll _ cs

instance (c : Catalog) : Decidable c.WordNames :=
  inferInstanceAs (Decidable (∀ e ∈ c.entities, ∀ a ∈ e.attributes, Word.IsName a.name.toList ∧
    ∀ path ∈ a.labelPath?, Word.IsName path.toList))

theorem Word.isName_joinAlias (number : Nat) : IsName (Draft.joinAlias number) :=
  Draft.forall_mem_joinAlias (by decide) (by decide) number

namespace Comparison

variable {k : Comparison} {c : Catalog} {e : Entity}

theorem target_of_relationship (hrel : k.attr.type.isRelationship = true) {readers : LiteralReaders}
    (h : k.attr.Valid readers) :
    ∃ path hop hops field, k.attr.labelPath? = some path ∧
      Draft.joinsOf? path = some (hop :: hops, field) ∧ k.target = (hop :: hops, field) := by
  obtain ⟨path, hops, field, hpath, hjoins, -, -⟩ := h.exists_joins hrel
  refine ⟨path, k.attr.name, hops, field, hpath, hjoins, ?_⟩
  rw [target, if_pos hrel, hpath, Option.bind_some, hjoins]
  rfl

theorem target_of_plain (hrel : k.attr.type.isRelationship = false) :
    k.target = ([], k.attr.name) := by
  rw [target, hrel]
  rfl

theorem Accepted.isName_field (h : k.Accepted c e) (hvalid : k.attr.Valid c.readers)
    (he : e ∈ c.entities) (hc : c.WordNames) : Word.IsName k.target.2.toList := by
  obtain ⟨hname, hpath⟩ := hc e he k.attr h.attr
  cases hrel : k.attr.type.isRelationship with
  | false =>
      rw [target_of_plain hrel]
      exact hname
  | true =>
      obtain ⟨path, hop, hops, field, hlabel, hjoins, htarget⟩ := target_of_relationship hrel hvalid
      rw [htarget]
      intro char hchar
      exact hpath path hlabel char (Draft.mem_of_joinsOf? hjoins List.mem_cons_self hchar)

theorem isName_alias (k : Comparison) (number : Nat) :
    Word.IsName (Draft.joinChain Draft.rootAlias number k.target.1).2 := by
  cases k.target.1 with
  | nil =>
      have hroot : Word.IsName Draft.rootAlias := by decide
      exact hroot
  | cons hop hops =>
      rw [Layout.joinChain_eq]
      exact Word.isName_joinAlias _

theorem Accepted.readable (h : k.Accepted c e) (hvalid : k.attr.Valid c.readers)
    (he : e ∈ c.entities) (hc : c.WordNames) (number : Nat) : (k.clause number).Readable := by
  have hpath : (String.ofList (k.path number)).toList = k.path number := String.toList_ofList
  apply Clause.Readable.comparison
  · rw [hpath]
    intro char hchar
    rcases List.mem_append.mp hchar with halias | hfield
    · exact k.isName_alias number char halias
    · rcases List.mem_cons.mp hfield with rfl | hfield
      · decide
      · exact h.isName_field hvalid he hc char hfield
  · rw [hpath, path]
    simp
  · exact h.fragment_eq.2

/-! ## Tokens and parts -/

theorem accepted_of_comparison? {p : Phrase} (h : p.comparison? c e = some k) :
    e.attribute? p.attr .query = some k.attr ∧ Operator.resolve? p.operator = some k.operator ∧
      Literal.read k.attr p.literal c.readers = .ok k.literal := by
  rw [Phrase.comparison?] at h
  cases ha : e.attribute? p.attr .query with
  | none => simp [ha] at h
  | some a =>
      cases ho : Operator.resolve? p.operator with
      | none => simp [ha, ho] at h
      | some operator =>
          cases hl : Literal.read a p.literal c.readers with
          | error error => simp [ha, ho, hl] at h
          | ok literal =>
              simp only [ha, ho, hl, except_toOption_ok, Option.bind_eq_bind, Option.bind_some,
                Option.some.injEq] at h
              subst h
              exact ⟨rfl, rfl, hl⟩

/-- The attribute of a comparison has its part. -/
theorem reads_subject (hvalid : k.attr.Valid c.readers) {name : String} {context : Context}
    (he : context.entity = some e) (ha : e.attribute? name .query = some k.attr) :
    Reads c context ⟨.attr, name⟩ k.subject := by
  cases hrel : k.attr.type.isRelationship with
  | false =>
      rw [subject, target_of_plain hrel]
      exact .field rfl he ha hrel
  | true =>
      obtain ⟨path, hop, hops, field, hlabel, hjoins, htarget⟩ := target_of_relationship hrel hvalid
      rw [subject, htarget]
      exact .label rfl he ha hrel (by rw [hlabel, Option.bind_some, hjoins])

end Comparison

namespace Lexeme

variable {c : Catalog} {e : Entity}

/-- The tokens of an accepted condition have the parts of its lexemes. -/
theorem readsAll_parts (hvalid : ∀ a ∈ e.attributes, a.Valid c.readers) {tokens : List Token}
    {L : List (Lexeme Phrase)} {M : List (Lexeme Comparison)} (htokens : ofTokens? tokens = some L)
    (hM : L.mapM (replace? (Phrase.comparison? c e)) = some M) {context : Context}
    (hcontext : context.entity = some e) :
    ReadsAll c context tokens (M.flatMap parts) ∧ ∀ k ∈ leaves M, k.Accepted c e := by
  fun_induction ofTokens? tokens generalizing L M context with
  | case1 =>
      cases htokens
      cases hM
      exact ⟨.nil context, by simp⟩
  | case2 text rest ih =>
      obtain ⟨L, hL, rfl⟩ := Option.map_eq_some_iff.mp htokens
      obtain ⟨l, back, hl, hrest, rfl⟩ := mapM_cons_eq_some.mp hM
      cases hl
      obtain ⟨hreads, haccepted⟩ := ih hL hrest hcontext
      exact ⟨.cons (.openBracket rfl) hreads, haccepted⟩
  | case3 text rest ih =>
      obtain ⟨L, hL, rfl⟩ := Option.map_eq_some_iff.mp htokens
      obtain ⟨l, back, hl, hrest, rfl⟩ := mapM_cons_eq_some.mp hM
      cases hl
      obtain ⟨hreads, haccepted⟩ := ih hL hrest hcontext
      exact ⟨.cons (.closeBracket rfl) hreads, haccepted⟩
  | case4 name rest ih =>
      obtain ⟨s, hs, htokens⟩ := Option.bind_eq_some_iff.mp htokens
      obtain ⟨L, hL, rfl⟩ := Option.map_eq_some_iff.mp htokens
      obtain ⟨l, back, hl, hrest, rfl⟩ := mapM_cons_eq_some.mp hM
      cases hl
      obtain ⟨hreads, haccepted⟩ := ih hL hrest hcontext
      exact ⟨.cons (.separator rfl hs) hreads, haccepted⟩
  | case5 attr operator literal rest ih =>
      obtain ⟨L, hL, rfl⟩ := Option.map_eq_some_iff.mp htokens
      obtain ⟨l, back, hl, hrest, rfl⟩ := mapM_cons_eq_some.mp hM
      obtain ⟨k, hk, rfl⟩ := Option.map_eq_some_iff.mp hl
      obtain ⟨ha, ho, hliteral⟩ := Comparison.accepted_of_comparison? hk
      have hmem := Entity.mem_of_attribute? ha
      have hsubject := Comparison.reads_subject (hvalid k.attr hmem) hcontext ha
      have hafter : (context.after c ⟨.attr, attr⟩).attr = some k.attr := by
        simp only [Context.after, hcontext, Option.bind_some, ha]
      have hentity : (context.after c ⟨.attr, attr⟩).entity = some e := hcontext
      obtain ⟨hreads, haccepted⟩ := ih hL hrest hentity
      refine ⟨.cons hsubject (.cons (.operator rfl ho) (.cons (.value rfl hafter hliteral) hreads)),
        ?_⟩
      exact List.forall_mem_cons.mpr ⟨⟨hmem, _, hliteral⟩, haccepted⟩
  | case6 => cases htokens

end Lexeme

end GuardedQuery
