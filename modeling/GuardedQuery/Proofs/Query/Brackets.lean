import GuardedQuery.Proofs.Query.BracketPlace

/-! # Matched brackets

A filter restricts all conditions of a query only if the bracket before them is closed by the one
behind them. Names and literals cannot disturb this, but the brackets of the query itself can. -/

namespace GuardedQuery

/-- A bracket of a text or of a query. -/
inductive BracketMark
  | opening
  | closing
  deriving DecidableEq

namespace BracketMark

def ofChar? : Char → Option BracketMark
  | '(' => some opening
  | ')' => some closing
  | _ => none

def ofToken? (t : Token) : Option BracketMark :=
  match t.kind with
  | .openBracket => some opening
  | .closeBracket => some closing
  | _ => none

/-- The brackets of a text. -/
def ofText (cs : List Char) : List BracketMark :=
  cs.filterMap ofChar?

/-- The brackets of a query. -/
def ofTokens (tokens : List Token) : List BracketMark :=
  tokens.filterMap ofToken?

/-- The number of open brackets behind brackets that start inside `depth` others; `none` if they
close one of those. -/
def depth? : Nat → List BracketMark → Option Nat
  | depth, [] => some depth
  | depth, .opening :: bs => depth? (depth + 1) bs
  | 0, .closing :: _ => none
  | depth + 1, .closing :: bs => depth? depth bs

/-- Every bracket is closed, and none is closed that is not open. -/
def Balanced (bs : List BracketMark) : Prop :=
  depth? 0 bs = some 0

instance (bs : List BracketMark) : Decidable (Balanced bs) :=
  inferInstanceAs (Decidable (_ = _))

theorem depth?_append (depth : Nat) (as bs : List BracketMark) :
    depth? depth (as ++ bs) = (depth? depth as).bind fun depth => depth? depth bs := by
  fun_induction depth? depth as with
  | case1 depth => rfl
  | case2 depth as ih => exact ih
  | case3 as => rfl
  | case4 depth as ih => exact ih

@[simp] theorem ofText_append (cs ds : List Char) : ofText (cs ++ ds) = ofText cs ++ ofText ds :=
  List.filterMap_append

theorem ofText_eq_nil {cs : List Char} : ofText cs = [] ↔ ∀ c ∈ cs, ofChar? c = none :=
  List.filterMap_eq_nil_iff

/-! ## Names -/

/-- The field at the end of a path without brackets has none. -/
theorem ofText_of_joinsOf? {path field : String} {hops : List String} (h : ofText path.toList = [])
    (hjoins : Draft.joinsOf? path = some (hops, field)) : ofText field.toList = [] := by
  rw [ofText_eq_nil] at h ⊢
  intro c hc
  exact h c (Draft.mem_of_joinsOf? hjoins List.mem_cons_self hc)

theorem ofText_fieldOf (source field : List Char) :
    ofText (Draft.fieldOf source field) = ofText source ++ ofText field := by
  rw [Draft.fieldOf, List.cons_append, ofText, List.filterMap_cons, ← ofText, ofText_append]
  rfl

theorem ofText_joinAlias (number : Nat) : ofText (Draft.joinAlias number) = [] :=
  ofText_eq_nil.mpr (Draft.forall_mem_joinAlias (by decide) (by decide) number)

/-! ## Literals -/

/-- The brackets around a list of placeholders match. -/
theorem depth?_literal {a : Attribute} {literal : String} {readers : LiteralReaders}
    {l : ParsedLiteral} (h : Literal.read a literal readers = .ok l) (depth : Nat) :
    depth? depth (ofText l.fragment.toList) = some depth := by
  rcases Literal.shape_of_read h with ⟨value, rfl⟩ | ⟨values, rfl⟩
  · have hmark : ofText " ?".toList = [] := by decide
    rw [ParsedLiteral.single, hmark]
    rfl
  · have hmarks : ofText ([','].intercalate (values.map fun _ => ['?'])) = [] := by
      rw [ofText_eq_nil]
      intro c hc
      rcases ParsedLiteral.mem_placeholders hc with rfl | rfl <;> rfl
    have hopening : ofText " (".toList = [.opening] := by decide
    have hclosing : ofText ")".toList = [.closing] := by decide
    rw [ParsedLiteral.toList_fragment_list, ofText_append, ofText_append, hmarks, hopening,
      hclosing]
    rfl

end BracketMark

/-! ## Parts -/

/-- The names that a query can write for an attribute hold no brackets. -/
def Catalog.BracketFree (c : Catalog) : Prop :=
  ∀ e ∈ c.entities, ∀ a ∈ e.attributes,
    BracketMark.ofText a.name.toList = [] ∧
      ∀ path, a.labelPath? = some path → BracketMark.ofText path.toList = []

namespace Reads

open BracketMark

variable {c : Catalog} {context : Context} {token : Token} {part : Part}

/-- A part that names no entity and starts no conditions has the brackets of its token, apart from
brackets that match. -/
theorem depth?_bodyText (h : Reads c context token part) (hc : c.BracketFree)
    (hcontext : ∀ e, context.entity = some e → e ∈ c.entities) (hentity : token.kind ≠ .entity)
    (hhaving : token.kind ≠ .having) (number depth : Nat) :
    depth? depth (ofText (Layout.bodyText number part)) = depth? depth (ofTokens [token]) := by
  have hnames : ∀ {e a}, context.entity = some e → e.attribute? token.text .query = some a →
      ofText a.name.toList = [] ∧
        ∀ path, a.labelPath? = some path → ofText path.toList = [] := by
    intro e a he ha
    exact hc e (hcontext e he) a (Entity.mem_of_attribute? ha)
  cases h with
  | find h => simp only [ofTokens, List.filterMap_cons, ofToken?, h]; rfl
  | openBracket h => simp only [ofTokens, List.filterMap_cons, ofToken?, h]; rfl
  | closeBracket h => simp only [ofTokens, List.filterMap_cons, ofToken?, h]; rfl
  | having h => exact absurd h hhaving
  | entity h => exact absurd h hentity
  | @field h e a he ha hplain =>
      have hname := (hnames he ha).1
      simp only [ofTokens, List.filterMap_cons, ofToken?, h, Layout.bodyText, ofText_fieldOf, hname]
      rfl
  | @label h e a he ha hrelated hop hops field hpath =>
      obtain ⟨path, hlabel, hjoins⟩ := Option.bind_eq_some_iff.mp hpath
      have hfield := ofText_of_joinsOf? ((hnames he ha).2 path hlabel) hjoins
      simp only [ofTokens, List.filterMap_cons, ofToken?, h, Layout.bodyText, ofText_fieldOf,
        hfield, ofText_joinAlias]
      rfl
  | @operator h operator ho =>
      simp only [ofTokens, List.filterMap_cons, ofToken?, h]
      cases operator <;> rfl
  | value h ha hl =>
      simp only [ofTokens, List.filterMap_cons, ofToken?, h, Layout.bodyText, depth?_literal hl]
      rfl
  | @separator h separator hs =>
      simp only [ofTokens, List.filterMap_cons, ofToken?, h]
      cases separator <;> rfl

end Reads

/-- Conditions that name no entity open and close as many brackets as their tokens. -/
theorem ReadsAll.depth?_body {c : Catalog} {context : Context} {tokens : List Token}
    {ps : List Part} (h : ReadsAll c context tokens ps) (hc : c.BracketFree)
    (hcontext : ∀ e, context.entity = some e → e ∈ c.entities)
    (htokens : ∀ t ∈ tokens, t.kind ≠ .entity ∧ t.kind ≠ .having) (number depth : Nat) :
    BracketMark.depth? depth (BracketMark.ofText (Layout.body number ps)) =
      BracketMark.depth? depth (BracketMark.ofTokens tokens) := by
  induction h generalizing number depth with
  | nil => rfl
  | @cons context token tokens p ps hp _ ih =>
      obtain ⟨hentity, hhaving⟩ := htokens token (by simp)
      have hsplit : BracketMark.ofTokens (token :: tokens) =
          BracketMark.ofTokens [token] ++ BracketMark.ofTokens tokens :=
        List.filterMap_append (l := [token])
      rw [Layout.body, BracketMark.ofText_append, BracketMark.depth?_append, hsplit,
        BracketMark.depth?_append, hp.depth?_bodyText hc hcontext hentity hhaving]
      congr 1
      funext depth
      have hrest : ∀ t ∈ tokens, t.kind ≠ .entity ∧ t.kind ≠ .having :=
        fun t ht => htokens t (by simp [ht])
      exact ih (Context.entity_mem_after hcontext token) hrest _ depth

/-! ## The conditions of a query -/

/-- The bracket before the conditions of a query is closed by the one behind them exactly if the
brackets of the query match behind its start of conditions. -/
theorem bracket_closes_iff_balanced {c : Catalog} {caller : Caller} {front conditions : List Token}
    {start : Token} {e : Entity} {filter : String} {q : CompiledQuery} (hc : c.BracketFree)
    (hstart : start.kind = .having)
    (hconditions : ∀ t ∈ conditions, t.kind ≠ .entity ∧ t.kind ≠ .having)
    (he : (Context.of c (front ++ start :: conditions)).entity = some e)
    (hfilter : e.filter = some filter)
    (hq : c.compile caller (front ++ start :: conditions) = .ok q) :
    ∃ before after, before.length = front.length ∧
      ReadsAll c .empty (front ++ start :: conditions) (before ++ .having :: after) ∧
      q.text.toList = Layout.opening before after ++ " (".toList ++
        Layout.conditionText before after ++ " ) AND ( ".toList ++ Placeholder.marked filter ++
        " )".toList ∧
      (BracketMark.Balanced (BracketMark.ofText (Layout.conditionText before after)) ↔
        BracketMark.Balanced (BracketMark.ofTokens conditions)) := by
  obtain ⟨ps, e', hreads, he', hcompletes⟩ := Catalog.compile_eq_ok.mp hq
  obtain rfl := Option.some.inj (he.symm.trans he')
  obtain ⟨before, after, rfl, hlength, hafter⟩ := hreads.split_having hstart
  have hentity := hafter.no_part Reads.isEntity fun t ht => (hconditions t ht).1
  have hhaving := hafter.no_part Reads.isHaving fun t ht => (hconditions t ht).2
  refine ⟨before, after, hlength, hreads, ?_, ?_⟩
  · rcases hcompletes with hnone | ⟨hsome, hbind, -⟩
    · simp [hfilter] at hnone
    · obtain rfl := Option.some.inj (hfilter.symm.trans hsome)
      have hdrift : Layout.drift before after = 0 := by
        rw [Layout.drift, Layout.farJoins_of_no_entity hentity, Text.byteLength_nil]
      have hbracketed : Bracketed c caller _ before after _ _ :=
        ⟨hreads, hhaving, e, _, he, hfilter, hbind⟩
      rw [hbracketed.compile_eq, hdrift, Text.insertAt_zero] at hq
      obtain ⟨rfl, -⟩ := Draft.bindFilter_eq_ok.mp hbind
      rw [← Except.ok.inj hq]
      simp only [String.toList_ofList, List.append_assoc]
  · have hcontext := Context.entity_mem_after (Context.entity_mem_of c front) start
    have hdepth := hafter.depth?_body hc hcontext hconditions (1 + Layout.joinCount before) 0
    rw [Layout.conditionText, Layout.text_of_no_entity hentity, BracketMark.Balanced, hdepth]
    rfl

/-! ### Brackets of a query -/

namespace Documents

theorem bracketFree : (catalog "Document").BracketFree := by
  have howner : ∀ path, owner.labelPath? = some path → path = "owner.name" := by
    intro path h
    exact (Option.some.inj h).symm
  intro e he a ha
  obtain rfl | rfl : e = document "Document" ∨ e = note := by
    simpa [catalog, Catalog.withEntities, Catalog.new] using he
  · obtain rfl | rfl : a = (Attribute.new "title" "Title" .text).ownedBy "Document" .unrestricted ∨
        a = owner.ownedBy "Document" .unrestricted := by
      simpa [document, Entity.withAttributes, Entity.withAttribute, Entity.withFilter, Entity.new]
        using ha
    · exact ⟨by decide, fun path h => by cases h⟩
    · refine ⟨by decide, fun path h => ?_⟩
      rw [howner path h]
      decide
  · cases ha

def titleIs (value : String) : List Token :=
  [⟨.attr, "Title"⟩, ⟨.operator, "="⟩, ⟨.value, value⟩]

/-- A query for documents under the given conditions. -/
def having (conditions : List Token) : List Token :=
  [⟨.find, "find"⟩, ⟨.entity, "Document"⟩] ++ ⟨.having, "having"⟩ :: conditions

/-- Two titles in brackets. -/
def eitherTitle : List Token :=
  ⟨.openBracket, "("⟩ :: titleIs "a" ++
    [⟨.closeBracket, ")"⟩, ⟨.separator, "or"⟩, ⟨.openBracket, "("⟩] ++ titleIs "b" ++
    [⟨.closeBracket, ")"⟩]

/-- Two titles with the brackets the wrong way round. -/
def splitTitles : List Token :=
  titleIs "a" ++ [⟨.closeBracket, ")"⟩, ⟨.separator, "or"⟩, ⟨.openBracket, "("⟩] ++ titleIs "b"

end Documents

/-- Brackets around each of two conditions do not disturb the filter. -/
theorem bracket_closes_eitherTitle :
    (Documents.catalog "Document").BracketFree ∧
      (∀ t ∈ Documents.eitherTitle, t.kind ≠ .entity ∧ t.kind ≠ .having) ∧
      (Documents.catalog "Document").compile Documents.caller
          (Documents.having Documents.eitherTitle) =
        .ok ⟨"SELECT DISTINCT x FROM Document x WHERE ( ( x.title = ? ) OR ( x.title = ? ) ) " ++
            "AND ( x.tenant = ? )", [.string "a", .string "b", .int64 42]⟩ ∧
      ∃ before after,
        ReadsAll (Documents.catalog "Document") .empty (Documents.having Documents.eitherTitle)
          (before ++ .having :: after) ∧
        BracketMark.Balanced (BracketMark.ofText (Layout.conditionText before after)) := by
  have htokens : ∀ t ∈ Documents.eitherTitle, t.kind ≠ .entity ∧ t.kind ≠ .having := by decide
  have hcompile : (Documents.catalog "Document").compile Documents.caller
      (Documents.having Documents.eitherTitle) =
        .ok ⟨"SELECT DISTINCT x FROM Document x WHERE ( ( x.title = ? ) OR ( x.title = ? ) ) " ++
          "AND ( x.tenant = ? )", [.string "a", .string "b", .int64 42]⟩ := by decide +kernel
  refine ⟨Documents.bracketFree, htokens, hcompile, ?_⟩
  obtain ⟨before, after, -, hreads, -, hbalanced⟩ :=
    bracket_closes_iff_balanced Documents.bracketFree rfl htokens rfl rfl hcompile
  exact ⟨before, after, hreads, hbalanced.mpr (by decide)⟩

/-- The bracket before the conditions is closed behind the first of them, and the filter does not
restrict documents with the first title. -/
theorem compile_splitTitles :
    (Documents.catalog "Document").isValid = true ∧ (Documents.catalog "Document").BracketFree ∧
      (Documents.catalog "Document").compile Documents.caller
          (Documents.having Documents.splitTitles) =
        .ok ⟨"SELECT DISTINCT x FROM Document x WHERE (" ++ " x.title = ? ) OR ( x.title = ?" ++
            " ) AND ( x.tenant = ? )", [.string "a", .string "b", .int64 42]⟩ ∧
      ¬ BracketMark.Balanced (BracketMark.ofText " x.title = ? ) OR ( x.title = ?".toList) := by
  refine ⟨by decide +kernel, Documents.bracketFree, by decide +kernel, by decide +kernel⟩

end GuardedQuery
