import GuardedQuery.Proofs.Condition.Comparison
import GuardedQuery.Proofs.Query.Rendering
import Mathlib.Data.Option.Basic

/-! # Compiled conditions

The condition of a compiled query is the condition of the caller, comparison by comparison. A filter
is joined to the whole of it. -/

namespace GuardedQuery

namespace Condition

/-- The joins of all comparisons. -/
def joins (t : Condition Comparison) : List Char :=
  (t.number Comparison.width (fun n k => k.joins n) 1).leaves.flatten

/-- The condition of the store. -/
def clauses (t : Condition Comparison) : Condition Clause :=
  t.number Comparison.width (fun n k => k.clause n) 1

/-- The values of all comparisons. -/
def values (t : Condition Comparison) : List Value :=
  t.leaves.flatMap (·.literal.values)

/-- The text of a query up to its condition. -/
def opening (e : Entity) (t : Condition Comparison) : List Char :=
  "SELECT DISTINCT".toList ++ Draft.entityClause e ++ t.joins ++ " WHERE".toList

end Condition

/-! ## Tokens and parts of a condition -/

namespace Lexeme

theorem kind_of_ofTokens? {tokens : List Token} {L : List (Lexeme Phrase)}
    (h : ofTokens? tokens = some L) : ∀ t ∈ tokens, t.kind ≠ .entity := by
  fun_induction ofTokens? tokens generalizing L with
  | case1 => simp
  | case2 text rest ih | case3 text rest ih | case5 attr operator literal rest ih =>
      obtain ⟨L, hL, -⟩ := Option.map_eq_some_iff.mp h
      simpa using ih hL
  | case4 name rest ih =>
      obtain ⟨s, -, h⟩ := Option.bind_eq_some_iff.mp h
      obtain ⟨L, hL, -⟩ := Option.map_eq_some_iff.mp h
      simpa using ih hL
  | case6 => cases h

/-- Inside a condition no entity is named and no condition starts. -/
theorem no_start_parts (L : List (Lexeme Comparison)) :
    ∀ p ∈ L.flatMap parts, p.isEntity = false ∧ p.isHaving = false := by
  have hsubject : ∀ k : Comparison, k.subject.isEntity = false ∧ k.subject.isHaving = false := by
    intro k
    rw [Comparison.subject]
    split <;> exact ⟨rfl, rfl⟩
  intro p hp
  obtain ⟨l, -, hp⟩ := List.mem_flatMap.mp hp
  cases l with
  | leaf k =>
      simp only [parts, Comparison.parts, List.mem_cons, List.not_mem_nil, or_false] at hp
      rcases hp with rfl | rfl | rfl
      · exact hsubject k
      · exact ⟨rfl, rfl⟩
      · exact ⟨rfl, rfl⟩
  | _ =>
      rw [List.mem_singleton.mp hp]
      exact ⟨rfl, rfl⟩

/-- The parts of a query with one condition. -/
theorem oneEntity (e : Entity) (L : List (Lexeme Comparison)) (front : List Char) :
    OneEntity [.text front] e (.having :: L.flatMap parts) where
  before_entity p hp := by
    rw [List.mem_singleton.mp hp]
    rfl
  before_having p hp := by
    rw [List.mem_singleton.mp hp]
    rfl
  before_joins := rfl
  after_entity p hp := by
    rcases List.mem_cons.mp hp with rfl | hp
    · rfl
    · exact (no_start_parts L p hp).1

theorem bracketConditions_parts (L : List (Lexeme Comparison)) :
    Layout.bracketConditions (.having :: L.flatMap parts) =
      .having :: .text " (".toList :: L.flatMap parts := by
  have hsplit := Layout.splitHaving_append [] fun p hp => (no_start_parts L p hp).2
  rw [List.nil_append] at hsplit
  rw [Layout.bracketConditions, hsplit]
  rfl

variable {c : Catalog} {e : Entity} {L : List (Lexeme Comparison)}

/-- The lexemes of the store. -/
def clauses (L : List (Lexeme Comparison)) : List (Lexeme Clause) :=
  number Comparison.width (fun n k => k.clause n) 1 L

/-- The text of a condition that stands by itself. -/
theorem body_having (h : ∀ k ∈ leaves L, k.Accepted c e) (bound : List Char) :
    Layout.body 1 (.having :: L.flatMap parts) =
      " WHERE".toList ++ Mark.text bound (marks (clauses L)) := by
  rw [clauses, ← body_parts h 1 bound]
  rfl

/-- A condition in brackets, joined to a filter in brackets. -/
def withFilter (K : List (Lexeme Clause)) : List (Lexeme Clause) :=
  (opening :: (K ++ [closing])) ++ separator .and :: opening :: ([leaf .filter] ++ [closing])

theorem written_withFilter {K : List (Lexeme Clause)} {t : Condition Clause}
    (h : Condition.Written .whole K t) :
    Condition.Written .whole (withFilter K) (.and t (.leaf .filter)) := by
  have hfilter : Condition.Written .operand
      (.opening :: ([.leaf Clause.filter] ++ [.closing])) (.leaf .filter) :=
    .bracket (.conjunction (.operand (.leaf Clause.filter)))
  exact .conjunction (.and (.operand (.bracket h)) hfilter)

theorem text_withFilter (K : List (Lexeme Clause)) (bound : List Char) :
    Mark.text bound (marks (withFilter K)) =
      " (".toList ++ Mark.text bound (marks K) ++ " ) AND ( ".toList ++ bound ++ " )".toList := by
  have hopening : " (".toList = [' ', '('] := by decide
  have hclosing : " )".toList = [' ', ')'] := by decide
  have hand : " ) AND ( ".toList = [' ', ')', ' ', 'A', 'N', 'D', ' ', '(', ' '] := by decide
  have hkeyword : Separator.and.keyword.toList = ['A', 'N', 'D'] := by decide
  rw [withFilter, hopening, hclosing, hand]
  simp only [List.cons_append, List.nil_append, marks_cons, marks_append, pieces, Clause.pieces,
    hkeyword, List.flatMap_cons, List.flatMap_nil, List.append_nil, Mark.text_append,
    Mark.text_char_cons, Mark.text_filter_cons, Mark.text_ofText, List.append_assoc]
  rfl

/-- The text of a condition that a filter is joined to. -/
theorem body_withFilter (h : ∀ k ∈ leaves L, k.Accepted c e) (bound : List Char) :
    Layout.body 1 (Layout.bracketConditions (.having :: L.flatMap parts)) ++
        Layout.closing (.having :: L.flatMap parts) bound =
      " WHERE".toList ++ Mark.text bound (marks (withFilter (clauses L))) := by
  have hbody : Layout.body 1 (.having :: .text " (".toList :: L.flatMap parts) =
      " WHERE".toList ++ (" (".toList ++ Layout.body 1 (L.flatMap parts)) := rfl
  have hclosing : Layout.closing (.having :: L.flatMap parts) bound =
      " ) AND ( ".toList ++ bound ++ " )".toList := rfl
  rw [bracketConditions_parts, hbody, hclosing, text_withFilter, body_parts h 1 bound,
    clauses]
  simp only [List.append_assoc]

end Lexeme

/-! ## Queries with one condition -/

/-- What the parts of a query with one condition compile to. -/
theorem Condition.compile_eq {c : Catalog} (caller : Caller) {tokens : List Token} {e : Entity}
    {L : List (Lexeme Comparison)} {t : Condition Comparison} (ht : Written .whole L t)
    (hreads : ReadsAll c .empty tokens
      ([Part.text "SELECT DISTINCT".toList] ++ .entity e :: .having :: L.flatMap Lexeme.parts))
    (he : (Context.of c tokens).entity = some e) {tail : List Char} {filterValues : List Value}
    (htail : Layout.FilterText caller e (.having :: L.flatMap Lexeme.parts) tail filterValues)
    {text : List Char}
    (htext : Layout.body 1 (Layout.withBracket e (.having :: L.flatMap Lexeme.parts)) ++ tail =
      " WHERE".toList ++ text) :
    c.compile caller tokens =
      .ok ⟨String.ofList (t.opening e ++ text), t.values ++ filterValues⟩ := by
  have hjoins : Layout.joins 1 (.having :: L.flatMap Lexeme.parts) = t.joins := by
    have hleaves := (ht.number Comparison.width (fun n k => k.joins n) 1).leaves_eq
    rw [joins, ← hleaves, ← Lexeme.joins_parts]
    rfl
  have hvalues : Layout.values ([Part.text "SELECT DISTINCT".toList] ++ .entity e :: .having ::
      L.flatMap Lexeme.parts) = t.values := by
    rw [values, ← ht.leaves_eq, ← Lexeme.values_parts]
    rfl
  have hfront : Layout.body 1 [.text "SELECT DISTINCT".toList] = "SELECT DISTINCT".toList :=
    List.append_nil _
  have hone := Lexeme.oneEntity e L "SELECT DISTINCT".toList
  have hcompletes : Completes caller ([Part.text "SELECT DISTINCT".toList] ++ .entity e :: .having ::
      L.flatMap Lexeme.parts) e _ := hone.completes_iff.mpr ⟨tail, filterValues, htail, rfl⟩
  rw [hjoins, hvalues, hfront, List.append_assoc _ _ tail, htext, ← List.append_assoc] at hcompletes
  exact Catalog.compile_eq_ok.mpr ⟨_, e, hreads, he, hcompletes⟩

/-- The tokens of a query with one condition have the parts of its lexemes. -/
theorem Condition.exists_parts {c : Catalog} (hvalid : c.validate = .ok ())
    {find named having : Token} {conditions : List Token} (hfind : find.kind = .find)
    (hnamed : named.kind = .entity) (hhaving : having.kind = .having) {e : Entity}
    (he : c.entity? named.text = some e) {phrases : Condition Phrase}
    (hphrases : ofTokens? conditions = some phrases) {t : Condition Comparison}
    (ht : phrases.replace? (Phrase.comparison? c e) = some t) :
    ∃ L : List (Lexeme Comparison), Written .whole L t ∧ (∀ k ∈ Lexeme.leaves L, k.Accepted c e) ∧
      ReadsAll c .empty (find :: named :: having :: conditions)
        ([Part.text "SELECT DISTINCT".toList] ++ .entity e :: .having :: L.flatMap Lexeme.parts) ∧
      (Context.of c (find :: named :: having :: conditions)).entity = some e := by
  obtain ⟨K, hK, hread⟩ := Option.bind_eq_some_iff.mp hphrases
  obtain ⟨L, hL, hwritten⟩ := (read?_eq_some.mp hread).replace? ht
  have hattributes := Catalog.valid_of_validate hvalid (List.mem_of_find?_eq_some he)
  have hentity : ((Context.empty.after c find).after c named).entity = some e := by
    simp [Context.after, hfind, hnamed, he]
  have hcontext : (((Context.empty.after c find).after c named).after c having).entity =
      some e := by
    rw [← hentity]
    simp [Context.after, hhaving]
  obtain ⟨hconditions, haccepted⟩ := Lexeme.readsAll_parts hattributes hK hL hcontext
  have hno : ∀ t ∈ having :: conditions, t.kind ≠ .entity := by
    refine List.forall_mem_cons.mpr ⟨?_, Lexeme.kind_of_ofTokens? hK⟩
    rw [hhaving]
    decide
  refine ⟨L, hwritten, haccepted, ?_, (Context.entity_of c [find] hnamed hno).trans he⟩
  exact .cons (.find hfind) (.cons (.entity hnamed he) (.cons (.having hhaving) hconditions))

/-- The clauses of an accepted condition can be read, and none is a filter. -/
theorem Condition.readable_clauses {c : Catalog} (hvalid : c.validate = .ok ())
    (hnames : c.WordNames) {e : Entity} (he : e ∈ c.entities) {t : Condition Comparison}
    (h : ∀ k ∈ t.leaves, k.Accepted c e) : ∀ k ∈ t.clauses.leaves, k.Readable ∧ k ≠ .filter := by
  intro k hk
  obtain ⟨comparison, hleaf, n, rfl⟩ := mem_leaves_number hk
  have haccepted := h comparison hleaf
  have hattribute := Catalog.valid_of_validate hvalid he comparison.attr haccepted.attr
  refine ⟨haccepted.readable hattribute he hnames n, ?_⟩
  intro hfilter
  cases hfilter

/-- A caller who has a value for every name of a filter can bind it. -/
theorem Caller.exists_values {caller : Caller} {names : List String}
    (h : ∀ name ∈ names, (caller.scope? name).isSome) :
    ∃ values : List Value, names.map caller.scope? = values.map some := by
  induction names with
  | nil => exact ⟨[], rfl⟩
  | cons name names ih =>
      obtain ⟨hname, hnames⟩ := List.forall_mem_cons.mp h
      obtain ⟨value, hvalue⟩ := Option.isSome_iff_exists.mp hname
      obtain ⟨values, hvalues⟩ := ih hnames
      refine ⟨value :: values, ?_⟩
      rw [List.map_cons, List.map_cons, hvalue, hvalues]

/-- A condition is compiled to itself. For a query with one condition, the text behind WHERE is read
as the condition that the tokens are read as, with the comparison of the store at every leaf. A
filter, as one leaf whatever its text is, is joined to the whole of it by an AND. -/
theorem compile_reads_as_condition {c : Catalog} (hvalid : c.validate = .ok ())
    (hnames : c.WordNames) {find named having : Token} {conditions : List Token}
    (hfind : find.kind = .find) (hnamed : named.kind = .entity) (hhaving : having.kind = .having)
    {e : Entity} (he : c.entity? named.text = some e) {phrases : Condition Phrase}
    (hphrases : Condition.ofTokens? conditions = some phrases) {t : Condition Comparison}
    (ht : phrases.replace? (Phrase.comparison? c e) = some t) {caller : Caller}
    (hbound : ∀ filter ∈ e.filter, ∀ name ∈ Placeholder.names filter,
      (caller.scope? name).isSome) :
    match e.filter with
    | none => ∃ text,
        c.compile caller (find :: named :: having :: conditions) =
          .ok ⟨String.ofList (t.opening e ++ text), t.values⟩ ∧
        Condition.ofMarks? (Mark.ofText text) = some t.clauses
    | some filter => ∃ ms filterValues,
        c.compile caller (find :: named :: having :: conditions) =
          .ok ⟨String.ofList (t.opening e ++ Mark.text (Placeholder.marked filter) ms),
            t.values ++ filterValues⟩ ∧
        (Placeholder.names filter).map caller.scope? = filterValues.map some ∧
        Condition.ofMarks? ms = some (.and t.clauses (.leaf .filter)) := by
  obtain ⟨L, hwritten, haccepted, hreads, hentity⟩ :=
    Condition.exists_parts hvalid hfind hnamed hhaving he hphrases ht
  have hclauses : Condition.Written .whole (Lexeme.clauses L) t.clauses := hwritten.number _ _ 1
  have hleaves : ∀ k ∈ t.leaves, k.Accepted c e := by
    rwa [← hwritten.leaves_eq]
  have hreadable := Condition.readable_clauses hvalid hnames (List.mem_of_find?_eq_some he) hleaves
  cases hfilter : e.filter with
  | none =>
      have htext : Layout.body 1 (Layout.withBracket e (.having :: L.flatMap Lexeme.parts)) ++ [] =
          " WHERE".toList ++ Mark.text [] (Lexeme.marks (Lexeme.clauses L)) := by
        rw [Layout.withBracket, hfilter, List.append_nil]
        exact Lexeme.body_having haccepted []
      have hcompile := Condition.compile_eq caller hwritten hreads hentity (.none hfilter) htext
      rw [List.append_nil] at hcompile
      have hplain : .filter ∉ Lexeme.leaves (Lexeme.clauses L) := by
        rw [hclauses.leaves_eq]
        intro hmem
        exact (hreadable _ hmem).2 rfl
      refine ⟨_, hcompile, ?_⟩
      rw [Mark.ofText_text [] (Lexeme.filter_notMem_marks hplain)]
      exact Condition.ofMarks?_marks (fun k hk => (hreadable k hk).1) hclauses
  | some filter =>
      obtain ⟨filterValues, hvalues⟩ := Caller.exists_values (hbound filter hfilter)
      have htext : Layout.body 1 (Layout.withBracket e (.having :: L.flatMap Lexeme.parts)) ++
          Layout.closing (.having :: L.flatMap Lexeme.parts) (Placeholder.marked filter) =
          " WHERE".toList ++ Mark.text (Placeholder.marked filter)
            (Lexeme.marks (Lexeme.withFilter (Lexeme.clauses L))) := by
        rw [Layout.withBracket, hfilter]
        exact Lexeme.body_withFilter haccepted _
      have hcompile :=
        Condition.compile_eq caller hwritten hreads hentity (.some hfilter hvalues) htext
      refine ⟨_, filterValues, hcompile, hvalues, ?_⟩
      apply Condition.ofMarks?_marks _ (Lexeme.written_withFilter hclauses)
      intro k hk
      rcases List.mem_append.mp hk with hk | hk
      · exact (hreadable k hk).1
      · rw [List.mem_singleton.mp hk]
        exact .filter

/-! ### Documents by title or owner -/

namespace Documents

def title : Attribute := (Attribute.new "title" "Title" .text).ownedBy "Document" .unrestricted

/-- A bracket with an OR, joined to one more comparison. -/
def titleOrOwner : List Token :=
  [⟨.openBracket, "("⟩, ⟨.attr, "Title"⟩, ⟨.operator, "="⟩, ⟨.value, "a"⟩, ⟨.separator, "or"⟩,
    ⟨.attr, "Owner"⟩, ⟨.operator, "in"⟩, ⟨.value, "Ada,Bob"⟩, ⟨.closeBracket, ")"⟩,
    ⟨.separator, "and"⟩, ⟨.attr, "Title"⟩, ⟨.operator, "like"⟩, ⟨.value, "b"⟩]

def titleOrOwnerPhrases : Condition Phrase :=
  .and (.or (.leaf ⟨"Title", "=", "a"⟩) (.leaf ⟨"Owner", "in", "Ada,Bob"⟩))
    (.leaf ⟨"Title", "like", "b"⟩)

def titleOrOwnerComparisons : Condition Comparison :=
  .and (.or (.leaf ⟨title, .equals, .single (.string "a")⟩)
      (.leaf ⟨owner, .isIn, .list [.string "Ada", .string "Bob"]⟩))
    (.leaf ⟨title, .like, .single (.string "b")⟩)

theorem wordNames : (catalog "Document").WordNames := by decide +kernel

theorem clauses_titleOrOwner : titleOrOwnerComparisons.clauses =
    .and (.or (.leaf (.comparison "x.title" "=" .one))
        (.leaf (.comparison "x1.name" "IN" (.list 2))))
      (.leaf (.comparison "x.title" "LIKE" .one)) := by
  decide +kernel

theorem ofTokens_titleOrOwner : Condition.ofTokens? titleOrOwner = some titleOrOwnerPhrases := by
  decide +kernel

theorem replace_titleOrOwner :
    titleOrOwnerPhrases.replace? (Phrase.comparison? (catalog "Document") (document "Document")) =
      some titleOrOwnerComparisons := by
  decide +kernel

theorem names_tenant : Placeholder.names "x.tenant = :tenant" = ["tenant"] := by decide +kernel

theorem marked_tenant : Placeholder.marked "x.tenant = :tenant" = "x.tenant = ?".toList := by
  decide +kernel

theorem validate_documents : (catalog "Document").validate = .ok () := by decide +kernel

theorem entity_document : (catalog "Document").entity? "Document" = some (document "Document") :=
  rfl

theorem filter_document : (document "Document").filter = some "x.tenant = :tenant" := rfl

/-- The caller has a tenant. -/
theorem caller_binds : ∀ filter ∈ (document "Document").filter,
    ∀ name ∈ Placeholder.names filter, (caller.scope? name).isSome := by
  intro filter hfilter name hname
  rw [filter_document] at hfilter
  rw [← Option.mem_some.mp hfilter, names_tenant] at hname
  rw [List.mem_singleton.mp hname]
  decide

theorem values_of_tenant {values : List Value}
    (h : (Placeholder.names "x.tenant = :tenant").map caller.scope? = values.map some) :
    values = [.int64 42] := by
  have htenant : caller.scope? "tenant" = some (.int64 42) := rfl
  rw [names_tenant, List.map_singleton, htenant] at h
  exact List.map_injective_iff.mpr (Option.some_injective _) h.symm

theorem values_titleOrOwner : titleOrOwnerComparisons.values =
    [.string "a", .string "Ada", .string "Bob", .string "b"] := rfl

theorem opening_titleOrOwner : titleOrOwnerComparisons.opening (document "Document") =
    "SELECT DISTINCT x FROM Document x LEFT JOIN x.owner x1 WHERE".toList := by
  decide +kernel

end Documents

/-- The filter of the tenant is joined to the whole condition. -/
theorem compile_titleOrOwner :
    ∃ ms,
      (Documents.catalog "Document").compile Documents.caller
          (⟨.find, "find"⟩ :: ⟨.entity, "Document"⟩ :: ⟨.having, "having"⟩ ::
            Documents.titleOrOwner) =
        .ok ⟨String.ofList ("SELECT DISTINCT x FROM Document x LEFT JOIN x.owner x1 WHERE".toList ++
            Mark.text "x.tenant = ?".toList ms),
          [.string "a", .string "Ada", .string "Bob", .string "b"] ++ [.int64 42]⟩ ∧
      Condition.ofMarks? ms = some
        (.and
          (.and (.or (.leaf (.comparison "x.title" "=" .one))
              (.leaf (.comparison "x1.name" "IN" (.list 2))))
            (.leaf (.comparison "x.title" "LIKE" .one)))
          (.leaf .filter)) := by
  have hread := @compile_reads_as_condition _ Documents.validate_documents Documents.wordNames
    ⟨.find, "find"⟩ ⟨.entity, "Document"⟩ ⟨.having, "having"⟩ _ rfl rfl rfl _
    Documents.entity_document _ Documents.ofTokens_titleOrOwner _ Documents.replace_titleOrOwner
    Documents.caller Documents.caller_binds
  rw [Documents.filter_document] at hread
  obtain ⟨ms, filterValues, hcompile, hvalues, hclauses⟩ := hread
  rw [Documents.opening_titleOrOwner, Documents.marked_tenant, Documents.values_titleOrOwner,
    Documents.values_of_tenant hvalues] at hcompile
  rw [Documents.clauses_titleOrOwner] at hclauses
  exact ⟨ms, hcompile, hclauses⟩

end GuardedQuery
