import GuardedQuery.Proofs.Query.Binding
import Mathlib.Algebra.Group.Nat.Even
import Mathlib.Data.List.TakeWhile

/-! # Names in a filter

A filter is cut at its names in one way: a name begins behind a colon outside quotes and goes as far
as it can. A bound filter has a placeholder for every name and is otherwise the same text, and its
values are those of the names from left to right. -/

namespace GuardedQuery.Placeholder

/-- What stands behind such a text is outside quotes. -/
def Outside (front : List Char) : Prop :=
  Even (front.count '\'')

instance (front : List Char) : Decidable (Outside front) :=
  inferInstanceAs (Decidable (Even _))

/-- A text with each of its quotes written twice. -/
def doubled (content : List Char) : List Char :=
  content.flatMap fun c => if c = '\'' then ['\'', '\''] else [c]

/-- The text of a string literal in a filter. -/
def literal (content : List Char) : List Char :=
  '\'' :: (doubled content ++ ['\''])

/-- A filter that is cut at its names: text, a name, more text and so on, with text at the end. -/
inductive Cut
  | last (text : List Char)
  | cons (text name : List Char) (rest : Cut)
  deriving DecidableEq, Repr

namespace Cut

/-- The filter that is cut. -/
def source : Cut → List Char
  | .last text => text
  | .cons text name rest => text ++ ':' :: (name ++ rest.source)

/-- The filter with placeholders for its names. -/
def bound : Cut → List Char
  | .last text => text
  | .cons text _ rest => text ++ '?' :: rest.bound

def names : Cut → List String
  | .last _ => []
  | .cons _ name rest => String.ofList name :: rest.names

end Cut

/-- In this text, which stands between two others, no colon outside quotes begins a name. -/
def Plain (front text behind : List Char) : Prop :=
  ∀ before after, text = before ++ ':' :: after → Outside (front ++ before) →
    ∀ c ∈ (after ++ behind).head?, startsName c = false

/-- Behind the text in front, the cut is at all names outside quotes, and at these alone. -/
def Cut.Exact : List Char → Cut → Prop
  | front, .last text => Plain front text []
  | front, .cons text name rest =>
      Plain front text (':' :: (name ++ rest.source)) ∧ Outside (front ++ text) ∧
        (∃ c ∈ name.head?, startsName c = true) ∧
        name = (name ++ rest.source).takeWhile inName ∧
        rest.Exact (front ++ text ++ ':' :: name)

/-! ## Pieces of a filter -/

theorem outside_nil : Outside [] := Even.zero

theorem outside_quote {front : List Char} : Outside (front ++ ['\'']) ↔ ¬ Outside front := by
  rw [Outside, List.count_append, List.count_singleton_self, Nat.even_add_one, Outside]

theorem outside_append {front text : List Char} (h : '\'' ∉ text) :
    Outside (front ++ text) ↔ Outside front := by
  rw [Outside, List.count_append, List.count_eq_zero_of_not_mem h, Nat.add_zero, Outside]

theorem inName_of_startsName {c : Char} (h : startsName c = true) : inName c = true := by
  simp only [startsName, inName, Char.isAlphanum, Bool.or_eq_true] at h ⊢
  rcases h with h | h
  · exact .inl (.inl h)
  · exact .inr h

theorem quote_notMem_takeWhile (cs : List Char) : '\'' ∉ cs.takeWhile inName := by
  intro h
  have hquote := List.mem_takeWhile_imp h
  revert hquote
  decide

theorem outside_append_char {front : List Char} {c : Char} (h : c ≠ '\'') :
    Outside (front ++ [c]) ↔ Outside front :=
  outside_append (by simpa using Ne.symm h)

theorem outside_append_name {front cs : List Char} :
    Outside (front ++ ':' :: cs.takeWhile inName) ↔ Outside front := by
  apply outside_append
  rw [List.mem_cons, not_or]
  exact ⟨by decide, quote_notMem_takeWhile cs⟩

/-- A name that has begun goes as far as it can. -/
theorem piecesFrom_pending (quoted : Bool) (pending cs : List Char) :
    piecesFrom quoted (some pending) cs =
      .name (pending.reverse ++ cs.takeWhile inName) ::
        piecesFrom quoted none (cs.dropWhile inName) := by
  induction cs generalizing pending with
  | nil => simp [piecesFrom]
  | cons c cs ih =>
      rw [piecesFrom]
      by_cases hc : inName c = true
      · rw [if_pos hc, ih, List.takeWhile_cons_of_pos hc, List.dropWhile_cons_of_pos hc]
        simp
      · rw [if_neg hc, List.takeWhile_cons_of_neg hc, List.dropWhile_cons_of_neg hc,
          List.append_nil, piecesFrom]

theorem piecesFrom_quote (quoted : Bool) (cs : List Char) :
    piecesFrom quoted none ('\'' :: cs) = .char '\'' :: piecesFrom (!quoted) none cs := by
  rw [piecesFrom, piecesFrom.piecesAt, if_pos rfl]

theorem piecesFrom_name {c : Char} (hc : startsName c = true) (cs : List Char) :
    piecesFrom false none (':' :: c :: cs) =
      .name ((c :: cs).takeWhile inName) :: piecesFrom false none ((c :: cs).dropWhile inName) := by
  rw [piecesFrom, piecesFrom.piecesAt, if_neg (by decide), if_pos (by simp [hc]),
    piecesFrom_pending, List.reverse_nil, List.nil_append]

/-- All other characters are text. -/
theorem piecesFrom_char {quoted : Bool} {c : Char} {cs : List Char} (hquote : c ≠ '\'')
    (hname : quoted = false → c = ':' → ∀ d ∈ cs.head?, startsName d = false) :
    piecesFrom quoted none (c :: cs) = .char c :: piecesFrom quoted none cs := by
  rw [piecesFrom, piecesFrom.piecesAt, if_neg hquote, if_neg]
  intro h
  simp only [Bool.and_eq_true, Bool.not_eq_true', beq_iff_eq] at h
  obtain ⟨⟨hquoted, hcolon⟩, hstart⟩ := h
  cases cs with
  | nil => cases hstart
  | cons d cs =>
      have hd := hname hquoted hcolon d rfl
      rw [List.head?_cons, Option.map_some, Option.getD_some, hd] at hstart
      cases hstart

/-- A filter is read quote by quote, name by name and character by character. What has been read is
in front. -/
theorem scan_induction {motive : List Char → List Char → Prop}
    (nil : ∀ front, motive front [])
    (quote : ∀ front cs, motive (front ++ ['\'']) cs → motive front ('\'' :: cs))
    (name : ∀ front c cs, Outside front → startsName c = true →
      motive (front ++ ':' :: (c :: cs).takeWhile inName) ((c :: cs).dropWhile inName) →
      motive front (':' :: c :: cs))
    (char : ∀ front c cs, c ≠ '\'' →
      (c = ':' → Outside front → ∀ d ∈ cs.head?, startsName d = false) →
      motive (front ++ [c]) cs → motive front (c :: cs))
    (front cs : List Char) : motive front cs := by
  induction hlength : cs.length using Nat.strong_induction_on generalizing front cs with
  | _ n ih =>
  subst hlength
  cases cs with
  | nil => exact nil front
  | cons c cs =>
      have hrest (next : List Char) : motive next cs := ih cs.length (Nat.lt_succ_self _) next cs rfl
      by_cases hquote : c = '\''
      · exact hquote ▸ quote front cs (hrest _)
      · by_cases hname : c = ':' ∧ Outside front ∧ ∃ d ∈ cs.head?, startsName d = true
        · obtain ⟨rfl, houtside, d, hd, hstart⟩ := hname
          obtain ⟨cs, rfl⟩ := List.head?_eq_some_iff.mp hd
          have hdrop : ((d :: cs).dropWhile inName).length < (':' :: d :: cs).length :=
            Nat.lt_succ_of_le (List.length_dropWhile_le _ _)
          exact name front d cs houtside hstart (ih _ hdrop _ _ rfl)
        · apply char front c cs hquote _ (hrest _)
          intro hcolon houtside d hd
          rw [← Bool.not_eq_true]
          intro hstart
          exact hname ⟨hcolon, houtside, d, hd, hstart⟩

/-! ## The cut of a filter -/

namespace Cut

def push (c : Char) : Cut → Cut
  | .last text => .last (c :: text)
  | .cons text name rest => .cons (c :: text) name rest

/-- The cut of pieces gathers the characters between names. -/
def ofPieces : List Piece → Cut
  | [] => .last []
  | .char c :: ps => (ofPieces ps).push c
  | .name chars :: ps => .cons [] chars (ofPieces ps)

@[simp] theorem source_push (c : Char) (k : Cut) : (k.push c).source = c :: k.source := by
  cases k <;> rfl

@[simp] theorem bound_push (c : Char) (k : Cut) : (k.push c).bound = c :: k.bound := by
  cases k <;> rfl

@[simp] theorem names_push (c : Char) (k : Cut) : (k.push c).names = k.names := by
  cases k <;> rfl

theorem bound_ofPieces (ps : List Piece) : (ofPieces ps).bound = ps.map Piece.mark := by
  induction ps with
  | nil => rfl
  | cons p ps ih =>
      cases p with
      | char c => rw [ofPieces, bound_push, ih, List.map_cons, Piece.mark]
      | name chars => rw [ofPieces, bound, ih, List.map_cons, Piece.mark, List.nil_append]

theorem names_ofPieces (ps : List Piece) : (ofPieces ps).names = ps.filterMap Piece.name? := by
  induction ps with
  | nil => rfl
  | cons p ps ih =>
      cases p with
      | char c => rw [ofPieces, names_push, ih, filterMap_name?_char]
      | name chars => rw [ofPieces, names, ih, filterMap_name?_name]

/-- One more character in front of plain text. -/
theorem plain_cons {front text behind : List Char} {c : Char}
    (hc : c = ':' → Outside front → ∀ d ∈ (text ++ behind).head?, startsName d = false)
    (h : Plain (front ++ [c]) text behind) : Plain front (c :: text) behind := by
  intro before after htext houtside
  cases before with
  | nil =>
      obtain ⟨rfl, rfl⟩ := List.cons.inj htext
      rw [List.append_nil] at houtside
      exact hc rfl houtside
  | cons b before =>
      obtain ⟨rfl, rfl⟩ := List.cons.inj htext
      rw [List.append_cons] at houtside
      exact h before after rfl houtside

theorem exact_push {front : List Char} {c : Char} {k : Cut}
    (hc : c = ':' → Outside front → ∀ d ∈ k.source.head?, startsName d = false)
    (h : k.Exact (front ++ [c])) : (k.push c).Exact front := by
  cases k with
  | last text => exact plain_cons (by rwa [List.append_nil]) h
  | cons text name rest =>
      obtain ⟨hplain, houtside, hstart, hname, hrest⟩ := h
      rw [← List.append_cons] at houtside hrest
      exact ⟨plain_cons hc hplain, houtside, hstart, hname, hrest⟩

/-- Cutting what stands behind a text loses nothing, and is exact. -/
theorem exact_ofPieces (front cs : List Char) :
    (ofPieces (piecesFrom (!decide (Outside front)) none cs)).source = cs ∧
      (ofPieces (piecesFrom (!decide (Outside front)) none cs)).Exact front := by
  induction front, cs using scan_induction with
  | nil front =>
      rw [piecesFrom]
      refine ⟨rfl, ?_⟩
      intro before after h
      cases before <;> cases h
  | quote front cs ih =>
      simp only [outside_quote, decide_not] at ih
      rw [piecesFrom_quote, ofPieces, source_push, ih.1]
      refine ⟨rfl, exact_push ?_ ih.2⟩
      intro h
      cases h
  | name front c cs houtside hstart ih =>
      have hbehind : Outside (front ++ ':' :: (c :: cs).takeWhile inName) :=
        outside_append_name.mpr houtside
      simp only [hbehind, houtside, decide_true, Bool.not_true] at ih ⊢
      rw [piecesFrom_name hstart, ofPieces, source, Exact, ih.1, List.takeWhile_append_dropWhile,
        List.append_nil]
      refine ⟨rfl, ?_, houtside, ?_, rfl, ih.2⟩
      · intro before after h
        cases before <;> cases h
      · rw [List.takeWhile_cons_of_pos (inName_of_startsName hstart)]
        exact ⟨c, rfl, hstart⟩
  | char front c cs hquote hplain ih =>
      simp only [outside_append_char hquote] at ih
      rw [piecesFrom_char hquote (fun hquoted hcolon => hplain hcolon (by simpa using hquoted)),
        ofPieces, source_push, ih.1]
      exact ⟨rfl, exact_push (ih.1.symm ▸ hplain) ih.2⟩

end Cut

/-! ## Literals in a filter -/

/-- A quote ends a name. -/
theorem takeWhile_append_quote (cs rest : List Char) :
    (cs ++ '\'' :: rest).takeWhile inName = cs.takeWhile inName := by
  induction cs with
  | nil => exact List.takeWhile_cons_of_neg (by decide)
  | cons c cs ih => rw [List.cons_append, List.takeWhile_cons, List.takeWhile_cons, ih]

theorem dropWhile_append_quote (cs rest : List Char) :
    (cs ++ '\'' :: rest).dropWhile inName = cs.dropWhile inName ++ '\'' :: rest := by
  induction cs with
  | nil => exact List.dropWhile_cons_of_neg (by decide)
  | cons c cs ih =>
      rw [List.cons_append, List.dropWhile_cons, List.dropWhile_cons, ih]
      split <;> rfl

/-- What stands in front of a quote is cut as if nothing followed. -/
theorem piecesFrom_append_quote (before front rest : List Char) :
    piecesFrom (!decide (Outside before)) none (front ++ '\'' :: rest) =
      piecesFrom (!decide (Outside before)) none front ++
        piecesFrom (!decide (Outside (before ++ front))) none ('\'' :: rest) := by
  induction before, front using scan_induction with
  | nil before => rw [List.nil_append, List.append_nil, piecesFrom, List.nil_append]
  | quote before cs ih =>
      rw [← List.append_cons] at ih
      simp only [outside_quote, decide_not] at ih
      rw [List.cons_append, piecesFrom_quote, piecesFrom_quote, ih, List.cons_append]
  | name before c cs houtside hstart ih =>
      have hbehind : Outside (before ++ ':' :: (c :: cs).takeWhile inName) :=
        outside_append_name.mpr houtside
      rw [List.append_assoc, List.cons_append, List.takeWhile_append_dropWhile] at ih
      simp only [hbehind, houtside, decide_true, Bool.not_true] at ih ⊢
      rw [List.cons_append, List.cons_append, piecesFrom_name hstart, piecesFrom_name hstart,
        ← List.cons_append, takeWhile_append_quote, dropWhile_append_quote, ih, List.cons_append]
  | char before c cs hquote hplain ih =>
      rw [← List.append_cons] at ih
      simp only [outside_append_char hquote] at ih
      have hplain' : c = ':' → Outside before →
          ∀ d ∈ (cs ++ '\'' :: rest).head?, startsName d = false := by
        cases cs with
        | nil =>
            rintro - - d ⟨⟩
            decide
        | cons d cs => exact hplain
      rw [List.cons_append,
        piecesFrom_char hquote (fun hquoted hcolon => hplain' hcolon (by simpa using hquoted)),
        piecesFrom_char hquote (fun hquoted hcolon => hplain hcolon (by simpa using hquoted)), ih,
        List.cons_append]

/-- The rest of a literal is text. -/
theorem piecesFrom_content (content back : List Char) :
    piecesFrom true none (doubled content ++ '\'' :: back) =
      (doubled content ++ ['\'']).map .char ++ piecesFrom false none back := by
  induction content with
  | nil => exact piecesFrom_quote true back
  | cons c content ih =>
      rw [doubled, List.flatMap_cons, ← doubled]
      by_cases hquote : c = '\''
      · rw [if_pos hquote]
        simp only [List.cons_append, List.nil_append, piecesFrom_quote, Bool.not_true,
          Bool.not_false, ih, List.map_cons]
      · rw [if_neg hquote]
        simp only [List.cons_append, List.nil_append, List.map_cons]
        rw [piecesFrom_char hquote (fun h => by cases h), ih]

theorem pieces_literal {front : List Char} (h : Outside front) (content back : List Char) :
    pieces (front ++ literal content ++ back) =
      pieces front ++ (literal content).map .char ++ pieces back := by
  have hfront := piecesFrom_append_quote [] front (doubled content ++ '\'' :: back)
  simp only [List.nil_append, h, decide_true, Bool.not_true, outside_nil,
    piecesFrom_quote, Bool.not_false, piecesFrom_content] at hfront
  rw [pieces, pieces, pieces, literal]
  simpa only [List.append_assoc, List.cons_append, List.nil_append, List.map_cons] using hfront

variable {ε : Type} (resolve : String → Except ε Value)

theorem bindPieces_append (ps qs : List Piece) :
    bindPieces resolve (ps ++ qs) = (do
      let (text, values) ← bindPieces resolve ps
      let (text', values') ← bindPieces resolve qs
      .ok (text ++ text', values ++ values')) := by
  rw [bindPieces_eq_mapM, bindPieces_eq_mapM, bindPieces_eq_mapM, List.filterMap_append,
    List.mapM_append, List.map_append]
  cases (ps.filterMap Piece.name?).mapM resolve with
  | error e => rfl
  | ok values => cases (qs.filterMap Piece.name?).mapM resolve <;> rfl

theorem bindPieces_text (text : List Char) :
    bindPieces resolve (text.map .char) = .ok (text, []) := by
  rw [bindPieces_eq_ok, List.map_map, List.filterMap_map]
  exact ⟨(List.map_id text).symm, by simp [Function.comp_def, Piece.name?]⟩

/-- A literal is copied, and what is around it is bound as if it stood alone. -/
theorem bind_literal {front : List Char} (h : Outside front) (content back : List Char) :
    bind resolve (front ++ literal content ++ back) = (do
      let (text, values) ← bind resolve front
      let (text', values') ← bind resolve back
      .ok (text ++ literal content ++ text', values ++ values')) := by
  rw [bind, pieces_literal h, bindPieces_append, bindPieces_append, bindPieces_text, bind, bind]
  cases bindPieces resolve (pieces front) with
  | error e => rfl
  | ok bound =>
      cases bindPieces resolve (pieces back) with
      | error e => rfl
      | ok bound' => simp

/-- Every filter is cut exactly at its names, whatever their values are. Binding has a placeholder
for every name and the values of all names, or it fails with the first name that has no value. A
literal in the filter is copied. -/
theorem bind_replaces_names (filter : List Char) :
    ∃ k : Cut, k.source = filter ∧ k.Exact [] ∧
      ∀ (ε : Type) (resolve : String → Except ε Value),
        ((∃ values, k.names.map resolve = values.map .ok ∧
            bind resolve filter = .ok (k.bound, values)) ∨
          ∃ front name back e, k.names = front ++ name :: back ∧
            (∀ earlier ∈ front, ∃ value, resolve earlier = .ok value) ∧
            resolve name = .error e ∧ bind resolve filter = .error e) ∧
        ∀ front content back, filter = front ++ literal content ++ back → Outside front →
          bind resolve filter = (do
            let (text, values) ← bind resolve front
            let (text', values') ← bind resolve back
            .ok (text ++ literal content ++ text', values ++ values')) := by
  obtain ⟨hsource, hexact⟩ := Cut.exact_ofPieces [] filter
  simp only [outside_nil, decide_true, Bool.not_true] at hsource hexact
  refine ⟨Cut.ofPieces (pieces filter), hsource, hexact, ?_⟩
  intro ε resolve
  constructor
  · rw [Cut.bound_ofPieces, Cut.names_ofPieces]
    cases hbind : bind resolve filter with
    | ok bound =>
        obtain ⟨text, values⟩ := bound
        obtain ⟨rfl, hvalues⟩ := bindPieces_eq_ok.mp hbind
        exact .inl ⟨values, hvalues, rfl⟩
    | error e =>
        rw [bind, bindPieces_eq_mapM, except_map_eq_error, except_mapM_eq_error] at hbind
        obtain ⟨front, name, back, hnames, hfront, hname⟩ := hbind
        exact .inr ⟨front, name, back, e, hnames, hfront, hname, rfl⟩
  · rintro front content back rfl houtside
    exact bind_literal resolve houtside content back

/-- A colon in a literal begins no name, also behind a quote that is written twice. -/
theorem bind_note_and_tenant :
    "x.note = 'it''s :late' AND x.tenant = :tenant".toList =
        "x.note = ".toList ++ literal "it's :late".toList ++ " AND x.tenant = :tenant".toList ∧
      Outside "x.note = ".toList ∧
      bind (fun name => if name = "tenant" then .ok (.string "north") else .error name)
          "x.note = 'it''s :late' AND x.tenant = :tenant".toList =
        .ok ("x.note = 'it''s :late' AND x.tenant = ?".toList, [.string "north"]) := by
  have hfilter : "x.note = 'it''s :late' AND x.tenant = :tenant".toList =
      "x.note = ".toList ++ literal "it's :late".toList ++ " AND x.tenant = :tenant".toList := by
    decide
  have houtside : Outside "x.note = ".toList := by decide
  obtain ⟨_, -, -, h⟩ := bind_replaces_names "x.note = 'it''s :late' AND x.tenant = :tenant".toList
  refine ⟨hfilter, houtside, ?_⟩
  rw [(h _ _).2 _ _ _ hfilter houtside]
  decide +kernel

end GuardedQuery.Placeholder
