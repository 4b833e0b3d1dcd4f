import GuardedQuery.Proofs.Condition.Leaves

/-! # Conditions of the store

How the text of a condition is read: it is cut into words, words are put together to comparisons,
and what comes out is read as a condition. The filter of an entity can be taken as one word,
whatever its text is. -/

namespace GuardedQuery

/-- The placeholders of a comparison: one, or a list of them in parentheses. -/
inductive Places
  | one
  | list (count : Nat)
  deriving DecidableEq

/-- A leaf of a condition of the store. -/
inductive Clause
  | comparison (path symbol : String) (places : Places)
  | filter
  deriving DecidableEq

/-- A mark of a text: a character, or the whole filter. -/
inductive Mark
  | char (c : Char)
  | filter
  deriving DecidableEq

/-- A text without a filter. -/
def Mark.ofText (cs : List Char) : List Mark :=
  cs.map .char

namespace Mark

variable (bound : List Char)

/-- The text of marks, in which the filter has the text `bound`. -/
def text (ms : List Mark) : List Char :=
  ms.flatMap fun
    | .char c => [c]
    | .filter => bound

@[simp] theorem text_nil : text bound [] = [] := rfl

@[simp] theorem text_char_cons (c : Char) (ms : List Mark) :
    text bound (.char c :: ms) = c :: text bound ms := rfl

@[simp] theorem text_filter_cons (ms : List Mark) :
    text bound (.filter :: ms) = bound ++ text bound ms := rfl

@[simp] theorem text_append (ms ns : List Mark) :
    text bound (ms ++ ns) = text bound ms ++ text bound ns :=
  List.flatMap_append

@[simp] theorem text_ofText (cs : List Char) : text bound (ofText cs) = cs := by
  induction cs with
  | nil => rfl
  | cons c cs ih => exact congrArg (c :: ·) ih

theorem filter_notMem_ofText (cs : List Char) : .filter ∉ ofText cs := by
  simp [ofText]

/-- Marks without a filter are their text. -/
theorem ofText_text {ms : List Mark} (h : .filter ∉ ms) : ofText (text bound ms) = ms := by
  induction ms with
  | nil => rfl
  | cons m ms ih =>
      cases m with
      | char c =>
          have hms : .filter ∉ ms := fun hmem => h (List.mem_cons_of_mem _ hmem)
          exact congrArg (.char c :: ·) (ih hms)
      | filter => exact absurd List.mem_cons_self h

end Mark

/-! ## Words -/

/-- A word of a condition. -/
inductive Word
  | name (name : String)
  | opening
  | closing
  | comma
  | place
  | filter
  deriving DecidableEq

namespace Word

/-- The characters that are words by themselves. -/
def ofChar? : Char → Option Word
  | '(' => some .opening
  | ')' => some .closing
  | ',' => some .comma
  | '?' => some .place
  | _ => none

/-- A character that can be part of a name. -/
def inName (c : Char) : Bool :=
  (ofChar? c).isNone && !c.isWhitespace

/-- The name that ends where no character continues it. -/
def ofRun (run : List Char) : List Word :=
  if run.isEmpty then [] else [.name (String.ofList run)]

/-- The words of marks that follow the beginning of a name. -/
def wordsFrom : List Char → List Mark → List Word
  | run, [] => ofRun run
  | run, .filter :: ms => ofRun run ++ .filter :: wordsFrom [] ms
  | run, .char c :: ms =>
    if inName c then wordsFrom (run ++ [c]) ms
    else ofRun run ++ (ofChar? c).toList ++ wordsFrom [] ms

/-- The words of marks. -/
def ofMarks (ms : List Mark) : List Word :=
  wordsFrom [] ms

end Word

/-! ## Comparisons -/

/-- What has been read of a comparison. -/
inductive Pending
  | nothing
  | path (path : String)
  | operator (path symbol : String)
  /-- A list of placeholders that goes on with the next one. -/
  | list (path symbol : String) (count : Nat)
  /-- A list of placeholders that may end. -/
  | item (path symbol : String) (count : Nat)

namespace Lexeme

/-- The lexemes of words that follow the beginning of a comparison. A name is a separator, or else
begins a comparison. -/
def ofWordsFrom? : Pending → List Word → Option (List (Lexeme Clause))
  | .nothing, [] => some []
  | .nothing, .opening :: ws => (ofWordsFrom? .nothing ws).map (.opening :: ·)
  | .nothing, .closing :: ws => (ofWordsFrom? .nothing ws).map (.closing :: ·)
  | .nothing, .filter :: ws => (ofWordsFrom? .nothing ws).map (.leaf .filter :: ·)
  | .nothing, .name name :: ws =>
    match Separator.all.find? (·.keyword = name) with
    | some s => (ofWordsFrom? .nothing ws).map (.separator s :: ·)
    | none => ofWordsFrom? (.path name) ws
  | .path path, .name name :: ws =>
    if Operator.all.any (·.symbol = name) then ofWordsFrom? (.operator path name) ws else none
  | .operator path symbol, .place :: ws =>
    (ofWordsFrom? .nothing ws).map (.leaf (.comparison path symbol .one) :: ·)
  | .operator path symbol, .opening :: ws => ofWordsFrom? (.list path symbol 0) ws
  | .list path symbol count, .place :: ws => ofWordsFrom? (.item path symbol (count + 1)) ws
  | .item path symbol count, .comma :: ws => ofWordsFrom? (.list path symbol count) ws
  | .item path symbol count, .closing :: ws =>
    (ofWordsFrom? .nothing ws).map (.leaf (.comparison path symbol (.list count)) :: ·)
  | _, _ => none

end Lexeme

/-- The condition that marks are read as. -/
def Condition.ofMarks? (ms : List Mark) : Option (Condition Clause) :=
  (Lexeme.ofWordsFrom? .nothing (Word.ofMarks ms)).bind read?

/-! ## Written lexemes are read back -/

namespace Word

/-- A text in which nothing ends a name. -/
def IsName (cs : List Char) : Prop :=
  ∀ c ∈ cs, inName c = true

/-- A blank ends the words before it. -/
theorem wordsFrom_blank (run : List Char) (ms rest : List Mark) :
    wordsFrom run (ms ++ .char ' ' :: rest) = wordsFrom run ms ++ ofMarks rest := by
  induction ms generalizing run with
  | nil =>
      have hblank : inName ' ' = false := by decide
      simp [wordsFrom, hblank, ofChar?, ofMarks]
  | cons m ms ih =>
      cases m with
      | filter => simp [wordsFrom, ih]
      | char c =>
          by_cases hc : inName c
          · simp [wordsFrom, hc, ih]
          · simp [wordsFrom, hc, ih]

/-- A text in pieces with a blank before each has the words of its pieces. -/
theorem ofMarks_pieces (pieces : List (List Mark)) :
    ofMarks (pieces.flatMap (.char ' ' :: ·)) = pieces.flatMap ofMarks := by
  -- the words before the first blank are arbitrary
  have hfrom : ∀ ms, ofMarks (ms ++ pieces.flatMap (.char ' ' :: ·)) =
      ofMarks ms ++ pieces.flatMap ofMarks := by
    induction pieces with
    | nil => simp
    | cons piece pieces ih =>
        intro ms
        rw [List.flatMap_cons, List.flatMap_cons, List.cons_append, ofMarks, wordsFrom_blank, ih]
        rfl
  exact hfrom []

/-- A text in which nothing ends a name is one name. -/
theorem ofMarks_name {cs : List Char} (h : IsName cs) (hne : cs ≠ []) :
    ofMarks (Mark.ofText cs) = [.name (String.ofList cs)] := by
  have hfrom : ∀ run, wordsFrom run (Mark.ofText cs) = ofRun (run ++ cs) := by
    clear hne
    induction cs with
    | nil =>
        intro run
        rw [List.append_nil]
        rfl
    | cons c cs ih =>
        obtain ⟨hc, hcs⟩ := List.forall_mem_cons.mp h
        intro run
        have hrest := ih hcs (run ++ [c])
        rw [List.append_assoc, List.singleton_append] at hrest
        rw [Mark.ofText, List.map_cons, wordsFrom, if_pos hc, ← hrest]
        rfl
  rw [ofMarks, hfrom, ofRun]
  simp [hne]

/-- The words of a text without names are its characters. -/
theorem ofMarks_punctuation {cs : List Char} (h : ∀ c ∈ cs, (ofChar? c).isSome) :
    ofMarks (Mark.ofText cs) = cs.filterMap ofChar? := by
  induction cs with
  | nil => rfl
  | cons c cs ih =>
      obtain ⟨hc, hcs⟩ := List.forall_mem_cons.mp h
      obtain ⟨w, hw⟩ := Option.isSome_iff_exists.mp hc
      have hname : inName c = false := by simp [inName, hw]
      have hrest := ih hcs
      rw [Mark.ofText, ofMarks] at hrest
      rw [Mark.ofText, ofMarks, List.map_cons, wordsFrom, hname, List.filterMap_cons, hw, hrest]
      rfl

end Word

namespace Places

/-- Placeholders with commas between them. -/
def items (count : Nat) : List Char :=
  [','].intercalate (List.replicate count ['?'])

/-- The text of placeholders. -/
def chars : Places → List Char
  | .one => ['?']
  | .list count => '(' :: (items count ++ [')'])

theorem items_succ_succ (n : Nat) : items (n + 2) = '?' :: ',' :: items (n + 1) := by
  rw [items, List.replicate_succ, List.replicate_succ, List.intercalate_cons_cons]
  rfl

theorem mem_items {n : Nat} {c : Char} (h : c ∈ items n) : c = '?' ∨ c = ',' := by
  match n with
  | 0 => cases h
  | 1 => exact .inl (List.mem_singleton.mp h)
  | n + 2 =>
      rw [items_succ_succ] at h
      rcases List.mem_cons.mp h with hc | h
      · exact .inl hc
      · rcases List.mem_cons.mp h with hc | h
        · exact .inr hc
        · exact mem_items h

theorem punctuation_of_mem_chars {places : Places} {c : Char} (h : c ∈ places.chars) :
    (Word.ofChar? c).isSome := by
  have hcases : c = '?' ∨ c = ',' ∨ c = '(' ∨ c = ')' := by
    cases places with
    | one => exact .inl (List.mem_singleton.mp h)
    | list count =>
        simp only [chars, List.mem_cons, List.mem_append, List.not_mem_nil, or_false] at h
        rcases h with hc | h | hc
        · exact .inr (.inr (.inl hc))
        · rcases mem_items h with hc | hc
          · exact .inl hc
          · exact .inr (.inl hc)
        · exact .inr (.inr (.inr hc))
  rcases hcases with rfl | rfl | rfl | rfl <;> rfl

end Places

/-- The pieces of a clause, which are written with a blank before each. -/
def Clause.pieces : Clause → List (List Mark)
  | .comparison path symbol places =>
    [Mark.ofText path.toList, Mark.ofText symbol.toList, Mark.ofText places.chars]
  | .filter => [[.filter]]

/-- A clause that can be told from what stands around it. The dot keeps paths and keywords apart. -/
inductive Clause.Readable : Clause → Prop
  | comparison {path : String} (hname : Word.IsName path.toList) (hdot : '.' ∈ path.toList)
      (operator : Operator) {places : Places} (hplaces : places ≠ .list 0) :
      Readable (.comparison path operator.symbol places)
  | filter : Readable .filter

namespace Lexeme

def pieces : Lexeme Clause → List (List Mark)
  | .opening => [Mark.ofText ['(']]
  | .closing => [Mark.ofText [')']]
  | .separator s => [Mark.ofText s.keyword.toList]
  | .leaf k => k.pieces

/-- The text of lexemes. -/
def marks (L : List (Lexeme Clause)) : List Mark :=
  (L.flatMap pieces).flatMap (.char ' ' :: ·)

theorem marks_cons (l : Lexeme Clause) (L : List (Lexeme Clause)) :
    marks (l :: L) = l.pieces.flatMap (.char ' ' :: ·) ++ marks L := by
  rw [marks, List.flatMap_cons, List.flatMap_append]
  rfl

theorem marks_append (K L : List (Lexeme Clause)) : marks (K ++ L) = marks K ++ marks L := by
  rw [marks, List.flatMap_append, List.flatMap_append]
  rfl

theorem filter_notMem_marks {L : List (Lexeme Clause)} (h : .filter ∉ leaves L) :
    .filter ∉ marks L := by
  induction L with
  | nil => simp [marks]
  | cons l L ih =>
      rw [marks_cons, List.mem_append, not_or]
      cases l with
      | leaf k =>
          rw [leaves_leaf, List.mem_cons, not_or] at h
          cases k with
          | comparison path symbol places =>
              refine ⟨?_, ih h.2⟩
              simp [pieces, Clause.pieces, Mark.filter_notMem_ofText]
          | filter => exact absurd rfl h.1
      | _ =>
          refine ⟨?_, ih h⟩
          simp [pieces, Mark.filter_notMem_ofText]

/-- A list of placeholders is counted to its end. -/
theorem ofWordsFrom?_items (path symbol : String) (count n : Nat) (ws : List Word) :
    ofWordsFrom? (.list path symbol count)
        ((Places.items (n + 1)).filterMap Word.ofChar? ++ .closing :: ws) =
      (ofWordsFrom? .nothing ws).map
        (.leaf (.comparison path symbol (.list (count + (n + 1)))) :: ·) := by
  induction n generalizing count with
  | zero => rfl
  | succ n ih =>
      have hrest := ih (count + 1)
      rw [Nat.add_right_comm, Nat.add_assoc] at hrest
      rw [Places.items_succ_succ]
      exact hrest

theorem ofWordsFrom?_places (path symbol : String) {places : Places} (h : places ≠ .list 0)
    (ws : List Word) :
    ofWordsFrom? (.operator path symbol) (places.chars.filterMap Word.ofChar? ++ ws) =
      (ofWordsFrom? .nothing ws).map (.leaf (.comparison path symbol places) :: ·) := by
  match places with
  | .one => rfl
  | .list 0 => exact absurd rfl h
  | .list (n + 1) =>
      have hitems := ofWordsFrom?_items path symbol 0 n ws
      rw [Nat.zero_add] at hitems
      simpa [Places.chars, Word.ofChar?, ofWordsFrom?] using hitems

/-- The words of a comparison are read as this comparison. -/
theorem ofWordsFrom?_comparison {path : String} (hname : Word.IsName path.toList)
    (hdot : '.' ∈ path.toList) (operator : Operator) {places : Places}
    (hplaces : places ≠ .list 0) (ws : List Word) :
    ofWordsFrom? .nothing
        ((Clause.comparison path operator.symbol places).pieces.flatMap Word.ofMarks ++ ws) =
      (ofWordsFrom? .nothing ws).map
        (.leaf (.comparison path operator.symbol places) :: ·) := by
  have hpath : Word.ofMarks (Mark.ofText path.toList) = [.name path] := by
    rw [Word.ofMarks_name hname (List.ne_nil_of_mem hdot), String.ofList_toList]
  have hsymbol : Word.ofMarks (Mark.ofText operator.symbol.toList) = [.name operator.symbol] := by
    cases operator <;> decide +kernel
  have hplaceWords : Word.ofMarks (Mark.ofText places.chars) =
      places.chars.filterMap Word.ofChar? :=
    Word.ofMarks_punctuation fun _ => Places.punctuation_of_mem_chars
  have hkeyword : Separator.all.find? (·.keyword = path) = none := by
    have hno : ∀ s : Separator, '.' ∉ s.keyword.toList := by
      intro s
      cases s <;> decide
    rw [List.find?_eq_none]
    intro s _ hs
    simp only [decide_eq_true_eq] at hs
    subst hs
    exact hno s hdot
  have hany : Operator.all.any (·.symbol = operator.symbol) = true := by
    cases operator <;> decide +kernel
  simp only [Clause.pieces, List.flatMap_cons, List.flatMap_nil, List.append_nil, hpath, hsymbol,
    hplaceWords, List.cons_append, List.nil_append]
  rw [ofWordsFrom?, hkeyword]
  simp only
  rw [ofWordsFrom?, if_pos hany]
  exact ofWordsFrom?_places path operator.symbol hplaces ws

/-- The words of a lexeme are read as this lexeme. -/
theorem ofWordsFrom?_pieces {l : Lexeme Clause} (h : ∀ k ∈ leaves [l], k.Readable)
    (ws : List Word) :
    ofWordsFrom? .nothing (l.pieces.flatMap Word.ofMarks ++ ws) =
      (ofWordsFrom? .nothing ws).map (l :: ·) := by
  cases l with
  | opening => rfl
  | closing => rfl
  | separator s =>
      have hkeyword : Word.ofMarks (Mark.ofText s.keyword.toList) = [.name s.keyword] := by
        cases s <;> decide +kernel
      have hfind : Separator.all.find? (·.keyword = s.keyword) = some s := by
        cases s <;> decide
      simp only [pieces, List.flatMap_cons, List.flatMap_nil, List.append_nil, hkeyword,
        List.singleton_append]
      rw [ofWordsFrom?, hfind]
  | leaf k =>
      cases h k (List.mem_singleton_self k) with
      | comparison hname hdot operator hplaces =>
          exact ofWordsFrom?_comparison hname hdot operator hplaces ws
      | filter => rfl

/-- Readable lexemes are read back from their text. -/
theorem ofWordsFrom?_marks {L : List (Lexeme Clause)} (h : ∀ k ∈ leaves L, k.Readable) :
    ofWordsFrom? .nothing (Word.ofMarks (marks L)) = some L := by
  rw [marks, Word.ofMarks_pieces]
  induction L with
  | nil => rfl
  | cons l L ih =>
      have hleaves : leaves (l :: L) = leaves [l] ++ leaves L := leaves_append [l] L
      rw [hleaves] at h
      have hl : ∀ k ∈ leaves [l], k.Readable := fun k hk => h k (List.mem_append_left _ hk)
      have hL : ∀ k ∈ leaves L, k.Readable := fun k hk => h k (List.mem_append_right _ hk)
      rw [List.flatMap_cons, List.flatMap_append, ofWordsFrom?_pieces hl, ih hL]
      rfl

end Lexeme

/-- The text of a written condition is read as this condition. -/
theorem Condition.ofMarks?_marks {L : List (Lexeme Clause)} {t : Condition Clause}
    (h : ∀ k ∈ t.leaves, k.Readable) (ht : Written .whole L t) :
    ofMarks? (Lexeme.marks L) = some t := by
  rw [← ht.leaves_eq] at h
  rw [ofMarks?, Lexeme.ofWordsFrom?_marks h]
  exact read?_eq_some.mpr ht

end GuardedQuery
