import GuardedQuery.Proofs.Query.Binding

/-! # Texts that remember values

A text with placeholders, in which every placeholder holds the value it was written for. Such texts
are written, cut and bound like texts without values, and the values do not get in the way. -/

namespace GuardedQuery

/-- A character of a text that remembers its values: one of the text itself, or the placeholder of a
value. -/
inductive Glyph
  | char (c : Char)
  | slot (value : Value)
  deriving DecidableEq

namespace Glyph

def shown : Glyph → Char
  | .char c => c
  | .slot _ => '?'

def value? : Glyph → Option Value
  | .char _ => none
  | .slot value => some value

/-- A text that holds no values. -/
def plain (cs : List Char) : List Glyph :=
  cs.map .char

/-- The text without the values. -/
def text (gs : List Glyph) : List Char :=
  gs.map shown

def values (gs : List Glyph) : List Value :=
  gs.filterMap value?

/-- The query with this text and these values. -/
def query (gs : List Glyph) : CompiledQuery :=
  ⟨String.ofList (text gs), values gs⟩

@[simp] theorem text_nil : text [] = [] := rfl

@[simp] theorem text_cons (g : Glyph) (gs : List Glyph) : text (g :: gs) = g.shown :: text gs := rfl

@[simp] theorem values_nil : values [] = [] := rfl

@[simp] theorem values_char_cons (c : Char) (gs : List Glyph) :
    values (.char c :: gs) = values gs := rfl

@[simp] theorem values_slot_cons (value : Value) (gs : List Glyph) :
    values (.slot value :: gs) = value :: values gs := rfl

@[simp] theorem text_append (gs hs : List Glyph) : text (gs ++ hs) = text gs ++ text hs :=
  List.map_append

@[simp] theorem values_append (gs hs : List Glyph) : values (gs ++ hs) = values gs ++ values hs :=
  List.filterMap_append

@[simp] theorem text_plain (cs : List Char) : text (plain cs) = cs := by
  simp [text, plain, Function.comp_def, shown]

@[simp] theorem values_plain (cs : List Char) : values (plain cs) = [] := by
  simp [values, plain, value?]

theorem char_mem_plain {c : Char} {cs : List Char} : .char c ∈ plain cs ↔ c ∈ cs := by
  simp [plain]

/-- Where every `?` is a placeholder, the placeholders are the values in order. -/
theorem filter_shown_eq {gs : List Glyph} (h : .char '?' ∉ gs) :
    gs.filter (·.shown = '?') = (values gs).map .slot := by
  induction gs with
  | nil => rfl
  | cons g gs ih =>
      rw [List.mem_cons, not_or] at h
      cases g with
      | char c =>
          have hc : c ≠ '?' := fun hc => h.1 (by rw [hc])
          rw [List.filter_cons_of_neg (by simp [shown, hc]), ih h.2, values_char_cons]
      | slot value =>
          rw [List.filter_cons_of_pos (by simp [shown]), ih h.2, values_slot_cons, List.map_cons]

/-! ## Pieces of a text -/

/-- Give the placeholders of a literal its values, from left to right. -/
def fill : List Char → List Value → List Glyph
  | cs, [] => plain cs
  | [], _ => []
  | c :: cs, value :: values =>
    if c = '?' then .slot value :: fill cs values else .char c :: fill cs (value :: values)

theorem text_fill (cs : List Char) (vs : List Value) : text (fill cs vs) = cs := by
  fun_induction fill cs vs with
  | case1 cs => exact text_plain cs
  | case2 vs => rfl
  | case3 cs value vs ih => rw [text_cons, ih, shown]
  | case4 c cs value vs hc ih => rw [text_cons, ih, shown]

/-- Values that find a placeholder are kept. -/
theorem values_fill {cs : List Char} {vs : List Value} (h : vs.length ≤ cs.count '?') :
    values (fill cs vs) = vs := by
  fun_induction fill cs vs with
  | case1 cs => exact values_plain cs
  | case2 vs => simp_all
  | case3 cs value vs ih =>
      rw [List.count_cons_self, List.length_cons, Nat.add_le_add_iff_right] at h
      rw [values_slot_cons, ih h]
  | case4 c cs value vs hc ih =>
      rw [List.count_cons_of_ne hc] at h
      rw [values_char_cons, ih h]

theorem mark_notMem_fill {cs : List Char} {vs : List Value} (h : cs.count '?' ≤ vs.length) :
    .char '?' ∉ fill cs vs := by
  fun_induction fill cs vs with
  | case1 cs =>
      rw [char_mem_plain]
      exact List.count_eq_zero.mp (Nat.le_zero.mp h)
  | case2 vs => exact List.not_mem_nil
  | case3 cs value vs ih =>
      rw [List.count_cons_self, List.length_cons, Nat.add_le_add_iff_right] at h
      simpa using ih h
  | case4 c cs value vs hc ih =>
      rw [List.count_cons_of_ne hc] at h
      simpa [Ne.symm hc] using ih h

/-- Insert `piece` after so many bytes of the text; `none` if no character ends there. -/
def insertAt (offset : Nat) (piece : List Glyph) : List Glyph → Option (List Glyph)
  | [] => if offset = 0 then some piece else none
  | g :: gs =>
    if offset = 0 then some (piece ++ g :: gs)
    else if g.shown.utf8Size ≤ offset then
      (insertAt (offset - g.shown.utf8Size) piece gs).map (g :: ·)
    else none

theorem map_text_insertAt (offset : Nat) (piece gs : List Glyph) :
    (insertAt offset piece gs).map text = Text.insertAt offset (text piece) (text gs) := by
  induction gs generalizing offset with
  | nil =>
      rw [insertAt, text_nil, Text.insertAt]
      split <;> rfl
  | cons g gs ih =>
      rw [insertAt, text_cons, Text.insertAt, ← ih]
      split
      · simp
      · split
        · simp [Function.comp_def]
        · rfl

/-- An insertion keeps what is on its two sides. -/
theorem exists_of_insertAt {offset : Nat} {piece gs hs : List Glyph}
    (h : insertAt offset piece gs = some hs) :
    ∃ front rest, gs = front ++ rest ∧ hs = front ++ piece ++ rest := by
  induction gs generalizing offset hs with
  | nil =>
      rw [insertAt] at h
      split at h
      · exact ⟨[], [], rfl, by simpa using h.symm⟩
      · cases h
  | cons g gs ih =>
      rw [insertAt] at h
      split at h
      · exact ⟨[], g :: gs, rfl, (Option.some.inj h).symm⟩
      · split at h
        · obtain ⟨rest, hrest, rfl⟩ := Option.map_eq_some_iff.mp h
          obtain ⟨front, rest, rfl, rfl⟩ := ih hrest
          exact ⟨g :: front, rest, rfl, rfl⟩
        · cases h

/-- The pieces of a filter, with the values of its names. -/
def ofPieces {ε : Type} (resolve : String → Except ε Value) :
    List Placeholder.Piece → Except ε (List Glyph)
  | [] => .ok []
  | .char c :: rest => do
    let gs ← ofPieces resolve rest
    .ok (.char c :: gs)
  | .name chars :: rest => do
    let value ← resolve (String.ofList chars)
    let gs ← ofPieces resolve rest
    .ok (.slot value :: gs)

theorem bindPieces_eq {ε : Type} (resolve : String → Except ε Value)
    (ps : List Placeholder.Piece) :
    Placeholder.bindPieces resolve ps =
      (ofPieces resolve ps).map fun gs => (text gs, values gs) := by
  induction ps with
  | nil => rfl
  | cons p ps ih =>
      cases p with
      | char c =>
          rw [Placeholder.bindPieces, ofPieces, ih]
          cases ofPieces resolve ps <;> rfl
      | name chars =>
          rw [Placeholder.bindPieces, ofPieces, ih]
          cases resolve (String.ofList chars) with
          | error e => rfl
          | ok value => cases ofPieces resolve ps <;> rfl

theorem char_mem_of_ofPieces {ε : Type} {resolve : String → Except ε Value}
    {ps : List Placeholder.Piece} {gs : List Glyph} (h : ofPieces resolve ps = .ok gs) {c : Char}
    (hc : .char c ∈ gs) : .char c ∈ ps := by
  induction ps generalizing gs with
  | nil =>
      cases h
      simp at hc
  | cons p ps ih =>
      cases p with
      | char d =>
          obtain ⟨rest, hrest, ⟨⟩⟩ := except_bind_eq_ok.mp h
          rcases List.mem_cons.mp hc with hd | hc
          · cases hd
            exact List.mem_cons_self
          · exact List.mem_cons_of_mem _ (ih hrest hc)
      | name chars =>
          obtain ⟨value, -, h⟩ := except_bind_eq_ok.mp h
          obtain ⟨rest, hrest, ⟨⟩⟩ := except_bind_eq_ok.mp h
          rcases List.mem_cons.mp hc with hd | hc
          · cases hd
          · exact List.mem_cons_of_mem _ (ih hrest hc)

end Glyph

end GuardedQuery
