/-! # Positions in encoded text

Positions are counted in bytes of the UTF-8 encoding. An insertion succeeds exactly at the positions
between two characters and at the two ends. -/

namespace GuardedQuery.Text

/-- The number of bytes that encode a text. -/
def byteLength : List Char → Nat
  | [] => 0
  | c :: cs => c.utf8Size + byteLength cs

@[simp]
theorem byteLength_append (cs ds : List Char) :
    byteLength (cs ++ ds) = byteLength cs + byteLength ds := by
  induction cs with
  | nil => simp [byteLength]
  | cons c cs ih => simp [byteLength, ih, Nat.add_assoc]

/-- Insert `piece` after the first `offset` bytes; `none` if no character ends there. -/
def insertAt (offset : Nat) (piece : List Char) : List Char → Option (List Char)
  | [] => if offset = 0 then some piece else none
  | c :: cs =>
    if offset = 0 then some (piece ++ c :: cs)
    else if c.utf8Size ≤ offset then (insertAt (offset - c.utf8Size) piece cs).map (c :: ·)
    else none

/-- An insertion at the end of a prefix puts the piece between the prefix and the rest. -/
theorem insertAt_byteLength (before after piece : List Char) :
    insertAt (byteLength before) piece (before ++ after) = some (before ++ piece ++ after) := by
  induction before with
  | nil => cases after <;> simp [insertAt, byteLength]
  | cons c cs ih =>
      have h : c.utf8Size ≠ 0 := Nat.pos_iff_ne_zero.mp c.utf8Size_pos
      simp [insertAt, byteLength, h, ih]

end GuardedQuery.Text
