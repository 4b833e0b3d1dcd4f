import GuardedQuery.Text.Emoji
import GuardedQuery.Text.Joining

/-! # The width of a text

How many columns a line of text takes on a terminal. A character may be written as one with those
after it, so a text is measured from its last character to its first, and what is known of the part
already measured is the shape of its front and the variation selector before it. -/

namespace GuardedQuery.Text

/-- What a text starts with, as far as a character before it can join it. For letters, `joined` says
that a joiner stands before them. -/
inductive Shape
  | plain
  | alef
  | lamed (joined : Bool)
  | buginese (joined : Bool)
  | bugineseVowel
  | coengLetter
  | tifinagh (joined : Bool)
  | tifinaghJoined
  | secondTone
  | turkic (joined : Bool)
  | vowelE
  | vowelAI
  | modifier
  | flagLetter
  | flagLetters
  | emoji
  | joinedEmoji
  | joinedKeycap
  | joinedFlags (even : Bool)
  | tags (letters digits : Nat)
  deriving DecidableEq

/-- How the character before it is to be shown, as a variation selector asks for. -/
inductive Selector
  | emoji
  | symbol
  | wide
  deriving DecidableEq

/-- The front of a text: its shape and the selector before it. -/
structure Front where
  shape : Shape
  selector : Option Selector
  deriving DecidableEq

/-- A width, which is negative for what goes into a column already counted, and the front of the text
with the character added. -/
abbrev Step := Int × Front

namespace Shape

/-- The shape that a character has when it joins nothing. -/
def ofChar (c : Char) : Shape :=
  if isModifier c then .modifier
  else if isFlagLetter c then .flagLetter
  else if emojiByDefault.contains c then .emoji
  else if alefs.contains c then .alef
  else if c.toNat = 0x5DC then .lamed false
  else if c.toNat = 0x1A10 then .buginese false
  else if coengLetters.contains c then .coengLetter
  else if tifinaghConsonants.contains c then .tifinagh false
  else if isSecondTone c then .secondTone
  else if c.toNat = 0x10C03 then .turkic false
  else if c.toNat = 0x16D67 then .vowelE
  else if c.toNat = 0x16D68 then .vowelAI
  else .plain

/-- The letters that join across the signs of `ignoredInside`. -/
def isOpen : Shape → Bool
  | .lamed _ | .buginese _ | .bugineseVowel | .coengLetter | .tifinagh _ | .tifinaghJoined
  | .secondTone | .turkic _ => true
  | _ => false

/-- The shape after a joiner. -/
def afterJoiner : Shape → Shape
  | .lamed _ => .lamed true
  | .buginese _ => .buginese true
  | .tifinagh _ => .tifinagh true
  | .turkic _ => .turkic true
  | shape => shape

/-- The shape behind a selector that has had no effect. -/
def behindSelector (shape : Shape) : Shape :=
  if shape.isOpen || shape = .alef then shape else .plain

/-- An emoji or the mark of a keycap, with a joiner and an emoji after it. -/
def isJoinedEmoji (shape : Shape) : Bool :=
  shape = .joinedEmoji || shape = .joinedKeycap

/-- The shape before which a selector stands. -/
def underSelector (shape : Shape) (selector : Selector) : Shape :=
  if selector = .emoji && shape.isJoinedEmoji then shape else shape.behindSelector

/-- The width and the shape of a character with a letter after it, if the two join. -/
def joinLetter (shape : Shape) (c : Char) : Option (Int × Shape) :=
  match shape with
  | .alef =>
    if lams.contains c then some (0, .plain)
    else if isTransparentMark c then some (0, .alef)
    else none
  | .lamed true => if c.toNat = 0x5D0 then some (0, .plain) else none
  | .buginese true => if c.toNat = 0x1A17 then some (0, .bugineseVowel) else none
  | .bugineseVowel => if c.toNat = 0x1A15 then some (0, .plain) else none
  | .coengLetter => if c.toNat = 0x17D2 then some (-1, .plain) else none
  | .tifinagh joined =>
    if c.toNat = 0x2D7F then some (1, .tifinaghJoined)
    else if joined && tifinaghConsonants.contains c then some (0, .plain)
    else none
  | .tifinaghJoined => if tifinaghConsonants.contains c then some (-1, .plain) else none
  | .secondTone => if isFirstTone c then some (0, .plain) else none
  | .turkic true => if c.toNat = 0x10C32 then some (0, .plain) else none
  | .vowelE =>
    if c.toNat = 0x16D63 || c.toNat = 0x16D69 then some (0, .plain)
    else if c.toNat = 0x16D67 then some (0, .vowelAI)
    else if c.toNat = 0x16D68 then some (1, .vowelE)
    else none
  | .vowelAI => if c.toNat = 0x16D63 then some (0, .plain) else none
  | _ => none

/-- The width and the shape of a character with tags after it, the last of which ends them. A region
is the flag with three to six letters, or with three digits before at most four letters. -/
def joinTags (letters digits : Nat) (c : Char) : Option (Int × Shape) :=
  if isTagLetter c then
    if digits = 0 && letters < 6 then some (0, .tags (letters + 1) 0) else none
  else if isTagDigit c then
    if digits = 0 && letters < 5 || 0 < digits && digits < 3 then
      some (0, .tags letters (digits + 1))
    else none
  else if isTagBase c then
    if digits = 0 && 3 ≤ letters || digits = 3 then some (0, .emoji) else none
  else none

/-- The width and the shape of a character with an emoji after it, if the two join. The letters of
flags before a joiner form pairs from the first one on: the last pair is joined and takes no column,
every other one takes two, and a letter left over takes one. -/
def joinEmoji (shape : Shape) (c : Char) : Option (Int × Shape) :=
  match shape with
  | .modifier =>
    if modifierBases.contains c then some (0, .emoji)
    else if isJoiner c then some (0, .joinedEmoji)
    else none
  | .flagLetter => if isFlagLetter c then some (1, .flagLetters) else none
  | .flagLetters =>
    if isFlagLetter c then some (1, .flagLetters)
    else if isJoiner c then some (0, .joinedEmoji)
    else none
  | .emoji => if isJoiner c then some (0, .joinedEmoji) else none
  | .joinedEmoji =>
    if c.toNat = 0x20E3 then some (0, .joinedKeycap)
    else if isFlagLetter c then some (1, .joinedFlags false)
    else if isModifier c then some (0, .modifier)
    else if c.toNat = 0xE007F then some (0, .tags 0 0)
    else if emojiByDefault.contains c then some (0, .emoji)
    else none
  | .joinedFlags false => if isFlagLetter c then some (-1, .joinedFlags true) else none
  | .joinedFlags true =>
    if isFlagLetter c then some (3, .joinedFlags false)
    else if isJoiner c then some (0, .joinedEmoji)
    else none
  | .tags letters digits => joinTags letters digits c
  | _ => none

/-- The width and the shape of a character with the shape after it. -/
def before (shape : Shape) (c : Char) : Int × Shape :=
  if shape.isOpen && isJoiner c then (0, shape.afterJoiner)
  else if shape.isOpen && ignoredInside.contains c then (0, shape)
  else ((shape.joinLetter c).or (shape.joinEmoji c)).getD (charWidth c, ofChar c)

end Shape

namespace Selector

/-- The selector that a character is. -/
def ofChar? (c : Char) : Option Selector :=
  if c.toNat = 0xFE0F then some .emoji
  else if c.toNat = 0xFE0E then some .symbol
  else if c.toNat = 0xFE01 then some .wide
  else none

/-- The width and the front of a character with a selector after it, if the selector is for such
characters. -/
def select? (selector : Selector) (shape : Shape) (c : Char) : Option Step :=
  match selector with
  | .emoji =>
    if emojiOnRequest.contains c then some (if shape.isJoinedEmoji then 0 else 2, ⟨.emoji, none⟩)
    else none
  | .symbol => if textOnRequest.contains c then some (1, ⟨.plain, none⟩) else none
  | .wide => if quotationMarks.contains c then some (2, ⟨.plain, none⟩) else none

end Selector

namespace Front

/-- The front of the empty text. -/
def empty : Front := ⟨.plain, none⟩

/-- The width and the front of a character that no selector after it changes. -/
def before (shape : Shape) (c : Char) : Step :=
  if c.toNat ≤ 0xA0 then (1, empty)
  else
    match Selector.ofChar? c with
    | some selector => (0, ⟨shape.underSelector selector, some selector⟩)
    | none =>
      let (width, shape) := shape.before c
      (width, ⟨shape, none⟩)

/-- The width and the front of a character with a front after it. -/
def step (front : Front) (c : Char) : Step :=
  match front.selector with
  | none => before front.shape c
  | some selector =>
    (selector.select? front.shape c).getD (before front.shape.behindSelector c)

end Front

/-- The columns and the front of a text. -/
def measure (cs : List Char) : Step :=
  cs.foldr (fun c (columns, front) =>
    let (width, front) := front.step c
    (columns + width, front)) (0, .empty)

/-- The columns of a line of text. -/
def width (s : String) : Nat :=
  (measure s.toList).1.toNat

end GuardedQuery.Text
