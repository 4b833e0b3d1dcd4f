import GuardedQuery.Number.Digits

/-! # Integers between two bounds

Reading goes from left to right and stops at the first digit that leads out of the bounds, so a
character that is no digit is reported only if the number before it fits. -/

namespace GuardedQuery

/-- The ways a text fails to be an integer between two bounds. -/
inductive IntegerError
  | empty
  | invalidDigit
  | tooLarge
  | tooSmall
  deriving DecidableEq, Repr

namespace IntegerError

def message : IntegerError → String
  | .empty => "cannot parse integer from empty string"
  | .invalidDigit => "invalid digit found in string"
  | .tooLarge => "number too large to fit in target type"
  | .tooSmall => "number too small to fit in target type"

end IntegerError

namespace Integer

/-- The least integer of a signed width in bits. -/
def least (bits : Nat) : Int :=
  -(Nat.pow 2 (bits - 1) : Int)

/-- The greatest integer of a signed width in bits. -/
def greatest (bits : Nat) : Int :=
  (Nat.pow 2 (bits - 1) : Int) - 1

/-- Continue a number that is not negative. -/
def readUp (greatest : Int) : Int → List Char → Except IntegerError Int
  | value, [] => .ok value
  | value, c :: cs =>
    match Digit.ofChar? c with
    | none => .error .invalidDigit
    | some d =>
      let next := value * 10 + d.val
      if greatest < next then .error .tooLarge else readUp greatest next cs

/-- Continue a number after a minus sign. -/
def readDown (least : Int) : Int → List Char → Except IntegerError Int
  | value, [] => .ok value
  | value, c :: cs =>
    match Digit.ofChar? c with
    | none => .error .invalidDigit
    | some d =>
      let next := value * 10 - d.val
      if next < least then .error .tooSmall else readDown least next cs

/-- Read an optional sign and at least one digit. -/
def read (least greatest : Int) (cs : List Char) : Except IntegerError Int :=
  match cs with
  | [] => .error .empty
  | ['+'] => .error .invalidDigit
  | ['-'] => .error .invalidDigit
  | '+' :: digits => readUp greatest 0 digits
  | '-' :: digits => readDown least 0 digits
  | digits => readUp greatest 0 digits

/-- The decimal notation of an integer. -/
def chars (z : Int) : List Char :=
  if z < 0 then '-' :: Digit.chars z.natAbs else Digit.chars z.natAbs

end Integer

end GuardedQuery
