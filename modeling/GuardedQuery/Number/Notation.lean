import GuardedQuery.Number.Digits
import GuardedQuery.Number.Shortest

/-! # Floating-point values as text

The text of a value has the shortest digits and no exponent. Reading takes decimal numbers with an
optional fraction and exponent, and names for the values that are not finite. -/

namespace GuardedQuery.Binary

/-- A decimal without exponent. -/
def positional (d : Decimal) : List Char :=
  let digits := Digit.chars d.coefficient
  if 0 ≤ d.exponent then digits ++ List.replicate d.exponent.toNat '0'
  else
    let places := (-d.exponent).toNat
    if places < digits.length then
      digits.take (digits.length - places) ++ '.' :: digits.drop (digits.length - places)
    else '0' :: '.' :: List.replicate (places - digits.length) '0' ++ digits

/-- The text of a value. -/
def chars {f : Format} : Binary f → List Char
  | .nan => "NaN".toList
  | .infinity negative => if negative then "-inf".toList else "inf".toList
  | .finite negative significand scale =>
    let magnitude :=
      if significand = 0 then ['0'] else positional (Shortest.decimal f .up significand scale)
    if negative then '-' :: magnitude else magnitude

/-- The ways a text fails to be a number. -/
inductive ReadError
  | empty
  | invalid
  deriving DecidableEq, Repr

def ReadError.message : ReadError → String
  | .empty => "cannot parse float from empty string"
  | .invalid => "invalid float literal"

/-- The exponent after the mark `e` or `E`, or zero where there is no mark. -/
def readExponent : List Char → Option Int
  | [] => some 0
  | mark :: cs =>
    if mark = 'e' ∨ mark = 'E' then
      let (negative, digits) :=
        match cs with
        | '-' :: ds => (true, ds)
        | '+' :: ds => (false, ds)
        | ds => (false, ds)
      match Digit.span digits with
      | ([], _) => none
      | (ds, []) => some (if negative then -(Digit.toNat ds : Int) else Digit.toNat ds)
      | _ => none
    else none

/-- The coefficient and exponent of an unsigned decimal number. -/
def readDecimal (cs : List Char) : Option Decimal :=
  let (whole, rest) := Digit.span cs
  let (fraction, rest) :=
    match rest with
    | '.' :: ds => Digit.span ds
    | rest => ([], rest)
  if whole.isEmpty ∧ fraction.isEmpty then none
  else (readExponent rest).map fun exponent =>
    ⟨Digit.toNat (whole ++ fraction), exponent - fraction.length⟩

/-- Read a number of a format. -/
def read (f : Format) (cs : List Char) : Except ReadError (Binary f) :=
  let (negative, magnitude) :=
    match cs with
    | '-' :: ds => (true, ds)
    | '+' :: ds => (false, ds)
    | ds => (false, ds)
  let name := magnitude.map Char.toLower
  if cs.isEmpty then .error .empty
  else if name = "inf".toList ∨ name = "infinity".toList then .ok (.infinity negative)
  else if name = "nan".toList then .ok .nan
  else
    match readDecimal magnitude with
    | some d => .ok (ofDecimal f negative d.coefficient d.exponent)
    | none => .error .invalid

end GuardedQuery.Binary
