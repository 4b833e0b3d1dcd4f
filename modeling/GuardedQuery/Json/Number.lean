import GuardedQuery.Json.Basic
import GuardedQuery.Number.Binary
import GuardedQuery.Number.Notation

/-! # The meaning of JSON numbers

A number without fraction and exponent is an integer if 64 bits hold it, and every other number is a
binary value of 64 bits. A binary value is computed from the digits that fit into 64 bits, with one
product or quotient by a power of ten, so its last place may differ from the nearest value. -/

namespace GuardedQuery

namespace JsonNumber

/-- The greatest natural number of 64 bits. -/
def greatestWord : Nat := Nat.pow 2 64 - 1

/-- The integer, if the number is written as one and 64 bits hold it. A negative zero is no
integer. -/
def integer? (n : JsonNumber) : Option Int :=
  if n.fraction.isEmpty ∧ n.exponent = none then
    if n.negative then
      if 0 < n.whole ∧ n.whole ≤ Nat.pow 2 63 then some (-(n.whole : Int)) else none
    else if n.whole ≤ greatestWord then some n.whole
    else none
  else none

/-- Digits that have been read, as a number that fits into 64 bits and the power of ten for the
dropped digits. -/
structure Significand where
  value : Nat
  exponent : Int
  full : Bool
  deriving DecidableEq, Repr

namespace Significand

/-- A digit before the point: once one does not fit, it and all others count only for the power. -/
def pushWhole (s : Significand) (d : Digit) : Significand :=
  if s.full ∨ greatestWord < s.value * 10 + d.val then
    { s with exponent := s.exponent + 1, full := true }
  else { s with value := s.value * 10 + d.val }

/-- A digit after the point: once one does not fit, it and all others are dropped. -/
def pushFraction (s : Significand) (d : Digit) : Significand :=
  if s.full ∨ greatestWord < s.value * 10 + d.val then { s with full := true }
  else { s with value := s.value * 10 + d.val, exponent := s.exponent - 1 }

/-- The digits of a whole part and a fraction. -/
def ofDigits (whole fraction : List Digit) : Significand :=
  let s := whole.foldl pushWhole ⟨0, 0, false⟩
  fraction.foldl pushFraction { s with full := false }

end Significand

/-- The binary value nearest to a power of ten. -/
def powerOfTen (exponent : Nat) : Binary .double :=
  .ofDecimal .double false 1 exponent

/-- A value times ten to the `exponent`, by powers up to 308. Overflow is no value. -/
def scaleByTen (x : Binary .double) (exponent : Int) : Option (Binary .double) :=
  if exponent.natAbs ≤ 308 then
    if 0 ≤ exponent then
      let y := x.scaleUp (powerOfTen exponent.natAbs)
      if y.isFinite then some y else none
    else some (x.scaleDown (powerOfTen exponent.natAbs))
  else
    match x with
    | .finite _ 0 _ => some x
    | _ =>
      if 0 ≤ exponent then none
      else scaleByTen (x.scaleDown (powerOfTen 308)) (exponent + 308)
termination_by exponent.natAbs

/-- The sign of a number on a magnitude. -/
def withSign (negative : Bool) : Binary .double → Binary .double
  | .finite _ significand scale => .finite negative significand scale
  | .infinity _ => .infinity negative
  | .nan => .nan

/-- The binary value, unless it is out of range. -/
def double? (n : JsonNumber) : Option (Binary .double) :=
  let s := Significand.ofDigits (Digit.ofNat n.whole) n.fraction
  let exponent := s.exponent + n.exponent.getD 0
  (scaleByTen (.ofInt .double s.value) exponent).map (withSign n.negative)

/-- The value of a format: an integer is rounded to it directly, any other number through 64
bits. -/
def binary? (f : Format) (n : JsonNumber) : Option (Binary f) :=
  match n.integer? with
  | some z => some (.ofInt f z)
  | none => n.double?.map (Binary.convert f)

/-- The integer between two bounds. -/
def between? (least greatest : Int) (n : JsonNumber) : Option Int :=
  match n.integer? with
  | some z => if least ≤ z ∧ z ≤ greatest then some z else none
  | none => none

/-- How the binary values of a format are written: without exponent where the first digit stands for
a power of ten between the two, and otherwise with one digit before the point. -/
structure Layout where
  leastPlain : Int
  greatestPlain : Int
  deriving DecidableEq, Repr

namespace Layout

def single : Layout := ⟨-6, 12⟩

def double : Layout := ⟨-5, 15⟩

end Layout

/-- A decimal in a layout. Plain numbers have at least one digit after the point. -/
def ofDecimal (layout : Layout) (negative : Bool) (d : Decimal) : JsonNumber :=
  let digits := Digit.ofNat d.coefficient
  let lead : Int := d.exponent + digits.length - 1
  if layout.leastPlain ≤ lead ∧ lead ≤ layout.greatestPlain then
    if 0 ≤ d.exponent then
      ⟨negative, d.coefficient * Nat.pow 10 d.exponent.toNat, [.zero], none⟩
    else
      let places := (-d.exponent).toNat
      let zeros := List.replicate (places - digits.length) Digit.zero
      ⟨negative, Digit.toNat (digits.take (digits.length - places)),
        zeros ++ digits.drop (digits.length - places), none⟩
  else
    ⟨negative, Digit.toNat (digits.take 1), digits.drop 1, some lead⟩

end JsonNumber

namespace Json

/-- A binary value as JSON; values that are not finite are null. -/
def ofBinary {f : Format} (layout : JsonNumber.Layout) : Binary f → Json
  | .finite negative significand scale =>
    if significand = 0 then .number ⟨negative, 0, [.zero], none⟩
    else .number (.ofDecimal layout negative (Shortest.decimal f .even significand scale))
  | _ => .null

end Json

end GuardedQuery
