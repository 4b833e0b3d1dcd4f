import GuardedQuery.Number.Binary

/-! # The shortest decimal of a binary value

Of all decimals that read back to the value, one with the fewest digits, and of those the nearest.
Grids of powers of ten are tried from coarse to fine; on each only the two neighbours of the value
can be the answer. -/

namespace GuardedQuery

/-- The number `coefficient` times ten to the `exponent`. -/
structure Decimal where
  coefficient : Nat
  exponent : Int
  deriving DecidableEq, Repr

namespace Decimal

/-- The same number without zeros at the end of the coefficient. -/
def strip (fuel : Nat) (d : Decimal) : Decimal :=
  match fuel with
  | 0 => d
  | fuel + 1 =>
    if d.coefficient ≠ 0 ∧ d.coefficient % 10 = 0 then
      strip fuel ⟨d.coefficient / 10, d.exponent + 1⟩
    else d

end Decimal

/-- What decides between two neighbours at the same distance. -/
inductive Tie
  | up
  | even
  deriving DecidableEq, Repr

namespace Shortest

/-- The reals that round to one value, as numerators over one denominator. -/
structure Interval where
  value : Nat
  low : Nat
  high : Nat
  den : Nat
  inclusive : Bool

/-- The interval of a significand at a scale. The gap below is half as wide where the significand is
the least of its binade. -/
def interval (f : Format) (significand : Nat) (scale : Int) : Interval :=
  let narrow := significand = Nat.pow 2 (f.precision - 1) ∧ f.leastScale < scale
  let unit := Nat.pow 2 (scale - 2).toNat
  { value := 4 * significand * unit
    low := (4 * significand - if narrow then 1 else 2) * unit
    high := (4 * significand + 2) * unit
    den := Nat.pow 2 (2 - scale).toNat
    inclusive := significand % 2 = 0 }

/-- The neighbours of the value on the grid of ten to the `exponent`, if one of them lies in the
interval. -/
def onGrid (tie : Tie) (i : Interval) (exponent : Int) : Option Decimal :=
  let up := Nat.pow 10 (-exponent).toNat
  let den := i.den * Nat.pow 10 exponent.toNat
  let below := i.value * up / den
  let rest := i.value * up % den
  let lowHit : Bool := i.low * up < below * den || (i.inclusive && i.low * up == below * den)
  let highHit : Bool :=
    (below + 1) * den < i.high * up || (i.inclusive && (below + 1) * den == i.high * up)
  let nearerAbove : Bool :=
    match tie with
    | .up => den ≤ 2 * rest
    | .even => den < 2 * rest || (den == 2 * rest && below % 2 == 1)
  if lowHit && (!highHit || !nearerAbove) then some ⟨below, exponent⟩
  else if highHit then some ⟨below + 1, exponent⟩
  else none

/-- Try ever finer grids. -/
def search (tie : Tie) (i : Interval) : Nat → Int → Decimal
  | 0, exponent => ⟨0, exponent⟩
  | fuel + 1, exponent =>
    match onGrid tie i exponent with
    | some decimal => decimal
    | none => search tie i fuel (exponent - 1)

/-- The shortest decimal of a positive significand at a scale. The first grid is coarser than the
value, since ten to `log10` of two times the bits bounds it; a value of `precision` bits needs fewer
digits than bits. -/
def decimal (f : Format) (tie : Tie) (significand : Nat) (scale : Int) : Decimal :=
  let bits : Int := significand.log2 + scale + 1
  let start := bits * 30103 / 100000 + 1
  (search tie (interval f significand scale) (f.precision + 3) start).strip 400

end Shortest

end GuardedQuery
