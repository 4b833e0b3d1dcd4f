/-! # Binary floating-point values

Values of a binary interchange format, held exactly as a signed significand times a power of two.
Every operation rounds the exact result once, to the nearest value and to the even one of two
equally near. -/

namespace GuardedQuery

/-- A binary format: the bits of a significand, and the least and the greatest power of two that
scales one. -/
structure Format where
  precision : Nat
  leastScale : Int
  greatestScale : Int
  deriving DecidableEq, Repr

namespace Format

/-- The format of 32 bits. -/
def single : Format := ⟨24, -149, 104⟩

/-- The format of 64 bits. -/
def double : Format := ⟨53, -1074, 971⟩

end Format

/-- A value of a format; `finite` is the significand times two to the scale. -/
inductive Binary (f : Format)
  | nan
  | infinity (negative : Bool)
  | finite (negative : Bool) (significand : Nat) (scale : Int)
  deriving DecidableEq, Repr

namespace Binary

/-- The quotient rounded to the nearest integer, to the even one of two equally near. -/
def roundHalfEven (num den : Nat) : Nat :=
  let quotient := num / den
  let rest := num % den
  if 2 * rest < den ∨ (2 * rest = den ∧ quotient % 2 = 0) then quotient else quotient + 1

/-- The fraction divided by two to the `scale`. -/
def rescale (num den : Nat) (scale : Int) : Nat × Nat :=
  (num * Nat.pow 2 (-scale).toNat, den * Nat.pow 2 scale.toNat)

/-- The scale at which the significand of a positive fraction has the full precision, or the least
scale if it cannot have it. -/
def scaleOf (f : Format) (num den : Nat) : Int :=
  let guess := max f.leastScale ((num.log2 : Int) - den.log2 - f.precision)
  let (n, d) := rescale num den guess
  if Nat.pow 2 f.precision ≤ n / d then guess + 1 else guess

/-- The value nearest to a fraction. -/
def round (f : Format) (negative : Bool) (num den : Nat) : Binary f :=
  if num = 0 then .finite negative 0 f.leastScale
  else
    let scale := scaleOf f num den
    let (n, d) := rescale num den scale
    let significand := roundHalfEven n d
    let (significand, scale) :=
      if significand = Nat.pow 2 f.precision then (Nat.pow 2 (f.precision - 1), scale + 1)
      else (significand, scale)
    if f.greatestScale < scale then .infinity negative
    else .finite negative significand scale

/-- The value nearest to an integer. -/
def ofInt (f : Format) (z : Int) : Binary f :=
  round f (z < 0) z.natAbs 1

/-- The value nearest to `coefficient` times ten to the `exponent`. A number with `top` digits
before the point is at least ten to `top - 1` and below ten to `top`, which settles overflow and
underflow of extreme exponents without computing the power. -/
def ofDecimal (f : Format) (negative : Bool) (coefficient : Nat) (exponent : Int) : Binary f :=
  let top : Int := (Nat.toDigits 10 coefficient).length + exponent
  if coefficient = 0 then .finite negative 0 f.leastScale
  else if f.greatestScale + f.precision < 3 * (top - 1) then .infinity negative
  else if 3 * top < f.leastScale - 1 then .finite negative 0 f.leastScale
  else round f negative (coefficient * Nat.pow 10 exponent.toNat) (Nat.pow 10 (-exponent).toNat)

/-- The numerator and denominator of a significand at a scale. -/
def fraction (significand : Nat) (scale : Int) : Nat × Nat :=
  (significand * Nat.pow 2 scale.toNat, Nat.pow 2 (-scale).toNat)

/-- The nearest value of another format. -/
def convert {f : Format} (g : Format) : Binary f → Binary g
  | .nan => .nan
  | .infinity negative => .infinity negative
  | .finite negative significand scale =>
    let (n, d) := fraction significand scale
    round g negative n d

/-- A finite value times a positive finite one; anything else is kept. -/
def scaleUp {f : Format} (x factor : Binary f) : Binary f :=
  match x, factor with
  | .finite negative m s, .finite _ m' s' =>
    let (n, d) := fraction m s
    let (n', d') := fraction m' s'
    round f negative (n * n') (d * d')
  | x, _ => x

/-- A finite value divided by a positive finite one; anything else is kept. -/
def scaleDown {f : Format} (x divisor : Binary f) : Binary f :=
  match x, divisor with
  | .finite negative m s, .finite _ m' s' =>
    let (n, d) := fraction m s
    let (n', d') := fraction m' s'
    round f negative (n * d') (d * n')
  | x, _ => x

/-- Neither an infinity nor no number. -/
def isFinite {f : Format} : Binary f → Bool
  | .finite .. => true
  | _ => false

end Binary

end GuardedQuery
