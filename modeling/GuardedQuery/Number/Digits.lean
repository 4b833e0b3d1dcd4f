/-! # Decimal digits

Natural numbers as lists of decimal digits, most significant first. The digits of zero are one zero;
no other number starts with one. -/

namespace GuardedQuery

/-- A decimal digit. -/
abbrev Digit := Fin 10

namespace Digit

def zero : Digit := ⟨0, by decide⟩

/-- The ASCII character of a digit. -/
def char (d : Digit) : Char :=
  Char.ofNat (48 + d.val)

/-- The digit an ASCII character stands for. -/
def ofChar? (c : Char) : Option Digit :=
  if h : 48 ≤ c.toNat ∧ c.toNat < 58 then some ⟨c.toNat - 48, by omega⟩ else none

@[simp]
theorem ofChar?_char (d : Digit) : ofChar? d.char = some d := by
  revert d; decide

/-- The digits of a number. -/
def ofNat (n : Nat) : List Digit :=
  if h : n < 10 then [⟨n, h⟩] else ofNat (n / 10) ++ [⟨n % 10, Nat.mod_lt _ (by decide)⟩]

/-- The number that a list of digits writes, continuing after the digits of `start`. -/
def toNatFrom (start : Nat) (digits : List Digit) : Nat :=
  digits.foldl (fun n d => n * 10 + d.val) start

/-- The number that a list of digits writes. -/
def toNat (digits : List Digit) : Nat :=
  toNatFrom 0 digits

theorem toNat_append_singleton (digits : List Digit) (d : Digit) :
    toNat (digits ++ [d]) = toNat digits * 10 + d.val := by
  simp [toNat, toNatFrom]

/-- Writing a number and reading it gives it back. -/
@[simp]
theorem toNat_ofNat (n : Nat) : toNat (ofNat n) = n := by
  fun_induction ofNat n with
  | case1 n h => simp [toNat, toNatFrom]
  | case2 n h ih =>
      rw [toNat_append_singleton, ih]
      show n / 10 * 10 + n % 10 = n
      omega

theorem ofNat_ne_nil (n : Nat) : ofNat n ≠ [] := by
  fun_induction ofNat n <;> simp

/-- The characters of a number in decimal notation. -/
def chars (n : Nat) : List Char :=
  (ofNat n).map char

/-- The characters of a number, with zeros in front to reach a width. -/
def padded (width n : Nat) : List Char :=
  List.replicate (width - (ofNat n).length) '0' ++ chars n

/-- The longest run of digits at the start of a text, and what follows it. -/
def span : List Char → List Digit × List Char
  | [] => ([], [])
  | c :: cs =>
    match ofChar? c with
    | some d => let (digits, rest) := span cs; (d :: digits, rest)
    | none => ([], c :: cs)

end Digit

end GuardedQuery
