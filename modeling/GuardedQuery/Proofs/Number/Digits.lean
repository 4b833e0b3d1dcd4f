import GuardedQuery.Number.Digits
import Mathlib.Data.List.Basic

/-! # Digits within a text

The digits of a number are read back from a text that goes on behind them with anything but a
digit. Zeros in front, which fill a number up to a width, do not change the number. -/

namespace GuardedQuery.Digit

/-- The text does not begin with a digit. -/
def Stops (cs : List Char) : Prop :=
  ∀ c ∈ cs.head?, ofChar? c = none

theorem stops_cons {c : Char} (h : ofChar? c = none) (cs : List Char) : Stops (c :: cs) := by
  simpa [Stops] using h

theorem span_map_char_append (ds : List Digit) {rest : List Char} (h : Stops rest) :
    span (ds.map char ++ rest) = (ds, rest) := by
  induction ds with
  | nil =>
      cases rest with
      | nil => rfl
      | cons c cs => simp [span, h c rfl]
  | cons d ds ih => simp [span, ih]

theorem span_chars_append (n : Nat) {rest : List Char} (h : Stops rest) :
    span (chars n ++ rest) = (ofNat n, rest) :=
  span_map_char_append (ofNat n) h

theorem span_of_stops {rest : List Char} (h : Stops rest) : span rest = ([], rest) :=
  span_map_char_append [] h

/-! ### The first digit -/

theorem char_ne_of_ofChar?_eq_none {c : Char} (h : ofChar? c = none) (d : Digit) : d.char ≠ c := by
  rintro rfl
  rw [ofChar?_char] at h
  cases h

theorem exists_chars_eq_cons (n : Nat) :
    ∃ (d : Digit) (cs : List Char), chars n = d.char :: cs := by
  cases hds : ofNat n with
  | nil => exact absurd hds (ofNat_ne_nil n)
  | cons d ds => exact ⟨d, ds.map char, by rw [chars, hds, List.map_cons]⟩

theorem head?_ofNat_ne_zero {n : Nat} (h : 0 < n) : (ofNat n).head? ≠ some 0 := by
  fun_induction ofNat n with
  | case1 n hn =>
      intro hzero
      have hval : n = 0 := congrArg Fin.val (Option.some.inj hzero)
      omega
  | case2 n hn ih =>
      rw [List.head?_append_of_ne_nil _ (ofNat_ne_nil _)]
      exact ih (by omega)

/-- Only zero itself starts with a zero. -/
theorem length_ofNat_of_head? {n : Nat} (h : (ofNat n).head? = some 0) : (ofNat n).length = 1 := by
  rcases Nat.eq_zero_or_pos n with rfl | hpos
  · simp [ofNat]
  · exact absurd h (head?_ofNat_ne_zero hpos)

/-! ### Fixed widths -/

theorem length_ofNat_le {width n : Nat} (hwidth : 0 < width) (h : n < Nat.pow 10 width) :
    (ofNat n).length ≤ width := by
  induction width generalizing n with
  | zero => omega
  | succ width ih =>
      rw [ofNat]
      split
      · simp
      · rename_i hn
        have hpos : 0 < width := by
          rcases Nat.eq_zero_or_pos width with rfl | hpos
          · exact absurd h hn
          · exact hpos
        have hdiv : n / 10 < Nat.pow 10 width := by
          have hpow : Nat.pow 10 (width + 1) = Nat.pow 10 width * 10 := rfl
          omega
        simpa using ih hpos hdiv

/-- The digits of a number, with zeros in front to reach a width. -/
def paddedDigits (width n : Nat) : List Digit :=
  List.replicate (width - (ofNat n).length) zero ++ ofNat n

theorem padded_eq (width n : Nat) : padded width n = (paddedDigits width n).map char := by
  have hzero : zero.char = '0' := by decide
  simp [padded, paddedDigits, chars, hzero]

theorem paddedDigits_ne_nil (width n : Nat) : paddedDigits width n ≠ [] := by
  simp [paddedDigits, ofNat_ne_nil]

theorem length_paddedDigits {width n : Nat} (hwidth : 0 < width) (h : n < Nat.pow 10 width) :
    (paddedDigits width n).length = width := by
  have := length_ofNat_le hwidth h
  rw [paddedDigits, List.length_append, List.length_replicate]
  omega

theorem toNat_replicate_zero_append (count : Nat) (ds : List Digit) :
    toNat (List.replicate count zero ++ ds) = toNat ds := by
  induction count with
  | zero => rfl
  | succ count ih => exact ih

@[simp]
theorem toNat_paddedDigits (width n : Nat) : toNat (paddedDigits width n) = n := by
  rw [paddedDigits, toNat_replicate_zero_append, toNat_ofNat]

/-! ### Numbers that go on -/

theorem toNatFrom_cons (start : Nat) (d : Digit) (ds : List Digit) :
    toNatFrom start (d :: ds) = toNatFrom (start * 10 + d.val) ds := rfl

/-- More digits do not make a number smaller. -/
theorem le_toNatFrom (start : Nat) (ds : List Digit) : start ≤ toNatFrom start ds := by
  induction ds generalizing start with
  | nil => exact Nat.le_refl start
  | cons d ds ih =>
      have := ih (start * 10 + d.val)
      rw [toNatFrom_cons]
      omega

end GuardedQuery.Digit
