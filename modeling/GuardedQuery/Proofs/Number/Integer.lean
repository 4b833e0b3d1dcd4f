import GuardedQuery.Number.Integer
import GuardedQuery.Proofs.Number.Digits

/-! # Integers as text

The decimal notation of an integer between two bounds is read back, since no number on the way to it
is further from zero. -/

namespace GuardedQuery.Integer

open Digit (toNatFrom)

theorem readUp_map_char {greatest : Int} {start : Nat} {ds : List Digit}
    (h : (toNatFrom start ds : Int) ≤ greatest) :
    readUp greatest start (ds.map Digit.char) = .ok (toNatFrom start ds : Int) := by
  induction ds generalizing start with
  | nil => rfl
  | cons d ds ih =>
      rw [Digit.toNatFrom_cons] at h
      have hnext : ¬ greatest < (start : Int) * 10 + d.val := by
        have := Digit.le_toNatFrom (start * 10 + d.val) ds
        omega
      rw [List.map_cons, readUp, Digit.ofChar?_char]
      simp only [if_neg hnext]
      exact_mod_cast ih h

theorem readDown_map_char {least : Int} {start : Nat} {ds : List Digit}
    (h : least ≤ -(toNatFrom start ds : Int)) :
    readDown least (-(start : Int)) (ds.map Digit.char) = .ok (-(toNatFrom start ds : Int)) := by
  induction ds generalizing start with
  | nil => rfl
  | cons d ds ih =>
      rw [Digit.toNatFrom_cons] at h
      have hnext : ¬ -(start : Int) * 10 - d.val < least := by
        have := Digit.le_toNatFrom (start * 10 + d.val) ds
        omega
      have hstart : -(start : Int) * 10 - d.val = -((start * 10 + d.val : Nat) : Int) := by
        omega
      rw [List.map_cons, readDown, Digit.ofChar?_char]
      simp only [if_neg hnext]
      rw [hstart]
      exact ih h

/-- A text that starts with a digit is read upwards. -/
theorem read_map_char (least greatest : Int) {ds : List Digit} (h : ds ≠ []) :
    read least greatest (ds.map Digit.char) = readUp greatest 0 (ds.map Digit.char) := by
  cases ds with
  | nil => exact absurd rfl h
  | cons d ds =>
      have hplus : d.char ≠ '+' := Digit.char_ne_of_ofChar?_eq_none (by decide) d
      have hminus : d.char ≠ '-' := Digit.char_ne_of_ofChar?_eq_none (by decide) d
      simp [read, hplus, hminus]

theorem read_minus_map_char (least greatest : Int) {ds : List Digit} (h : ds ≠ []) :
    read least greatest ('-' :: ds.map Digit.char) = readDown least 0 (ds.map Digit.char) := by
  cases ds with
  | nil => exact absurd rfl h
  | cons d ds => rfl

/-- An integer between the bounds is read from its notation. -/
theorem read_chars {least greatest z : Int} (hleast : least ≤ z) (hgreatest : z ≤ greatest) :
    read least greatest (chars z) = .ok z := by
  have hvalue : toNatFrom 0 (Digit.ofNat z.natAbs) = z.natAbs := Digit.toNat_ofNat z.natAbs
  have hne := Digit.ofNat_ne_nil z.natAbs
  unfold chars Digit.chars
  split
  · have hdown := @readDown_map_char least 0 (Digit.ofNat z.natAbs) (by omega)
    rw [read_minus_map_char least greatest hne]
    rw [hvalue, show -(z.natAbs : Int) = z by omega] at hdown
    exact hdown
  · have hup := @readUp_map_char greatest 0 (Digit.ofNat z.natAbs) (by omega)
    rw [read_map_char least greatest hne]
    rw [hvalue, show (z.natAbs : Int) = z by omega] at hup
    exact hup

end GuardedQuery.Integer
