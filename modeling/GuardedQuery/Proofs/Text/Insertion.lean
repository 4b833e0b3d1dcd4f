import GuardedQuery.Text.Insert

/-! # Insertions at byte positions -/

namespace GuardedQuery.Text

@[simp] theorem byteLength_nil : byteLength [] = 0 := rfl

theorem byteLength_eq_zero {cs : List Char} : byteLength cs = 0 ↔ cs = [] := by
  cases cs with
  | nil => simp [byteLength]
  | cons c cs =>
      have := c.utf8Size_pos
      simp only [byteLength, reduceCtorEq, iff_false]
      omega

theorem insertAt_zero (piece cs : List Char) : insertAt 0 piece cs = some (piece ++ cs) := by
  simpa using insertAt_byteLength [] cs piece

/-- An insertion behind a whole front part only concerns the rest. -/
theorem insertAt_byteLength_add (front rest piece : List Char) (offset : Nat) :
    insertAt (byteLength front + offset) piece (front ++ rest) =
      (insertAt offset piece rest).map (front ++ ·) := by
  induction front with
  | nil => simp [byteLength]
  | cons c cs ih =>
      have hpos : c.utf8Size ≠ 0 := Nat.pos_iff_ne_zero.mp c.utf8Size_pos
      have hle : c.utf8Size ≤ c.utf8Size + byteLength cs + offset := by omega
      have hrest : c.utf8Size + byteLength cs + offset - c.utf8Size = byteLength cs + offset := by
        omega
      simp only [byteLength, List.cons_append, insertAt]
      rw [if_neg (by omega), if_pos hle, hrest, ih, Option.map_map]
      rfl

/-- An insertion succeeds exactly where the text can be cut after so many bytes, and it puts the
piece into the cut. -/
theorem insertAt_eq_some {offset : Nat} {piece cs ds : List Char} :
    insertAt offset piece cs = some ds ↔
      ∃ front rest, cs = front ++ rest ∧ byteLength front = offset ∧
        ds = front ++ piece ++ rest := by
  constructor
  · intro h
    induction cs generalizing offset ds with
    | nil =>
        by_cases h0 : offset = 0
        · refine ⟨[], [], rfl, h0.symm, ?_⟩
          simpa [insertAt, h0, eq_comm] using h
        · simp [insertAt, h0] at h
    | cons c cs ih =>
        by_cases h0 : offset = 0
        · refine ⟨[], c :: cs, rfl, h0.symm, ?_⟩
          simpa [insertAt, h0, eq_comm] using h
        · by_cases hle : c.utf8Size ≤ offset
          · rw [insertAt, if_neg h0, if_pos hle, Option.map_eq_some_iff] at h
            obtain ⟨es, hes, rfl⟩ := h
            obtain ⟨front, rest, rfl, hlength, rfl⟩ := ih hes
            refine ⟨c :: front, rest, rfl, ?_, rfl⟩
            simp only [byteLength]
            omega
          · simp [insertAt, h0, hle] at h
  · rintro ⟨front, rest, rfl, rfl, rfl⟩
    exact insertAt_byteLength front rest piece

/-- So many bytes end where a character ends. -/
def CutsAt (offset : Nat) (cs : List Char) : Prop :=
  ∃ front rest, cs = front ++ rest ∧ byteLength front = offset

theorem insertAt_eq_none {offset : Nat} {piece cs : List Char} :
    insertAt offset piece cs = none ↔ ¬ CutsAt offset cs := by
  rw [Option.eq_none_iff_forall_ne_some, CutsAt, not_exists]
  constructor
  · rintro h front ⟨rest, hcs, hlength⟩
    exact h _ (insertAt_eq_some.mpr ⟨front, rest, hcs, hlength, rfl⟩)
  · intro h ds hds
    obtain ⟨front, rest, hcs, hlength, -⟩ := insertAt_eq_some.mp hds
    exact h front ⟨rest, hcs, hlength⟩

end GuardedQuery.Text
