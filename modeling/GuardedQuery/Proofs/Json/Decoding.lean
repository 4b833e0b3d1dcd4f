import GuardedQuery.Json.Record
import GuardedQuery.Number.Integer
import GuardedQuery.Proofs.Except

/-! # Decoding what was encoded

An integer of 64 bits, a record and a list are decoded from the trees that are written for them. The
fields of a record are found by their names, so the names must differ. -/

namespace GuardedQuery.Json

variable {α : Type}

/-! ### Numbers -/

theorem integer?_ofInt {z : Int} (hleast : Integer.least 64 ≤ z)
    (hgreatest : z ≤ Integer.greatest 64) : (JsonNumber.ofInt z).integer? = some z := by
  have hpow : Nat.pow 2 63 = 9223372036854775808 := by decide
  have hword : JsonNumber.greatestWord = 18446744073709551615 := by decide
  simp only [Integer.least, Integer.greatest, Nat.add_one_sub_one, hpow] at hleast hgreatest
  by_cases hneg : z < 0
  · have hpos : 0 < z.natAbs := by omega
    have hle : z.natAbs ≤ Nat.pow 2 63 := by omega
    have hvalue : -((z.natAbs : Nat) : Int) = z := by omega
    simp only [JsonNumber.integer?, JsonNumber.ofInt, hneg, hpos, hle, hvalue]
    rfl
  · have hle : z.natAbs ≤ JsonNumber.greatestWord := by omega
    have hvalue : ((z.natAbs : Nat) : Int) = z := by omega
    simp only [JsonNumber.integer?, JsonNumber.ofInt, hneg, hle, hvalue]
    rfl

/-- The bounds of every width lie within those of 64 bits. -/
theorem between?_ofInt {bits : Nat} (hbits : bits ≤ 64) {z : Int} (hleast : Integer.least bits ≤ z)
    (hgreatest : z ≤ Integer.greatest bits) :
    (JsonNumber.ofInt z).between? (Integer.least bits) (Integer.greatest bits) = some z := by
  have hpow : Nat.pow 2 (bits - 1) ≤ Nat.pow 2 (64 - 1) :=
    Nat.pow_le_pow_right (by decide) (by omega)
  have hinteger : (JsonNumber.ofInt z).integer? = some z := by
    apply integer?_ofInt
    · simp only [Integer.least] at hleast ⊢
      omega
    · simp only [Integer.greatest] at hgreatest ⊢
      omega
  rw [JsonNumber.between?, hinteger]
  exact if_pos ⟨hleast, hgreatest⟩

/-! ### Lists -/

/-- A list is decoded if and only if each of its items is. -/
theorem list?_map_eq_some {decode : Json → Option α} {encode : α → Json} {xs : List α} :
    list? decode (.array (xs.map encode)) = some xs ↔ ∀ x ∈ xs, decode (encode x) = some x := by
  have hitems : xs.mapM (decode ∘ encode) = some (xs.map id) ↔
      ∀ x ∈ xs, decode (encode x) = some x :=
    option_mapM_eq_some_map
  rw [List.map_id] at hitems
  rw [list?, List.mapM_map]
  exact hitems

theorem list?_map_eq_none {decode : Json → Option α} {encode : α → Json} {xs : List α}
    (h : ∃ x ∈ xs, decode (encode x) = none) :
    list? decode (.array (xs.map encode)) = none := by
  rw [list?, List.mapM_map]
  exact option_mapM_eq_none h

/-! ### Records -/

theorem uniqueField_eq_lookup {fields : List (String × Json)} (h : (fields.map (·.1)).Nodup)
    (name : String) : uniqueField name fields = some (fields.lookup name) := by
  induction fields with
  | nil => rfl
  | cons field rest ih =>
      obtain ⟨key, j⟩ := field
      rw [List.map_cons, List.nodup_cons] at h
      by_cases hname : key = name
      · have hrest : rest.filter (·.1 == name) = [] := by
          simp only [List.filter_eq_nil_iff, beq_iff_eq]
          intro other hother heq
          exact h.1 (List.mem_map.mpr ⟨other, hother, heq.trans hname.symm⟩)
        simp [uniqueField, hname, hrest]
      · have hkey : ¬ name = key := fun heq => hname heq.symm
        rw [List.lookup_cons, beq_false_of_ne hkey, ← ih h.2]
        simp [uniqueField, hname]

/-- The values of an object are found by their names if no name is repeated. -/
theorem record?_object {fields : List (String × Json)} (h : (fields.map (·.1)).Nodup)
    (names : List String) :
    record? names (.object fields) = some (names.map (fields.lookup ·)) := by
  rw [record?, option_mapM_eq_some_map]
  intro name _
  exact uniqueField_eq_lookup h name

theorem optionalString?_ofOptionString (s : Option String) :
    optionalString? (some (ofOptionString s)) = some s := by
  cases s <;> rfl

end GuardedQuery.Json
