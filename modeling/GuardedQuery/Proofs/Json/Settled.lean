import GuardedQuery.Proofs.Json.Decoding

/-! # Trees read without knowing their fields

Such a reading keeps a tree as it is if no object in it has a name twice, all its numbers are in range
and its containers do not nest too deep. -/

namespace GuardedQuery.Json

/-- The tree is read as it is, within the given number of levels. -/
def Settles (limit : Nat) (j : Json) : Prop :=
  j.settled? limit = some j

variable {limit : Nat}

theorem settles_null : Settles limit .null := rfl

theorem settles_bool (b : Bool) : Settles limit (.bool b) := rfl

theorem settles_string (s : String) : Settles limit (.string s) := rfl

theorem settles_number {n : JsonNumber} (h : n.integer?.isSome ∨ n.double?.isSome) :
    Settles limit (.number n) :=
  if_pos h

/-- A number that can be read as a value of a binary format is in range. -/
theorem settles_number_of_binary? {f : Format} {n : JsonNumber} (h : (n.binary? f).isSome) :
    Settles limit (.number n) := by
  apply settles_number
  rw [JsonNumber.binary?] at h
  cases hinteger : n.integer? with
  | some z => exact .inl rfl
  | none => exact .inr (by simpa [hinteger] using h)

/-- The integers of every width are in range. -/
theorem settles_ofInt {bits : Nat} (hbits : bits ≤ 64) {z : Int} (hleast : Integer.least bits ≤ z)
    (hgreatest : z ≤ Integer.greatest bits) : Settles limit (ofInt z) := by
  have hread := between?_ofInt hbits hleast hgreatest
  rw [JsonNumber.between?] at hread
  apply settles_number
  cases hinteger : (JsonNumber.ofInt z).integer? with
  | some _ => exact .inl rfl
  | none => simp [hinteger] at hread

theorem settles_array {items : List Json} (h : ∀ j ∈ items, Settles limit j) :
    Settles (limit + 1) (.array items) := by
  have hitems : settledItems? limit items = some items := by
    induction items with
    | nil => rfl
    | cons j rest ih =>
        obtain ⟨hj, hrest⟩ := List.forall_mem_cons.mp h
        rw [settledItems?, show settled? limit j = some j from hj, ih hrest]
        rfl
  rw [Settles, settled?, hitems]
  rfl

/-- Of names that are all different none is left out. -/
theorem lastFields_of_nodup {fields : List (String × Json)} (h : (fields.map (·.1)).Nodup) :
    lastFields fields = fields := by
  induction fields with
  | nil => rfl
  | cons field rest ih =>
      obtain ⟨name, j⟩ := field
      rw [List.map_cons, List.nodup_cons] at h
      have hother : ∀ field ∈ rest, field.1 ≠ name := by
        intro field hfield hname
        exact h.1 (List.mem_map.mpr ⟨field, hfield, hname⟩)
      have hnone : rest.filter (·.1 == name) = [] := by simpa using hother
      have hall : rest.filter (·.1 != name) = rest := by simpa using hother
      rw [lastFields, ih h.2, hnone, hall]
      rfl

/-- An object without repeated names is read as it is, if its values are. -/
theorem settles_object {fields : List (String × Json)} (hnames : (fields.map (·.1)).Nodup)
    (h : ∀ field ∈ fields, Settles limit field.2) : Settles (limit + 1) (.object fields) := by
  have hfields : settledFields? limit fields = some fields := by
    clear hnames
    induction fields with
    | nil => rfl
    | cons field rest ih =>
        obtain ⟨name, j⟩ := field
        obtain ⟨hj, hrest⟩ := List.forall_mem_cons.mp h
        rw [settledFields?, show settled? limit j = some j from hj, ih hrest]
        rfl
  rw [Settles, settled?, hfields, Option.map_some, Function.comp_apply, lastFields_of_nodup hnames]

/-- In an object without repeated names, every field is found under its name. -/
theorem lookup_of_mem {fields : List (String × Json)} (hnames : (fields.map (·.1)).Nodup)
    {name : String} {j : Json} (h : (name, j) ∈ fields) : fields.lookup name = some j := by
  obtain ⟨front, back, rfl⟩ := List.append_of_mem h
  rw [List.map_append, List.map_cons, List.nodup_append] at hnames
  refine List.lookup_eq_some_iff.mpr ⟨front, back, rfl, ?_⟩
  intro field hfield
  have hne : field.1 ≠ name :=
    hnames.2.2 field.1 (List.mem_map_of_mem hfield) name List.mem_cons_self
  exact bne_iff_ne.mpr hne.symm

end GuardedQuery.Json
