import GuardedQuery.Proofs.Calendar.Pattern
import GuardedQuery.Proofs.Json.Decoding
import GuardedQuery.Proofs.Json.Text
import GuardedQuery.Value.Json

/-! # Values read back from JSON

A value of no binary format is what its JSON form is read as. An infinity and a NaN have a form that
no reader accepts, and a finite binary value is read back if its number is. -/

namespace GuardedQuery.Value

/-- A value of a binary format. -/
def isBinary : Value → Bool
  | .float32 _ | .float64 _ => true
  | _ => false

/-- Neither an infinity nor a NaN. -/
def isFinite : Value → Bool
  | .float32 x => x.isFinite
  | .float64 x => x.isFinite
  | _ => true

/-- If the value is a float that is written as a number, that number is read as the value. Reading
may miss the last place, so not every finite float is exact. -/
def Exact : Value → Prop
  | .float32 x => ∀ n, Json.ofBinary .single x = .number n → n.binary? .single = some x
  | .float64 x => ∀ n, Json.ofBinary .double x = .number n → n.binary? .double = some x
  | _ => True

theorem exists_number_of_isFinite {f : Format} (layout : JsonNumber.Layout) {x : Binary f}
    (h : x.isFinite = true) : ∃ n, Json.ofBinary layout x = .number n := by
  cases x with
  | finite negative significand scale =>
      rw [Json.ofBinary]
      split
      · exact ⟨_, rfl⟩
      · exact ⟨_, rfl⟩
  | infinity negative => cases h
  | nan => cases h

theorem ofBinary_of_not_isFinite {f : Format} (layout : JsonNumber.Layout) {x : Binary f}
    (h : x.isFinite = false) : Json.ofBinary layout x = .null := by
  cases x with
  | finite negative significand scale => cases h
  | infinity negative => rfl
  | nan => rfl

/-- The content of a value, under the name of its type, is the value. -/
theorem ofContent?_content {v : Value} {content : Json} (hexact : v.Exact)
    (hfinite : v.isFinite = true) (h : v.content? = some content) :
    ofContent? v.typeName content = some v := by
  cases v with
  | null => cases h
  | bool b =>
      cases h
      rfl
  | int16 n =>
      cases h
      have hn : (JsonNumber.ofInt n.toInt).between? (Integer.least 16) (Integer.greatest 16) =
          some n.toInt :=
        Json.between?_ofInt (by decide) n.le_toInt (Int.le_sub_one_of_lt n.toInt_lt)
      simp [typeName, Json.ofInt, ofContent?, hn]
  | int32 n =>
      cases h
      have hn : (JsonNumber.ofInt n.toInt).between? (Integer.least 32) (Integer.greatest 32) =
          some n.toInt :=
        Json.between?_ofInt (by decide) n.le_toInt (Int.le_sub_one_of_lt n.toInt_lt)
      simp [typeName, Json.ofInt, ofContent?, hn]
  | int64 n =>
      cases h
      have hn : (JsonNumber.ofInt n.toInt).between? (Integer.least 64) (Integer.greatest 64) =
          some n.toInt :=
        Json.between?_ofInt (by decide) n.le_toInt (Int.le_sub_one_of_lt n.toInt_lt)
      simp [typeName, Json.ofInt, ofContent?, hn]
  | float32 x =>
      cases h
      obtain ⟨n, hn⟩ := exists_number_of_isFinite .single hfinite
      have hread := hexact n hn
      rw [hn]
      simp [typeName, ofContent?, hread]
  | float64 x =>
      cases h
      obtain ⟨n, hn⟩ := exists_number_of_isFinite .double hfinite
      have hread := hexact n hn
      rw [hn]
      simp [typeName, ofContent?, hread]
  | string s =>
      cases h
      rfl
  | date d =>
      cases h
      simp [typeName, ofContent?, Calendar.readDate_yearFirst]
  | timestamp t =>
      cases h
      simp [typeName, ofContent?, Calendar.readTimestamp_yearFirstTime]

/-- A record of a type and a content is read by its content. -/
theorem ofJson?_record (type : String) (content : Json) :
    ofJson? (.object [("type", .string type), ("value", content)]) = ofContent? type content := by
  rw [ofJson?, Json.record?_object (by simp)]
  rfl

theorem ofJson?_toJson_null : ofJson? (toJson .null) = some .null := by
  rw [ofJson?, toJson]
  simp only [content?]
  rw [Json.record?_object (by simp)]
  rfl

theorem ofJson?_toJson {v : Value} (hexact : v.Exact) (hfinite : v.isFinite = true) :
    ofJson? v.toJson = some v := by
  cases hcontent : v.content? with
  | none =>
      cases v with
      | null => exact ofJson?_toJson_null
      | _ => cases hcontent
  | some content =>
      rw [toJson, hcontent, ofJson?_record, ofContent?_content hexact hfinite hcontent]

/-- What is not finite has null for its content, and null is no number. -/
theorem ofJson?_toJson_of_not_isFinite {v : Value} (h : v.isFinite = false) :
    ofJson? v.toJson = none := by
  cases v with
  | float32 x =>
      rw [toJson, content?, ofBinary_of_not_isFinite .single h]
      exact ofJson?_record "float32" .null
  | float64 x =>
      rw [toJson, content?, ofBinary_of_not_isFinite .double h]
      exact ofJson?_record "float64" .null
  | _ => cases h

/-- A list of values is read back if all of them are finite, and not read at all otherwise. -/
theorem list?_map_toJson {vs : List Value} (hexact : ∀ v ∈ vs, v.Exact) :
    Json.list? ofJson? (.array (vs.map toJson)) = if vs.all isFinite then some vs else none := by
  split
  · rename_i hfinite
    rw [List.all_eq_true] at hfinite
    exact Json.list?_map_eq_some.mpr fun v hv => ofJson?_toJson (hexact v hv) (hfinite v hv)
  · rename_i hfinite
    obtain ⟨v, hv, hvfinite⟩ : ∃ v ∈ vs, v.isFinite = false := by simpa using hfinite
    exact Json.list?_map_eq_none ⟨v, hv, ofJson?_toJson_of_not_isFinite hvfinite⟩

theorem exact_of_not_isBinary {v : Value} (h : v.isBinary = false) :
    v.Exact ∧ v.isFinite = true := by
  cases v with
  | float32 x => cases h
  | float64 x => cases h
  | _ => exact ⟨trivial, rfl⟩

/-- Every value that is no float is read back from the text of its JSON form. -/
theorem read_text_of_not_isBinary {v : Value} (h : v.isBinary = false) :
    (Json.parse? v.toJson.compact).bind ofJson? = some v := by
  obtain ⟨hexact, hfinite⟩ := exact_of_not_isBinary h
  rw [Json.parse?_compact, Option.bind_some, ofJson?_toJson hexact hfinite]

/-- Half a millisecond after the start of a leap second, in the first year of all. -/
def leapSecond : Calendar.Timestamp :=
  ⟨⟨-262143, 6, 30, by decide⟩, 23, 59, 60, 500000, by decide⟩

theorem read_text_leapSecond :
    isBinary (.timestamp leapSecond) = false ∧
      (Json.parse? (toJson (.timestamp leapSecond)).compact).bind ofJson? =
        some (.timestamp leapSecond) :=
  ⟨rfl, read_text_of_not_isBinary rfl⟩

end GuardedQuery.Value
