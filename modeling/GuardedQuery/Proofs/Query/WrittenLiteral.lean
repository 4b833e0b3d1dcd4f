import GuardedQuery.Catalog.Validation
import GuardedQuery.Proofs.Calendar.Pattern
import GuardedQuery.Proofs.Number.Integer
import GuardedQuery.Proofs.Text.Trimming
import GuardedQuery.Query.Literal

/-! # Literals that spell a value

The text of a value is a literal of the value, with blanks around it unless it is a text itself. The
text has no blank at its ends, so trimming leaves it to the reader of its type, which takes it back
to the value. -/

namespace GuardedQuery

open Text (isBlank Bare)

/-! ### Texts without blanks at their ends -/

theorem Digit.isBlank_char : ∀ d : Digit, isBlank d.char = false := by
  decide

theorem Digit.isBlank_of_mem_map_char {ds : List Digit} {c : Char} (h : c ∈ ds.map char) :
    isBlank c = false := by
  obtain ⟨d, -, rfl⟩ := List.mem_map.mp h
  exact isBlank_char d

theorem Integer.bare_chars (z : Int) : Bare (chars z) := by
  refine Text.bare_of_no_blank fun c hc => ?_
  unfold chars at hc
  split at hc
  · rcases List.mem_cons.mp hc with rfl | hc
    · decide
    · exact Digit.isBlank_of_mem_map_char hc
  · exact Digit.isBlank_of_mem_map_char hc

namespace Calendar

theorem isBlank_of_mem_padded {width n : Nat} {c : Char} (h : c ∈ Digit.padded width n) :
    isBlank c = false := by
  rw [Digit.padded_eq] at h
  exact Digit.isBlank_of_mem_map_char h

theorem bare_fieldChars (fields : Fields) (f : Field) : Bare (fieldChars fields f) := by
  refine Text.bare_of_no_blank fun c hc => ?_
  cases f with
  | year =>
      simp only [fieldChars, yearChars] at hc
      split at hc
      · exact isBlank_of_mem_padded hc
      · rcases List.mem_cons.mp hc with rfl | hc
        · split <;> decide
        · exact isBlank_of_mem_padded hc
  | month | day | hour | minute | second => exact isBlank_of_mem_padded hc

theorem fieldChars_ne_nil (fields : Fields) (f : Field) : fieldChars fields f ≠ [] := by
  obtain ⟨c, hc, -⟩ := exists_head_fieldChars fields f
  intro hnil
  rw [hnil] at hc
  cases hc

/-- A pattern that starts and ends with a number has no blank at its ends. -/
theorem bare_write {pattern : List Part} {first last : Field}
    (hfirst : pattern.head? = some (.field first)) (hlast : pattern.getLast? = some (.field last))
    (fields : Fields) : Bare (write pattern fields) where
  head c hc := by
    obtain ⟨rest, rfl⟩ := List.head?_eq_some_iff.mp hfirst
    rw [write, List.flatMap_cons, partChars,
      List.head?_append_of_ne_nil _ (fieldChars_ne_nil fields first)] at hc
    exact (bare_fieldChars fields first).head c hc
  last c hc := by
    obtain ⟨front, rfl⟩ := List.getLast?_eq_some_iff.mp hlast
    rw [write, List.flatMap_append, List.flatMap_singleton, partChars,
      List.getLast?_append_of_ne_nil _ (fieldChars_ne_nil fields last)] at hc
    exact (bare_fieldChars fields last).last c hc

end Calendar

/-! ### Values and the literals of a type -/

/-- The values of a type whose texts are literals of it. A literal of a timestamp has no place for a
fraction of a second. -/
inductive ValueType.Spells : ValueType → Value → Prop
  | text (s : String) : Spells .text (.string s)
  | boolean (b : Bool) : Spells .boolean (.bool b)
  | int16 (n : Int16) : Spells .int16 (.int16 n)
  | int32 (n : Int32) : Spells .int32 (.int32 n)
  | int64 (n : Int64) : Spells .int64 (.int64 n)
  | date (d : Calendar.Date) : Spells .date (.date d)
  | timestamp (t : Calendar.Timestamp) (h : t.nanosecond = 0) : Spells .timestamp (.timestamp t)

theorem ValueType.Spells.bare {type : ValueType} {v : Value} (h : type.Spells v)
    (htext : type ≠ .text) : Bare v.chars := by
  cases h with
  | text s => exact absurd rfl htext
  | boolean b =>
      have hall : (Value.bool b).chars.all (! isBlank ·) = true := by cases b <;> decide
      refine Text.bare_of_no_blank fun c hc => ?_
      simpa using List.all_eq_true.mp hall c hc
  | int16 n => exact Integer.bare_chars n.toInt
  | int32 n => exact Integer.bare_chars n.toInt
  | int64 n => exact Integer.bare_chars n.toInt
  | date d => exact Calendar.bare_write rfl rfl (.ofDate d)
  | timestamp t _ => exact Calendar.bare_write rfl rfl (.ofTimestamp t)

namespace LiteralReaders

theorem readInteger_of_trimChars (bits : Nat) {z : Int} {literal : String}
    (hleast : Integer.least bits ≤ z) (hgreatest : z ≤ Integer.greatest bits)
    (h : Text.trimChars literal.toList = Integer.chars z) :
    readInteger (Integer.least bits) (Integer.greatest bits) literal = .ok z := by
  rw [readInteger, h, Integer.read_chars hleast hgreatest, except_mapError_ok]

theorem readBool_of_trimChars {b : Bool} {literal : String}
    (h : Text.trimChars literal.toList = (if b then "true" else "false").toList) :
    readBool literal = .ok b := by
  have htrim : Text.trim literal = if b then "true" else "false" := by
    rw [Text.trim, h, String.ofList_toList]
  rw [readBool, htrim]
  cases b <;> decide

end LiteralReaders

namespace Literal

variable {a : Attribute} {v : Value} {literal : String}

theorem read_of_reader {readers : LiteralReaders} {reader : LiteralReader}
    (hneeds : Catalog.needsReader a.type = true) (hget : readers.get? a.type.tag = some reader)
    (hread : reader literal = .ok v) : read a literal readers = .ok (.single v) := by
  cases hkind : a.type.kind with
  | number | boolean | custom => simp only [read, hkind, hget, hread]
  | _ => simp [Catalog.needsReader, hkind] at hneeds

/-- A literal is read by what is left of it between its blanks. -/
theorem read_of_trimChars (h : a.type.Spells v) (htext : a.type ≠ .text)
    (hliteral : Text.trimChars literal.toList = v.chars) :
    read a literal .builtin = .ok (.single v) := by
  -- the cases are on the type, so it must not be a field of the attribute
  generalize htype : a.type = type at h htext
  cases h with
  | text s => exact absurd rfl htext
  | boolean b =>
      have hread := LiteralReaders.readBool_of_trimChars hliteral
      apply read_of_reader (by rw [htype]; rfl) (by rw [htype]; rfl)
      rw [LiteralReaders.boolReader, hread, except_map_ok]
  | int16 n =>
      have hread := LiteralReaders.readInteger_of_trimChars 16 n.le_toInt
        (Int.le_sub_one_of_lt n.toInt_lt) hliteral
      apply read_of_reader (by rw [htype]; rfl) (by rw [htype]; rfl)
      rw [LiteralReaders.int16Reader, hread, except_map_ok, Int16.ofInt_toInt]
  | int32 n =>
      have hread := LiteralReaders.readInteger_of_trimChars 32 n.le_toInt
        (Int.le_sub_one_of_lt n.toInt_lt) hliteral
      apply read_of_reader (by rw [htype]; rfl) (by rw [htype]; rfl)
      rw [LiteralReaders.int32Reader, hread, except_map_ok, Int32.ofInt_toInt]
  | int64 n =>
      have hread := LiteralReaders.readInteger_of_trimChars 64 n.le_toInt
        (Int.le_sub_one_of_lt n.toInt_lt) hliteral
      apply read_of_reader (by rw [htype]; rfl) (by rw [htype]; rfl)
      rw [LiteralReaders.int64Reader, hread, except_map_ok, Int64.ofInt_toInt]
  | date d =>
      have hread := Calendar.readDate_monthFirst d
      simp only [Value.chars] at hliteral
      simp only [read, htype, ValueType.kind, hliteral, hread]
  | timestamp t h =>
      have hread := Calendar.readTimestamp_monthFirstTime h
      simp only [Value.chars] at hliteral
      simp only [read, htype, ValueType.kind, hliteral, hread]

/-- The text of a value is read as the value under one placeholder, whatever blanks stand around it;
a text takes its blanks into the value. -/
theorem read_text_of_spells (h : a.type.Spells v) {front back : String}
    (hfront : Text.allBlank front = true) (hback : Text.allBlank back = true)
    (htext : a.type = .text → front = "" ∧ back = "") :
    read a (front ++ v.text ++ back) .builtin = .ok ⟨" ?", [v]⟩ := by
  by_cases hplain : a.type = .text
  · obtain ⟨rfl, rfl⟩ := htext hplain
    rw [hplain] at h
    cases h with
    | text s => simp [read, hplain, ValueType.kind, Value.text, Value.chars, ParsedLiteral.single]
  · apply read_of_trimChars h hplain
    have htrim := Text.trimChars_append_append (h.bare hplain) (List.all_eq_true.mp hfront)
      (List.all_eq_true.mp hback)
    simpa [Value.text] using htrim

/-- The leap second at the end of a negative year. -/
def lastSecond : Calendar.Timestamp :=
  ⟨⟨-44, 12, 31, by decide⟩, 23, 59, 60, 0, by decide⟩

theorem read_lastSecond :
    ValueType.Spells .timestamp (.timestamp lastSecond) ∧ Text.allBlank "\t " = true ∧
      Text.allBlank "\n" = true ∧
      read (.new "closed" "Closed" .timestamp) ("\t " ++ (Value.timestamp lastSecond).text ++ "\n")
        .builtin = .ok ⟨" ?", [.timestamp lastSecond]⟩ :=
  ⟨.timestamp lastSecond rfl, by decide, by decide,
    read_text_of_spells (.timestamp lastSecond rfl) (by decide) (by decide) (by decide)⟩

end Literal

end GuardedQuery
