import GuardedQuery.Calendar.Pattern
import GuardedQuery.Proofs.Except
import GuardedQuery.Proofs.Number.Digits

/-! # Reading what a pattern has written

Reading is lenient, so a part could take in the beginning of what is written behind it. A pattern is
separated if no part does, which can be seen from the characters that a text may begin with. What a
separated pattern has written, it reads back. -/

namespace GuardedQuery.Calendar

open Digit (Stops paddedDigits)

/-! ### Numbers -/

theorem takeDigits_map_char_append {limit : Nat} {ds : List Digit} {rest : List Char}
    (hle : ds.length ≤ limit) (hrest : ds.length = limit ∨ Stops rest) :
    takeDigits limit (ds.map Digit.char ++ rest) = (ds, rest) := by
  induction ds generalizing limit with
  | nil =>
      cases limit with
      | zero => rfl
      | succ limit =>
          have hstops : Stops rest := hrest.resolve_left (by simp)
          cases rest with
          | nil => rfl
          | cons c cs => simp [takeDigits, hstops c rfl]
  | cons d ds ih =>
      cases limit with
      | zero => simp at hle
      | succ limit =>
          have hds := ih (by simpa using hle) (by simpa using hrest)
          simp [takeDigits, hds]

theorem readNumber_map_char_append {limit : Nat} {ds : List Digit} (rest : List Char)
    (hne : ds ≠ []) (hle : ds.length ≤ limit) (hrest : ds.length = limit ∨ Stops rest) :
    readNumber limit (ds.map Digit.char ++ rest) = .ok (ds, rest) := by
  cases ds with
  | nil => exact absurd rfl hne
  | cons d ds =>
      have htake := takeDigits_map_char_append hle hrest
      rw [List.map_cons, List.cons_append] at htake ⊢
      simp only [readNumber, htake]

/-- Two digits are read back whatever follows them. -/
theorem readSmall_padded {least greatest n : Nat} (hn : n < 100) (hleast : least ≤ n)
    (hgreatest : n ≤ greatest) (rest : List Char) :
    readSmall least greatest (Digit.padded 2 n ++ rest) = .ok (n, rest) := by
  have hlength : (paddedDigits 2 n).length = 2 := Digit.length_paddedDigits (by decide) hn
  have hread := readNumber_map_char_append rest (Digit.paddedDigits_ne_nil 2 n)
    (Nat.le_of_eq hlength) (.inl hlength)
  rw [Digit.padded_eq, readSmall, hread]
  simp [hleast, hgreatest]

/-- A signed year takes in all digits that follow. -/
theorem readYear_signed (negative : Bool) (n : Nat) {rest : List Char} (h : Stops rest) :
    readYear ((if negative then '-' else '+') :: (Digit.padded 4 n ++ rest)) =
      .ok (if negative then -(n : Int) else n, rest) := by
  have hlength : (paddedDigits 4 n).length ≤ (Digit.padded 4 n ++ rest).length := by
    simp [Digit.padded_eq]
  have hread := readNumber_map_char_append rest (Digit.paddedDigits_ne_nil 4 n) hlength (.inr h)
  rw [← Digit.padded_eq] at hread
  cases negative with
  | true => simp only [if_true, readYear, hread, except_ok_bind, Digit.toNat_paddedDigits]
  | false =>
      simp only [Bool.false_eq_true, if_false, readYear, hread, except_ok_bind,
        Digit.toNat_paddedDigits]

theorem readYear_yearChars (year : Int) {rest : List Char} (h : Stops rest) :
    readYear (yearChars year ++ rest) = .ok (year, rest) := by
  unfold yearChars
  split
  · rename_i hyear
    have hlength : (paddedDigits 4 year.natAbs).length = 4 :=
      Digit.length_paddedDigits (by decide) (show year.natAbs < 10000 by omega)
    have hread := readNumber_map_char_append rest (Digit.paddedDigits_ne_nil 4 year.natAbs)
      (Nat.le_of_eq hlength) (.inl hlength)
    have hvalue : ((year.natAbs : Nat) : Int) = year := by omega
    rw [Digit.padded_eq]
    cases hds : paddedDigits 4 year.natAbs with
    | nil => exact absurd hds (Digit.paddedDigits_ne_nil 4 _)
    | cons d ds =>
        have hplus : d.char ≠ '+' := Digit.char_ne_of_ofChar?_eq_none (by decide) d
        have hminus : d.char ≠ '-' := Digit.char_ne_of_ofChar?_eq_none (by decide) d
        have htoNat : Digit.toNat (d :: ds) = year.natAbs := by rw [← hds, Digit.toNat_paddedDigits]
        rw [hds] at hread
        simp only [List.map_cons, List.cons_append] at hread ⊢
        simp [readYear, hplus, hminus, hread, htoNat, hvalue]
  · by_cases hneg : year < 0
    · have hvalue : -((year.natAbs : Nat) : Int) = year := by omega
      have hread := readYear_signed true year.natAbs h
      rw [if_pos rfl, if_pos rfl, hvalue] at hread
      rw [if_pos hneg]
      exact hread
    · have hvalue : ((year.natAbs : Nat) : Int) = year := by omega
      have hread := readYear_signed false year.natAbs h
      rw [if_neg Bool.false_ne_true, if_neg Bool.false_ne_true, hvalue] at hread
      rw [if_neg hneg]
      exact hread

theorem readFraction_padded (width : Nat) {n : Nat} (hwidth : 0 < width) (hle : width ≤ 9)
    (hn : n < Nat.pow 10 width) (fields : Fields) {rest : List Char} (h : Stops rest) :
    readFraction fields ('.' :: (Digit.padded width n ++ rest)) =
      .ok ({ fields with nanosecond := n * Nat.pow 10 (9 - width) }, rest) := by
  have hlength := Digit.length_paddedDigits hwidth hn
  have hread := readNumber_map_char_append rest (Digit.paddedDigits_ne_nil width n)
    (Nat.le_trans (Nat.le_of_eq hlength) hle) (.inr h)
  rw [Digit.padded_eq]
  simp [readFraction, hread, hlength, Digit.span_of_stops h]

/-- The fraction is read into its place, unless there is none. -/
theorem readFraction_fractionChars {n : Nat} (hn : n < 1000000000) (fields : Fields)
    {rest : List Char} (h : Stops rest) (hpoint : rest.head? ≠ some '.') :
    readFraction fields (fractionChars n ++ rest) =
      .ok (if n = 0 then fields else { fields with nanosecond := n }, rest) := by
  unfold fractionChars
  split
  · rename_i hzero
    cases rest with
    | nil => rfl
    | cons c cs =>
        have hc : c ≠ '.' := fun heq => hpoint (by rw [heq, List.head?_cons])
        simp [readFraction, hc]
  · rename_i hpos
    split
    · have hread := readFraction_padded 3 (by decide) (by decide)
        (show n / 1000000 < 1000 by omega) fields h
      have hvalue : n / 1000000 * Nat.pow 10 (9 - 3) = n := by
        rw [show Nat.pow 10 (9 - 3) = 1000000 from rfl]
        omega
      rw [hvalue] at hread
      simpa [hpos] using hread
    · split
      · have hread := readFraction_padded 6 (by decide) (by decide)
          (show n / 1000 < 1000000 by omega) fields h
        have hvalue : n / 1000 * Nat.pow 10 (9 - 6) = n := by
          rw [show Nat.pow 10 (9 - 6) = 1000 from rfl]
          omega
        rw [hvalue] at hread
        simpa [hpos] using hread
      · have hread := readFraction_padded 9 (by decide) (by decide)
          (show n < 1000000000 by omega) fields h
        simpa [hpos] using hread

/-! ### Parts -/

/-- Numbers that every field can hold. -/
structure Fields.InRange (fields : Fields) : Prop where
  year : Integer.least 32 ≤ fields.year ∧ fields.year ≤ Integer.greatest 32
  month : 1 ≤ fields.month ∧ fields.month ≤ 12
  day : 1 ≤ fields.day ∧ fields.day ≤ 31
  hour : fields.hour ≤ 23
  minute : fields.minute ≤ 59
  second : fields.second ≤ 60
  nanosecond : fields.nanosecond < 1000000000

/-- The numbers read so far, with the number of one more field taken from `fields`. -/
def Field.copy (fields acc : Fields) : Field → Fields
  | .year => { acc with year := fields.year }
  | .month => { acc with month := fields.month }
  | .day => { acc with day := fields.day }
  | .hour => { acc with hour := fields.hour }
  | .minute => { acc with minute := fields.minute }
  | .second => { acc with second := fields.second }

namespace Part

/-- The numbers read so far, with those of one more part taken from `fields`. -/
def copy (fields acc : Fields) : Part → Fields
  | .field f => f.copy fields acc
  | .fraction => if fields.nanosecond = 0 then acc else { acc with nanosecond := fields.nanosecond }
  | _ => acc

/-- The part does not take in a character that follows its text. -/
def stopsAt (c : Char) : Part → Bool
  | .field .year => (Digit.ofChar? c).isNone
  | .gap | .slack => !Text.isBlank c
  | .fraction => (Digit.ofChar? c).isNone && c != '.'
  | _ => true

end Part

/-- The characters with which a number may begin. -/
def Field.firsts : Field → List Char
  | .year => '-' :: '+' :: (List.finRange 10).map Digit.char
  | _ => (List.finRange 10).map Digit.char

theorem isBlank_of_mem_firsts {f : Field} {c : Char} (h : c ∈ f.firsts) :
    Text.isBlank c = false := by
  have hall : f.firsts.all (! Text.isBlank ·) = true := by cases f <;> decide
  simpa using List.all_eq_true.mp hall c h

theorem head?_padded (width n : Nat) : ∃ d : Digit, (Digit.padded width n).head? = some d.char := by
  rw [Digit.padded_eq]
  cases hds : paddedDigits width n with
  | nil => exact absurd hds (Digit.paddedDigits_ne_nil width n)
  | cons d ds => exact ⟨d, rfl⟩

theorem exists_head_fieldChars (fields : Fields) (f : Field) :
    ∃ c, (fieldChars fields f).head? = some c ∧ c ∈ f.firsts := by
  have hpadded : ∀ width n, ∃ c, (Digit.padded width n).head? = some c ∧
      c ∈ (List.finRange 10).map Digit.char := by
    intro width n
    obtain ⟨d, hd⟩ := head?_padded width n
    exact ⟨d.char, hd, List.mem_map_of_mem (List.mem_finRange d)⟩
  cases f with
  | year =>
      simp only [fieldChars, yearChars]
      split
      · obtain ⟨c, hc, hmem⟩ := hpadded 4 fields.year.natAbs
        exact ⟨c, hc, List.mem_cons_of_mem _ (List.mem_cons_of_mem _ hmem)⟩
      · split
        · exact ⟨'-', rfl, by decide⟩
        · exact ⟨'+', rfl, by decide⟩
  | month | day | hour | minute | second => exact hpadded 2 _

/-- No blank is in the way of a number. -/
theorem dropBlank_fieldChars_append (fields : Fields) (f : Field) (rest : List Char) :
    Text.dropBlank (fieldChars fields f ++ rest) = fieldChars fields f ++ rest := by
  obtain ⟨c, hc, hmem⟩ := exists_head_fieldChars fields f
  have hblank : Text.isBlank c = false := isBlank_of_mem_firsts hmem
  cases hcs : fieldChars fields f with
  | nil => rw [hcs] at hc; cases hc
  | cons d ds =>
      rw [hcs, List.head?_cons, Option.some.injEq] at hc
      subst hc
      simp [Text.dropBlank, hblank]

/-- A field is read back in front of what it stops at. -/
theorem readField_fieldChars {fields : Fields} (h : fields.InRange) (f : Field) (acc : Fields)
    {rest : List Char} (hrest : ∀ c ∈ rest.head?, (Part.field f).stopsAt c = true) :
    readField f acc (fieldChars fields f ++ rest) = .ok (f.copy fields acc, rest) := by
  cases f with
  | year =>
      have hstops : Stops rest := fun c hc => Option.isNone_iff_eq_none.mp (hrest c hc)
      simp only [readField, fieldChars, readYear_yearChars _ hstops, except_ok_bind, if_pos h.year,
        Field.copy]
  | month =>
      have hread := readSmall_padded (by have := h.month.2; omega) h.month.1 h.month.2 rest
      simp only [readField, fieldChars, hread, except_ok_bind, Field.copy]
  | day =>
      have hread := readSmall_padded (by have := h.day.2; omega) h.day.1 h.day.2 rest
      simp only [readField, fieldChars, hread, except_ok_bind, Field.copy]
  | hour =>
      have hread := readSmall_padded (by have := h.hour; omega) (Nat.zero_le _) h.hour rest
      simp only [readField, fieldChars, hread, except_ok_bind, Field.copy]
  | minute =>
      have hread := readSmall_padded (by have := h.minute; omega) (Nat.zero_le _) h.minute rest
      simp only [readField, fieldChars, hread, except_ok_bind, Field.copy]
  | second =>
      have hread := readSmall_padded (by have := h.second; omega) (Nat.zero_le _) h.second rest
      simp only [readField, fieldChars, hread, except_ok_bind, Field.copy]

/-- A part is read back in front of what it stops at. -/
theorem readPart_partChars {fields : Fields} (h : fields.InRange) (part : Part) (acc : Fields)
    {rest : List Char} (hrest : ∀ c ∈ rest.head?, part.stopsAt c = true) :
    readPart part acc (partChars fields part ++ rest) = .ok (part.copy fields acc, rest) := by
  cases part with
  | field f =>
      simp only [readPart, partChars, dropBlank_fieldChars_append]
      exact readField_fieldChars h f acc hrest
  | literal c => simp [readPart, partChars, Part.copy]
  | gap | slack =>
      have hrest : Text.dropBlank rest = rest := by
        cases rest with
        | nil => rfl
        | cons c cs =>
            have hc : Text.isBlank c = false := by simpa [Part.stopsAt] using hrest c rfl
            simp [Text.dropBlank, hc]
      have hspace : Text.isBlank ' ' = true := by decide
      simpa [readPart, partChars, Part.copy, Text.dropBlank, hspace] using hrest
  | fraction =>
      have hstops : Stops rest := by
        intro c hc
        have hc := hrest c hc
        rw [Part.stopsAt, Bool.and_eq_true] at hc
        exact Option.isNone_iff_eq_none.mp hc.1
      have hpoint : rest.head? ≠ some '.' := by
        intro hhead
        exact absurd (hrest '.' hhead) (by decide)
      exact readFraction_fractionChars h.nanosecond acc hstops hpoint

/-! ### Patterns -/

/-- The characters with which a text of a pattern may begin. -/
def firsts : List Part → List Char
  | [] => []
  | .field f :: _ => f.firsts
  | .literal c :: _ => [c]
  | .gap :: _ => [' ']
  | .slack :: pattern => firsts pattern
  | .fraction :: pattern => '.' :: firsts pattern

theorem head?_fractionChars {n : Nat} (h : n ≠ 0) : (fractionChars n).head? = some '.' := by
  unfold fractionChars
  rw [if_neg h]
  split
  · rfl
  · split <;> rfl

theorem mem_firsts {pattern : List Part} {fields : Fields} {c : Char}
    (h : (write pattern fields).head? = some c) : c ∈ firsts pattern := by
  induction pattern with
  | nil => simp [write] at h
  | cons part pattern ih =>
      rw [write, List.flatMap_cons, ← write] at h
      cases part with
      | field f =>
          obtain ⟨d, hd, hmem⟩ := exists_head_fieldChars fields f
          rw [partChars, List.head?_append, hd, Option.some_or, Option.some.injEq] at h
          exact h ▸ hmem
      | literal d =>
          rw [← Option.some.inj h]
          exact List.mem_cons_self
      | gap =>
          rw [← Option.some.inj h]
          exact List.mem_cons_self
      | slack => exact ih h
      | fraction =>
          by_cases hzero : fields.nanosecond = 0
          · have hnil : partChars fields .fraction = [] := by
              simp [partChars, fractionChars, hzero]
            rw [hnil, List.nil_append] at h
            exact List.mem_cons_of_mem _ (ih h)
          · rw [partChars, List.head?_append, head?_fractionChars hzero, Option.some_or,
              Option.some.injEq] at h
            exact h ▸ List.mem_cons_self

/-- No part takes in the beginning of what is written behind it. -/
def separated : List Part → Bool
  | [] => true
  | part :: pattern => (firsts pattern).all (part.stopsAt ·) && separated pattern

/-- The numbers that a text of a pattern holds. -/
def carried (pattern : List Part) (fields : Fields) : Fields :=
  pattern.foldl (fun acc part => part.copy fields acc) .start

theorem readParts_write {fields : Fields} (hrange : fields.InRange) {pattern : List Part}
    (h : separated pattern = true) (acc : Fields) :
    readParts pattern acc (write pattern fields) =
      .ok (pattern.foldl (fun acc part => part.copy fields acc) acc, []) := by
  induction pattern generalizing acc with
  | nil => rfl
  | cons part pattern ih =>
      rw [separated, Bool.and_eq_true, List.all_eq_true] at h
      have hrest : ∀ c ∈ (write pattern fields).head?, part.stopsAt c = true :=
        fun c hc => h.1 c (mem_firsts hc)
      have hwrite : write (part :: pattern) fields =
          partChars fields part ++ write pattern fields := List.flatMap_cons
      rw [hwrite, readParts, readPart_partChars hrange part acc hrest]
      exact ih h.2 (part.copy fields acc)

/-- What a separated pattern has written is read back. -/
theorem read_write {fields : Fields} (hrange : fields.InRange) {pattern : List Part}
    (h : separated pattern = true) :
    read pattern (write pattern fields) = .ok (carried pattern fields) := by
  rw [read, readParts_write hrange h]
  rfl

/-! ### Dates and timestamps -/

theorem daysIn_le (year : Int) (month : Nat) : daysIn year month ≤ 31 := by
  unfold daysIn
  split
  · split <;> decide
  all_goals decide

theorem month_le_of_isDay {year : Int} {month day : Nat} (h : IsDay year month day) :
    1 ≤ month ∧ month ≤ 12 := by
  obtain ⟨-, -, hday, hdays⟩ := h
  unfold daysIn at hdays
  split at hdays <;> omega

theorem Fields.inRange_ofDate (d : Date) : (Fields.ofDate d).InRange where
  year := by
    have hleast : Integer.least 32 ≤ leastYear := by decide
    have hgreatest : greatestYear ≤ Integer.greatest 32 := by decide
    exact ⟨Int.le_trans hleast d.isDay.1, Int.le_trans d.isDay.2.1 hgreatest⟩
  month := month_le_of_isDay d.isDay
  day := ⟨d.isDay.2.2.1, Nat.le_trans d.isDay.2.2.2 (daysIn_le _ _)⟩
  hour := Nat.zero_le _
  minute := Nat.zero_le _
  second := Nat.zero_le _
  nanosecond := Nat.zero_lt_succ _

theorem Fields.inRange_ofTimestamp (t : Timestamp) : (Fields.ofTimestamp t).InRange where
  year := (inRange_ofDate t.date).year
  month := (inRange_ofDate t.date).month
  day := (inRange_ofDate t.date).day
  hour := Nat.le_of_lt_succ t.isTime.1
  minute := Nat.le_of_lt_succ t.isTime.2.1
  second := t.isTime.2.2.1
  nanosecond := t.isTime.2.2.2

/-- A date is read back by every separated pattern that holds its numbers. -/
theorem readDate_writeDate {pattern : List Part} (h : separated pattern = true) {d : Date}
    (hcarried : carried pattern (.ofDate d) = .ofDate d) :
    readDate pattern (writeDate pattern d) = .ok d := by
  rw [readDate, writeDate, read_write (Fields.inRange_ofDate d) h, hcarried]
  simp [Fields.ofDate]

/-- A timestamp is read back by every separated pattern that holds its numbers. -/
theorem readTimestamp_writeTimestamp {pattern : List Part} (h : separated pattern = true)
    {t : Timestamp} (hcarried : carried pattern (.ofTimestamp t) = .ofTimestamp t) :
    readTimestamp pattern (writeTimestamp pattern t) = .ok t := by
  rw [readTimestamp, writeTimestamp, read_write (Fields.inRange_ofTimestamp t) h, hcarried]
  simp [Fields.ofTimestamp, Fields.ofDate]

/-! ### The patterns in use -/

theorem readDate_monthFirst (d : Date) : readDate monthFirst (writeDate monthFirst d) = .ok d :=
  readDate_writeDate (by decide) rfl

theorem readDate_yearFirst (d : Date) : readDate yearFirst (writeDate yearFirst d) = .ok d :=
  readDate_writeDate (by decide) rfl

/-- This pattern has no place for a fraction of a second. -/
theorem readTimestamp_monthFirstTime {t : Timestamp} (h : t.nanosecond = 0) :
    readTimestamp monthFirstTime (writeTimestamp monthFirstTime t) = .ok t := by
  refine readTimestamp_writeTimestamp (by decide) ?_
  simp only [Fields.ofTimestamp, h]
  rfl

theorem readTimestamp_yearFirstTime (t : Timestamp) :
    readTimestamp yearFirstTime (writeTimestamp yearFirstTime t) = .ok t := by
  refine readTimestamp_writeTimestamp (by decide) ?_
  by_cases h : t.nanosecond = 0
  · simp only [Fields.ofTimestamp, h]
    rfl
  · simp [carried, yearFirstTime, yearFirst, Part.copy, Field.copy, Fields.ofTimestamp,
      Fields.ofDate, h]

end GuardedQuery.Calendar
