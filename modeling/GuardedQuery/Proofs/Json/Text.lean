import GuardedQuery.Json.Parser
import GuardedQuery.Json.Printer
import GuardedQuery.Proofs.Except
import GuardedQuery.Proofs.Number.Digits

/-! # The text of a JSON tree

The compact text of a tree is read back as the tree. Strings and containers carry their own ends; a
number ends where the text behind it cannot belong to a number, which is so behind every place where
a compact text has one. -/

namespace GuardedQuery.Json

open Digit (Stops)

/-! ### Strings -/

/-- One more code unit in front of what is read from the rest. -/
def consUnit (unit : CodeUnit) (read : Option (List CodeUnit × List Char)) :
    Option (List CodeUnit × List Char) :=
  read.map fun (units, rest) => (unit :: units, rest)

theorem stringUnits_escape {letter c : Char} (hletter : letter ≠ 'u')
    (h : escape? letter = some c) (rest : List Char) :
    stringUnits ('\\' :: letter :: rest) = consUnit (.char c) (stringUnits rest) := by
  rw [stringUnits, h]
  · cases stringUnits rest <;> rfl
  · intro _ _ _ _ _ hu
    exact absurd hu hletter

theorem stringUnits_number {a b c d : Char} {unit : CodeUnit} (h : hexUnit? a b c d = some unit)
    (rest : List Char) :
    stringUnits ('\\' :: 'u' :: a :: b :: c :: d :: rest) = consUnit unit (stringUnits rest) := by
  rw [stringUnits, h]
  cases stringUnits rest <;> rfl

theorem stringUnits_plain {c : Char} (hquote : c ≠ '"') (hbackslash : c ≠ '\\')
    (h : ¬ c.toNat < 0x20) (rest : List Char) :
    stringUnits (c :: rest) = consUnit (.char c) (stringUnits rest) := by
  rw [stringUnits, if_neg h]
  · cases stringUnits rest <;> rfl
  · exact hquote
  · intro _ _ _ _ _ hc
    exact absurd hc hbackslash
  · intro _ _ hc
    exact absurd hc hbackslash

theorem hexUnit?_control :
    ∀ n < 0x20, hexUnit? '0' '0' (n / 16).digitChar (n % 16).digitChar =
      some (.char (Char.ofNat n)) := by
  decide

/-- A character that is written is read as one. -/
theorem stringUnits_escapeChar_append (c : Char) (rest : List Char) :
    stringUnits (escapeChar c ++ rest) = consUnit (.char c) (stringUnits rest) := by
  unfold escapeChar
  iterate 7
    split
    · subst_vars
      exact stringUnits_escape (by decide) rfl rest
  rename_i hquote hbackslash _ _ _ _ _
  split
  · rename_i hcontrol
    have hunit := hexUnit?_control c.toNat hcontrol
    rw [Char.ofNat_toNat] at hunit
    exact stringUnits_number hunit rest
  · rename_i hplain
    exact stringUnits_plain hquote hbackslash hplain rest

theorem stringUnits_flatMap_escapeChar (cs rest : List Char) :
    stringUnits (cs.flatMap escapeChar ++ '"' :: rest) = some (cs.map .char, rest) := by
  induction cs with
  | nil => rw [List.flatMap_nil, List.nil_append, stringUnits, List.map_nil]
  | cons c cs ih =>
      rw [List.flatMap_cons, List.append_assoc, stringUnits_escapeChar_append, ih]
      rfl

theorem pairHalves_map_char (cs : List Char) : pairHalves (cs.map .char) = some cs := by
  induction cs with
  | nil => rfl
  | cons c cs ih => rw [List.map_cons, pairHalves, ih, Option.map_some]

/-- A string is read up to its closing quote. -/
theorem readString_append (s : String) (rest : List Char) :
    readString (s.toList.flatMap escapeChar ++ '"' :: rest) = some (some s, rest) := by
  simp [readString, stringUnits_flatMap_escapeChar, pairHalves_map_char]

/-! ### Numbers -/

/-- The text does not go on with a character that a number could take in. -/
def Closes (cs : List Char) : Prop :=
  ∀ c ∈ cs.head?, Digit.ofChar? c = none ∧ c ≠ '.' ∧ c ≠ 'e' ∧ c ≠ 'E'

theorem closes_nil : Closes [] := by simp [Closes]

theorem closes_cons {c : Char} (hdigit : Digit.ofChar? c = none)
    (hmark : c ≠ '.' ∧ c ≠ 'e' ∧ c ≠ 'E') (cs : List Char) : Closes (c :: cs) := by
  simp [Closes, hdigit, hmark]

theorem Closes.stops {cs : List Char} (h : Closes cs) : Stops cs :=
  fun c hc => (h c hc).1

theorem readExponent_append (exponent : Option Int) {rest : List Char} (h : Closes rest) :
    readExponent (exponentChars exponent ++ rest) = some (exponent, rest) := by
  cases exponent with
  | none =>
      cases rest with
      | nil => rfl
      | cons c cs =>
          obtain ⟨-, -, he, hE⟩ := h c rfl
          simp [exponentChars, readExponent, he, hE]
  | some e =>
      have hspan := Digit.span_chars_append e.natAbs h.stops
      cases hds : Digit.ofNat e.natAbs with
      | nil => exact absurd hds (Digit.ofNat_ne_nil _)
      | cons d ds =>
          have hvalue : Digit.toNat (d :: ds) = e.natAbs := by rw [← hds, Digit.toNat_ofNat]
          rw [hds] at hspan
          by_cases hneg : e < 0
          · have hsign : -(Digit.toNat (d :: ds) : Int) = e := by omega
            simp [exponentChars, readExponent, hneg, hspan, hsign]
          · have hsign : (Digit.toNat (d :: ds) : Int) = e := by omega
            simp [exponentChars, readExponent, hneg, hspan, hsign]

theorem closes_exponentChars_append (exponent : Option Int) {rest : List Char} (h : Closes rest) :
    Stops (exponentChars exponent ++ rest) ∧ (exponentChars exponent ++ rest).head? ≠ some '.' := by
  cases exponent with
  | none => exact ⟨h.stops, fun hpoint => (h '.' hpoint).2.1 rfl⟩
  | some e => exact ⟨Digit.stops_cons (by decide) _, by simp [exponentChars]⟩

/-- The digits behind the point, with the point if there are any. -/
def fractionChars (fraction : List Digit) : List Char :=
  if fraction.isEmpty then [] else '.' :: fraction.map Digit.char

theorem readFraction_append (fraction : List Digit) {rest : List Char} (h : Stops rest)
    (hpoint : rest.head? ≠ some '.') :
    readFraction (fractionChars fraction ++ rest) = some (fraction, rest) := by
  cases fraction with
  | nil =>
      cases rest with
      | nil => rfl
      | cons c cs =>
          have hc : c ≠ '.' := fun heq => hpoint (by rw [heq, List.head?_cons])
          simp [fractionChars, readFraction, hc]
  | cons d ds =>
      have hspan := Digit.span_map_char_append (d :: ds) h
      simp only [fractionChars, List.isEmpty_cons, Bool.false_eq_true, if_false, List.cons_append,
        readFraction, hspan]

theorem stops_fractionChars_append (fraction : List Digit) {rest : List Char} (h : Stops rest) :
    Stops (fractionChars fraction ++ rest) := by
  cases fraction with
  | nil => exact h
  | cons d ds => exact Digit.stops_cons (by decide) _

/-- A number is read up to a text that cannot belong to it. -/
theorem readNumber_numberChars (n : JsonNumber) {rest : List Char} (h : Closes rest) :
    readNumber (numberChars n ++ rest) = some (n, rest) := by
  obtain ⟨negative, whole, fraction, exponent⟩ := n
  obtain ⟨hstops, hpoint⟩ := closes_exponentChars_append exponent h
  have hspan := Digit.span_chars_append whole (stops_fractionChars_append fraction hstops)
  have hfraction := readFraction_append fraction hstops hpoint
  have hexponent := readExponent_append exponent h
  have hwhole : ¬ (Digit.ofNat whole = [] ∨
      (Digit.ofNat whole).head? = some 0 ∧ (Digit.ofNat whole).length ≠ 1) := by
    rintro (hnil | ⟨hzero, hlength⟩)
    · exact Digit.ofNat_ne_nil whole hnil
    · exact hlength (Digit.length_ofNat_of_head? hzero)
  have htext : numberChars ⟨negative, whole, fraction, exponent⟩ ++ rest =
      (if negative then ['-'] else []) ++
        (Digit.chars whole ++ (fractionChars fraction ++ (exponentChars exponent ++ rest))) := by
    simp only [numberChars, fractionChars, List.append_assoc]
  rw [htext]
  cases negative with
  | true => simp [readNumber, hspan, hwhole, hfraction, hexponent]
  | false =>
      obtain ⟨d, ds, hchars⟩ := Digit.exists_chars_eq_cons whole
      have hsign : d.char ≠ '-' := Digit.char_ne_of_ofChar?_eq_none (by decide) d
      rw [hchars] at hspan ⊢
      simp only [List.cons_append] at hspan
      simp [readNumber, hsign, hspan, hwhole, hfraction, hexponent]

/-! ### Trees -/

/-- Induction over the trees inside a tree. -/
@[elab_as_elim]
protected theorem induction {P : Json → Prop} (null : P .null) (bool : ∀ b, P (.bool b))
    (number : ∀ n, P (.number n)) (string : ∀ s, P (.string s))
    (array : ∀ items, (∀ j ∈ items, P j) → P (.array items))
    (object : ∀ fields, (∀ field ∈ fields, P field.2) → P (.object fields))
    (unreadable : P .unreadable) (j : Json) : P j := by
  match j with
  | .null => exact null
  | .bool b => exact bool b
  | .number n => exact number n
  | .string s => exact string s
  | .array items =>
      apply array items
      intro k hk
      have hsize := List.sizeOf_lt_of_mem hk
      exact Json.induction null bool number string array object unreadable k
  | .object fields =>
      apply object fields
      intro field hfield
      have hsize := List.sizeOf_lt_of_mem hfield
      exact Json.induction null bool number string array object unreadable field.2
  | .unreadable => exact unreadable
termination_by sizeOf j
decreasing_by
  · simp only [Json.array.sizeOf_spec]
    omega
  · obtain ⟨name, k⟩ := field
    simp only [Json.object.sizeOf_spec, Prod.mk.sizeOf_spec] at hsize ⊢
    omega

theorem compactChars_number (n : JsonNumber) : compactChars (.number n) = numberChars n := rfl

theorem compactChars_string (s : String) : compactChars (.string s) = stringChars s := rfl

theorem compactChars_array (items : List Json) :
    compactChars (.array items) = '[' :: (compactItems items ++ [']']) := rfl

theorem compactChars_object (fields : List (String × Json)) :
    compactChars (.object fields) = '\x7b' :: (compactFields fields ++ ['\x7d']) := rfl

theorem skipSpace_cons {c : Char} (h : isSpace c = false) (cs : List Char) :
    skipSpace (c :: cs) = c :: cs := by
  simp [skipSpace, h]

/-- A number starts with its sign or a digit. -/
theorem exists_numberChars_eq_cons (n : JsonNumber) :
    ∃ c cs, numberChars n = c :: cs ∧ (c = '-' ∨ ∃ d, c = Digit.char d) := by
  obtain ⟨negative, whole, fraction, exponent⟩ := n
  cases negative with
  | true => exact ⟨'-', _, rfl, .inl rfl⟩
  | false =>
      obtain ⟨d, ds, hchars⟩ := Digit.exists_chars_eq_cons whole
      refine ⟨d.char, ds ++ fractionChars fraction ++ exponentChars exponent, ?_, .inr ⟨d, rfl⟩⟩
      simp [numberChars, fractionChars, hchars]

/-- A tree starts neither with a space nor with the end of an array. -/
theorem exists_compactChars_eq_cons (j : Json) :
    ∃ c cs, compactChars j = c :: cs ∧ isSpace c = false ∧ c ≠ ']' := by
  cases j with
  | null => exact ⟨'n', "ull".toList, rfl, by decide, by decide⟩
  | bool b =>
      cases b with
      | true => exact ⟨'t', "rue".toList, rfl, by decide, by decide⟩
      | false => exact ⟨'f', "alse".toList, rfl, by decide, by decide⟩
  | number n =>
      have hdigit : ∀ d : Digit, isSpace d.char = false ∧ d.char ≠ ']' := by decide
      obtain ⟨c, cs, htext, rfl | ⟨d, rfl⟩⟩ := exists_numberChars_eq_cons n
      · exact ⟨'-', cs, htext, by decide, by decide⟩
      · exact ⟨d.char, cs, htext, hdigit d⟩
  | string s => exact ⟨'"', _, rfl, by decide, by decide⟩
  | array items => exact ⟨'[', _, rfl, by decide, by decide⟩
  | object fields => exact ⟨'\x7b', _, rfl, by decide, by decide⟩
  | unreadable => exact ⟨'"', "\\ud800\"".toList, rfl, by decide, by decide⟩

/-- Enough calls read the text of the tree as the tree. -/
def Recovers (j : Json) : Prop :=
  ∀ fuel rest, 2 * (compactChars j).length ≤ fuel → Closes rest →
    readValue fuel (compactChars j ++ rest) = some (j, rest)

theorem readItems_compactItems {items : List Json} (hne : items ≠ [])
    (h : ∀ j ∈ items, Recovers j) (fuel : Nat) (rest : List Char)
    (hfuel : 2 * (compactItems items).length < fuel) :
    readItems fuel (compactItems items ++ ']' :: rest) = some (items, rest) := by
  induction items generalizing fuel with
  | nil => exact absurd rfl hne
  | cons j items ih =>
      obtain ⟨fuel, rfl⟩ : ∃ k, fuel = k + 1 := ⟨fuel - 1, by omega⟩
      have hj := h j List.mem_cons_self
      cases items with
      | nil =>
          have hread := hj fuel (']' :: rest)
            (by rw [compactItems] at hfuel; omega) (closes_cons (by decide) (by decide) rest)
          rw [compactItems, readItems, hread]
          rfl
      | cons k items =>
          rw [compactItems, List.length_append, List.length_cons] at hfuel
          have hread := hj fuel (',' :: (compactItems (k :: items) ++ ']' :: rest)) (by omega)
            (closes_cons (by decide) (by decide) _)
          have hitems := ih (by simp) (fun j hj => h j (List.mem_cons_of_mem _ hj)) fuel
            (by omega)
          rw [compactItems, List.append_assoc, List.cons_append, readItems, hread]
          simp [skipSpace_cons (show isSpace ',' = false by decide), hitems]

theorem readFields_compactFields {fields : List (String × Json)} (hne : fields ≠ [])
    (h : ∀ field ∈ fields, Recovers field.2) (fuel : Nat) (rest : List Char)
    (hfuel : 2 * (compactFields fields).length < fuel) :
    readFields fuel (compactFields fields ++ '\x7d' :: rest) =
      some (fields.map fun field => (some field.1, field.2), rest) := by
  induction fields generalizing fuel with
  | nil => exact absurd rfl hne
  | cons field fields ih =>
      obtain ⟨name, j⟩ := field
      obtain ⟨fuel, rfl⟩ : ∃ k, fuel = k + 1 := ⟨fuel - 1, by omega⟩
      have hj : Recovers j := h (name, j) List.mem_cons_self
      have hquote : isSpace '"' = false := by decide
      have hcolon : isSpace ':' = false := by decide
      have hcomma : isSpace ',' = false := by decide
      have hbrace : isSpace '\x7d' = false := by decide
      cases fields with
      | nil =>
          rw [compactFields, List.length_append, List.length_cons] at hfuel
          have hread := hj fuel ('\x7d' :: rest) (by omega)
            (closes_cons (by decide) (by decide) rest)
          simp [compactFields, readFields, stringChars, skipSpace_cons, hquote, hcolon, hbrace,
            readString_append, hread]
      | cons field fields =>
          rw [compactFields, List.length_append, List.length_cons, List.length_append,
            List.length_cons] at hfuel
          have hread := hj fuel
            (',' :: (compactFields (field :: fields) ++ '\x7d' :: rest)) (by omega)
            (closes_cons (by decide) (by decide) _)
          have hfields := ih (by simp) (fun field hfield => h field (List.mem_cons_of_mem _ hfield))
            fuel (by omega)
          simp [compactFields, readFields, stringChars, skipSpace_cons, hquote, hcolon, hcomma,
            readString_append, hread, hfields]

/-! ### The first character decides -/

theorem readValue_null (fuel : Nat) (rest : List Char) :
    readValue (fuel + 1) ('n' :: 'u' :: 'l' :: 'l' :: rest) = some (.null, rest) := by
  rw [readValue, skipSpace_cons (by decide)]
  rfl

theorem readValue_true (fuel : Nat) (rest : List Char) :
    readValue (fuel + 1) ('t' :: 'r' :: 'u' :: 'e' :: rest) = some (.bool true, rest) := by
  rw [readValue, skipSpace_cons (by decide)]
  rfl

theorem readValue_false (fuel : Nat) (rest : List Char) :
    readValue (fuel + 1) ('f' :: 'a' :: 'l' :: 's' :: 'e' :: rest) = some (.bool false, rest) := by
  rw [readValue, skipSpace_cons (by decide)]
  rfl

theorem readValue_quote (fuel : Nat) (cs : List Char) :
    readValue (fuel + 1) ('"' :: cs) =
      (readString cs).map fun (s, rest) => ((s.map Json.string).getD .unreadable, rest) := by
  rw [readValue, skipSpace_cons (by decide)]
  cases h : readString cs with
  | none => simp [h]
  | some pair =>
      obtain ⟨s, rest⟩ := pair
      cases s <;> simp [h]

theorem readValue_bracket_closing (fuel : Nat) (rest : List Char) :
    readValue (fuel + 1) ('[' :: ']' :: rest) = some (.array [], rest) := by
  rw [readValue, skipSpace_cons (by decide)]
  simp only [skipSpace_cons (show isSpace ']' = false by decide)]

theorem readValue_bracket {c : Char} (hspace : isSpace c = false) (hc : c ≠ ']') (fuel : Nat)
    (cs : List Char) :
    readValue (fuel + 1) ('[' :: c :: cs) =
      (readItems fuel (c :: cs)).map fun (items, rest) => (.array items, rest) := by
  rw [readValue, skipSpace_cons (by decide)]
  simp only [skipSpace_cons hspace]
  split
  · rename_i heq
    exact absurd (List.cons.inj heq).1 hc
  · cases readItems fuel (c :: cs) <;> rfl

theorem readValue_brace_closing (fuel : Nat) (rest : List Char) :
    readValue (fuel + 1) ('\x7b' :: '\x7d' :: rest) = some (.object [], rest) := by
  rw [readValue, skipSpace_cons (by decide)]
  simp only [skipSpace_cons (show isSpace '\x7d' = false by decide)]

theorem readValue_brace (fuel : Nat) (cs : List Char) :
    readValue (fuel + 1) ('\x7b' :: '"' :: cs) =
      (readFields fuel ('"' :: cs)).map fun (fields, rest) => (ofFields fields, rest) := by
  rw [readValue, skipSpace_cons (by decide)]
  simp only [skipSpace_cons (show isSpace '"' = false by decide)]
  cases h : readFields fuel ('"' :: cs) <;> simp [h]

/-- The characters that decide for another form than a number. -/
def otherForms : List Char := ['n', 't', 'f', '"', '[', '\x7b']

/-- A text that starts like a number is read as one. -/
theorem readValue_of_number {c : Char} (h : c = '-' ∨ ∃ d, c = Digit.char d) (fuel : Nat)
    (cs : List Char) :
    readValue (fuel + 1) (c :: cs) =
      (readNumber (c :: cs)).map fun (n, rest) => (.number n, rest) := by
  have hdigit : ∀ d : Digit, isSpace d.char = false ∧ d.char ∉ otherForms := by decide
  have hstart : isSpace c = false ∧ c ∉ otherForms := by
    rcases h with rfl | ⟨d, rfl⟩
    · decide
    · exact hdigit d
  rw [readValue, skipSpace_cons hstart.1]
  split
  case h_7 => cases readNumber (c :: cs) <;> rfl
  -- every other branch would make its own first character the one of a number
  all_goals
    rename_i heq
    rw [(List.cons.inj heq).1] at hstart
    exact absurd hstart.2 (by decide)

/-! ### Reading trees back -/

/-- No text is empty, so there is always a first call. -/
theorem recovers_of_succ {j : Json}
    (h : ∀ fuel rest, 2 * (compactChars j).length ≤ fuel + 1 → Closes rest →
      readValue (fuel + 1) (compactChars j ++ rest) = some (j, rest)) : Recovers j := by
  intro fuel rest hfuel hrest
  obtain ⟨c, cs, htext, -⟩ := exists_compactChars_eq_cons j
  have hpos : 0 < (compactChars j).length := by rw [htext]; exact Nat.zero_lt_succ _
  obtain ⟨fuel, rfl⟩ : ∃ k, fuel = k + 1 := ⟨fuel - 1, by omega⟩
  exact h fuel rest hfuel hrest

theorem recovers_array {items : List Json} (h : ∀ j ∈ items, Recovers j) :
    Recovers (.array items) := by
  refine recovers_of_succ fun fuel rest hfuel _ => ?_
  rw [compactChars_array] at hfuel ⊢
  rw [List.cons_append, List.append_assoc, List.singleton_append]
  cases items with
  | nil => exact readValue_bracket_closing fuel rest
  | cons j items =>
      obtain ⟨c, cs, htext, hspace, hc⟩ := exists_compactChars_eq_cons j
      obtain ⟨ds, hds⟩ : ∃ ds, compactItems (j :: items) = c :: ds := by
        cases items with
        | nil => exact ⟨cs, by rw [compactItems, htext]⟩
        | cons k items => exact ⟨_, by rw [compactItems, htext, List.cons_append]⟩
      rw [List.length_cons, List.length_append, List.length_singleton] at hfuel
      have hitems := readItems_compactItems (List.cons_ne_nil j items) h fuel rest
        (by omega)
      rw [hds, List.cons_append] at hitems ⊢
      rw [readValue_bracket hspace hc, hitems]
      rfl

theorem ofFields_map (fields : List (String × Json)) :
    ofFields (fields.map fun field => (some field.1, field.2)) = .object fields := by
  rw [ofFields, List.mapM_map]
  generalize h : (List.mapM _ fields : Option (List (String × Json))) = named
  obtain rfl := h.symm.trans ((option_mapM_eq_some_map (g := id)).mpr fun _ _ => rfl)
  exact congrArg Json.object (List.map_id fields)

theorem recovers_object {fields : List (String × Json)}
    (h : ∀ field ∈ fields, Recovers field.2) : Recovers (.object fields) := by
  refine recovers_of_succ fun fuel rest hfuel _ => ?_
  rw [compactChars_object] at hfuel ⊢
  rw [List.cons_append, List.append_assoc, List.singleton_append]
  cases fields with
  | nil => exact readValue_brace_closing fuel rest
  | cons field fields =>
      obtain ⟨ds, hds⟩ : ∃ ds, compactFields (field :: fields) = '"' :: ds := by
        obtain ⟨name, j⟩ := field
        cases fields with
        | nil => exact ⟨_, rfl⟩
        | cons next fields => exact ⟨_, rfl⟩
      rw [List.length_cons, List.length_append, List.length_singleton] at hfuel
      have hfields := readFields_compactFields (List.cons_ne_nil field fields) h fuel rest
        (by omega)
      rw [hds, List.cons_append] at hfields ⊢
      rw [readValue_brace, hfields]
      exact congrArg (fun j => some (j, rest)) (ofFields_map (field :: fields))

/-- Every tree is recovered from its text. -/
theorem recovers (j : Json) : Recovers j := by
  induction j using Json.induction with
  | null => exact recovers_of_succ fun fuel rest _ _ => readValue_null fuel rest
  | bool b =>
      refine recovers_of_succ fun fuel rest _ _ => ?_
      cases b with
      | true => exact readValue_true fuel rest
      | false => exact readValue_false fuel rest
  | number n =>
      refine recovers_of_succ fun fuel rest _ hrest => ?_
      obtain ⟨c, cs, htext, hc⟩ := exists_numberChars_eq_cons n
      have hread := readNumber_numberChars n hrest
      rw [htext, List.cons_append] at hread
      rw [compactChars_number, htext, List.cons_append, readValue_of_number hc, hread,
        Option.map_some]
  | string s =>
      refine recovers_of_succ fun fuel rest _ _ => ?_
      have htext : compactChars (.string s) ++ rest =
          '"' :: (s.toList.flatMap escapeChar ++ '"' :: rest) := by
        simp [compactChars_string, stringChars]
      rw [htext, readValue_quote, readString_append]
      rfl
  | array items h => exact recovers_array h
  | object fields h => exact recovers_object h
  | unreadable =>
      refine recovers_of_succ fun fuel rest _ _ => ?_
      have hunit : hexUnit? 'd' '8' '0' '0' = some (.half 0xD800) := by decide
      have hread : readString ('\\' :: 'u' :: 'd' :: '8' :: '0' :: '0' :: '"' :: rest) =
          some (none, rest) := by
        rw [readString, stringUnits_number hunit, stringUnits]
        rfl
      have htext : compactChars .unreadable ++ rest =
          '"' :: '\\' :: 'u' :: 'd' :: '8' :: '0' :: '0' :: '"' :: rest := rfl
      rw [htext, readValue_quote, hread]
      rfl

/-- Reading the text of a tree gives the tree. -/
theorem parse?_compact (j : Json) : parse? j.compact = some j := by
  have hread := recovers j (2 * j.compactChars.length + 2) [] (by omega) closes_nil
  rw [List.append_nil] at hread
  rw [parse?, compact, String.toList_ofList, parseChars, hread]
  rfl

end GuardedQuery.Json
