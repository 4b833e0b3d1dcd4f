import GuardedQuery.Calendar.Date
import GuardedQuery.Number.Integer
import GuardedQuery.Text.Blank

/-! # Patterns of dates and times

A pattern is a list of parts. The same pattern writes a text and reads one. Reading is more lenient
than writing: white space may stand before every number, and a number may lack its leading zeros. A
number is checked against the range of its field as soon as it is read; whether the day exists is
checked last. -/

namespace GuardedQuery.Calendar

/-- A number within a pattern. -/
inductive Field
  | year
  | month
  | day
  | hour
  | minute
  | second
  deriving DecidableEq, Repr

/-- A part of a pattern. A `gap` is written as one space and a `slack` as nothing; both are read as
any amount of white space. A `fraction` is the part of a second after a point. -/
inductive Part
  | field (f : Field)
  | literal (c : Char)
  | gap
  | slack
  | fraction
  deriving DecidableEq, Repr

/-- The numbers read so far. -/
structure Fields where
  year : Int
  month : Nat
  day : Nat
  hour : Nat
  minute : Nat
  second : Nat
  nanosecond : Nat
  deriving DecidableEq, Repr

namespace Fields

/-- No number read yet. -/
def start : Fields := ⟨0, 0, 0, 0, 0, 0, 0⟩

def ofDate (d : Date) : Fields :=
  { start with year := d.year, month := d.month, day := d.day }

def ofTimestamp (t : Timestamp) : Fields :=
  { ofDate t.date with
    hour := t.hour, minute := t.minute, second := t.second, nanosecond := t.nanosecond }

end Fields

/-- The ways a text fails to follow a pattern. -/
inductive ReadError
  | tooShort
  | invalid
  | outOfRange
  | trailing
  deriving DecidableEq, Repr

def ReadError.message : ReadError → String
  | .tooShort => "premature end of input"
  | .invalid => "input contains invalid characters"
  | .outOfRange => "input is out of range"
  | .trailing => "trailing input"

/-! ### Writing -/

/-- Four digits for the years 0 to 9999; other years have a sign and at least four digits. -/
def yearChars (year : Int) : List Char :=
  if 0 ≤ year ∧ year ≤ 9999 then Digit.padded 4 year.natAbs
  else (if year < 0 then '-' else '+') :: Digit.padded 4 year.natAbs

/-- The fraction of a second in the fewest of 0, 3, 6 and 9 digits that write it exactly. -/
def fractionChars (nanosecond : Nat) : List Char :=
  if nanosecond = 0 then []
  else if nanosecond % 1000000 = 0 then '.' :: Digit.padded 3 (nanosecond / 1000000)
  else if nanosecond % 1000 = 0 then '.' :: Digit.padded 6 (nanosecond / 1000)
  else '.' :: Digit.padded 9 nanosecond

def fieldChars (fields : Fields) : Field → List Char
  | .year => yearChars fields.year
  | .month => Digit.padded 2 fields.month
  | .day => Digit.padded 2 fields.day
  | .hour => Digit.padded 2 fields.hour
  | .minute => Digit.padded 2 fields.minute
  | .second => Digit.padded 2 fields.second

def partChars (fields : Fields) : Part → List Char
  | .field f => fieldChars fields f
  | .literal c => [c]
  | .gap => [' ']
  | .slack => []
  | .fraction => fractionChars fields.nanosecond

/-- Write numbers in a pattern. -/
def write (pattern : List Part) (fields : Fields) : List Char :=
  pattern.flatMap (partChars fields)

/-! ### Reading -/

/-- The digits at the start of a text, at most `limit` of them, and what follows them. -/
def takeDigits : Nat → List Char → List Digit × List Char
  | 0, cs => ([], cs)
  | _ + 1, [] => ([], [])
  | limit + 1, c :: cs =>
    match Digit.ofChar? c with
    | some d => let (digits, rest) := takeDigits limit cs; (d :: digits, rest)
    | none => ([], c :: cs)

/-- A number of one to `limit` digits. -/
def readNumber (limit : Nat) (cs : List Char) : Except ReadError (List Digit × List Char) :=
  match cs with
  | [] => .error .tooShort
  | cs =>
    match takeDigits limit cs with
    | ([], _) => .error .invalid
    | (digits, rest) => .ok (digits, rest)

/-- A year: up to four digits, or a sign and any number of digits. -/
def readYear (cs : List Char) : Except ReadError (Int × List Char) :=
  match cs with
  | '-' :: ds => do
    let (digits, rest) ← readNumber ds.length ds
    .ok (-(Digit.toNat digits : Int), rest)
  | '+' :: ds => do
    let (digits, rest) ← readNumber ds.length ds
    .ok ((Digit.toNat digits : Int), rest)
  | cs => do
    let (digits, rest) ← readNumber 4 cs
    .ok ((Digit.toNat digits : Int), rest)

/-- A number of one or two digits between two bounds. -/
def readSmall (least greatest : Nat) (cs : List Char) : Except ReadError (Nat × List Char) := do
  let (digits, rest) ← readNumber 2 cs
  let n := Digit.toNat digits
  if least ≤ n ∧ n ≤ greatest then .ok (n, rest) else .error .outOfRange

/-- Read the number of a field into its place. -/
def readField (f : Field) (fields : Fields) (cs : List Char) :
    Except ReadError (Fields × List Char) :=
  match f with
  | .year => do
    let (year, rest) ← readYear cs
    if Integer.least 32 ≤ year ∧ year ≤ Integer.greatest 32 then
      .ok ({ fields with year := year }, rest)
    else .error .outOfRange
  | .month => do
    let (n, rest) ← readSmall 1 12 cs
    .ok ({ fields with month := n }, rest)
  | .day => do
    let (n, rest) ← readSmall 1 31 cs
    .ok ({ fields with day := n }, rest)
  | .hour => do
    let (n, rest) ← readSmall 0 23 cs
    .ok ({ fields with hour := n }, rest)
  | .minute => do
    let (n, rest) ← readSmall 0 59 cs
    .ok ({ fields with minute := n }, rest)
  | .second => do
    let (n, rest) ← readSmall 0 60 cs
    .ok ({ fields with second := n }, rest)

/-- The fraction of a second after a point, if there is a point. Digits after the ninth are
dropped. -/
def readFraction (fields : Fields) (cs : List Char) : Except ReadError (Fields × List Char) :=
  match cs with
  | '.' :: ds => do
    let (digits, rest) ← readNumber 9 ds
    let nanosecond := Digit.toNat digits * Nat.pow 10 (9 - digits.length)
    .ok ({ fields with nanosecond := nanosecond }, (Digit.span rest).2)
  | cs => .ok (fields, cs)

def readPart (part : Part) (fields : Fields) (cs : List Char) :
    Except ReadError (Fields × List Char) :=
  match part with
  | .field f => readField f fields (Text.dropBlank cs)
  | .literal c =>
    match cs with
    | [] => .error .tooShort
    | d :: rest => if d = c then .ok (fields, rest) else .error .invalid
  | .gap | .slack => .ok (fields, Text.dropBlank cs)
  | .fraction => readFraction fields cs

/-- Read the parts in order. -/
def readParts : List Part → Fields → List Char → Except ReadError (Fields × List Char)
  | [], fields, cs => .ok (fields, cs)
  | part :: pattern, fields, cs => do
    let (fields, rest) ← readPart part fields cs
    readParts pattern fields rest

/-- Read a text that follows a pattern to its end. -/
def read (pattern : List Part) (cs : List Char) : Except ReadError Fields := do
  match ← readParts pattern .start cs with
  | (fields, []) => .ok fields
  | _ => .error .trailing

/-! ### Dates and timestamps in a pattern -/

def readDate (pattern : List Part) (cs : List Char) : Except ReadError Date := do
  let fields ← read pattern cs
  match Date.of? fields.year fields.month fields.day with
  | some date => .ok date
  | none => .error .outOfRange

def readTimestamp (pattern : List Part) (cs : List Char) : Except ReadError Timestamp := do
  let fields ← read pattern cs
  match Date.of? fields.year fields.month fields.day with
  | some date =>
    match Timestamp.of? date fields.hour fields.minute fields.second fields.nanosecond with
    | some timestamp => .ok timestamp
    | none => .error .outOfRange
  | none => .error .outOfRange

def writeDate (pattern : List Part) (d : Date) : List Char :=
  write pattern (.ofDate d)

def writeTimestamp (pattern : List Part) (t : Timestamp) : List Char :=
  write pattern (.ofTimestamp t)

/-! ### The patterns in use -/

/-- Month, day and year, as in `03-21-2015`. -/
def monthFirst : List Part :=
  [.field .month, .literal '-', .field .day, .literal '-', .field .year]

/-- A date and a time, as in `03-21-2015 17:45:00`. -/
def monthFirstTime : List Part :=
  monthFirst ++
    [.gap, .field .hour, .literal ':', .field .minute, .literal ':', .field .second]

/-- Year, month and day, as in `2015-03-21`. -/
def yearFirst : List Part :=
  [.field .year, .slack, .literal '-', .field .month, .slack, .literal '-', .field .day, .slack]

/-- A date and a time with a fraction, as in `2015-03-21T17:45:00.500`. -/
def yearFirstTime : List Part :=
  yearFirst ++
    [.literal 'T', .field .hour, .slack, .literal ':', .field .minute, .slack, .literal ':',
      .field .second, .fraction, .slack]

end GuardedQuery.Calendar
