import GuardedQuery.Json.Basic

/-! # Reading JSON

The grammar of RFC 8259. Escapes are decoded in two steps: the code units of a string first, then
the surrogate pairs among them. -/

namespace GuardedQuery

namespace Json

/-- The white space between tokens. -/
def isSpace (c : Char) : Bool :=
  c == ' ' || c == '\t' || c == '\n' || c == '\r'

def skipSpace (cs : List Char) : List Char :=
  cs.dropWhile isSpace

/-! ### Strings -/

/-- A character of a string, or half of a surrogate pair from an escape. -/
inductive CodeUnit
  | char (c : Char)
  | half (n : Nat)
  deriving DecidableEq, Repr

/-- The value of a hexadecimal digit. -/
def hexValue? (c : Char) : Option Nat :=
  let n := c.toNat
  if 48 ≤ n ∧ n ≤ 57 then some (n - 48)
  else if 97 ≤ n ∧ n ≤ 102 then some (n - 87)
  else if 65 ≤ n ∧ n ≤ 70 then some (n - 55)
  else none

/-- The code unit of four hexadecimal digits. -/
def hexUnit? (a b c d : Char) : Option CodeUnit := do
  let n := (((← hexValue? a) * 16 + (← hexValue? b)) * 16 + (← hexValue? c)) * 16 + (← hexValue? d)
  if 0xD800 ≤ n ∧ n ≤ 0xDFFF then some (.half n) else some (.char (Char.ofNat n))

/-- The character of an escape of one letter. -/
def escape? (c : Char) : Option Char :=
  match c with
  | '"' => some '"'
  | '\\' => some '\\'
  | '/' => some '/'
  | 'b' => some '\x08'
  | 'f' => some '\x0c'
  | 'n' => some '\n'
  | 'r' => some '\r'
  | 't' => some '\t'
  | _ => none

/-- The code units up to the closing quote, and what follows it. -/
def stringUnits : List Char → Option (List CodeUnit × List Char)
  | [] => none
  | '"' :: rest => some ([], rest)
  | '\\' :: 'u' :: a :: b :: c :: d :: rest => do
    let unit ← hexUnit? a b c d
    let (units, rest) ← stringUnits rest
    some (unit :: units, rest)
  | '\\' :: c :: rest => do
    let c ← escape? c
    let (units, rest) ← stringUnits rest
    some (.char c :: units, rest)
  | c :: rest =>
    if c.toNat < 0x20 then none
    else do
      let (units, rest) ← stringUnits rest
      some (.char c :: units, rest)

/-- The characters of code units in which every half has its partner. -/
def pairHalves : List CodeUnit → Option (List Char)
  | [] => some []
  | .char c :: units => (pairHalves units).map (c :: ·)
  | .half high :: .half low :: units =>
    if high < 0xDC00 ∧ 0xDC00 ≤ low then
      (pairHalves units).map
        (Char.ofNat (0x10000 + (high - 0xD800) * 0x400 + (low - 0xDC00)) :: ·)
    else none
  | .half _ :: _ => none

/-- The string up to the closing quote, if its characters are readable, and what follows it. -/
def readString (cs : List Char) : Option (Option String × List Char) := do
  let (units, rest) ← stringUnits cs
  some ((pairHalves units).map String.ofList, rest)

/-! ### Numbers -/

/-- The digits after a point, if there is a point. -/
def readFraction (cs : List Char) : Option (List Digit × List Char) :=
  match cs with
  | '.' :: ds =>
    match Digit.span ds with
    | ([], _) => none
    | (digits, rest) => some (digits, rest)
  | cs => some ([], cs)

/-- The exponent after its mark, if there is a mark. -/
def readExponent (cs : List Char) : Option (Option Int × List Char) :=
  match cs with
  | [] => some (none, [])
  | mark :: ds =>
    if mark = 'e' ∨ mark = 'E' then
      let (negative, ds) :=
        match ds with
        | '-' :: ds => (true, ds)
        | '+' :: ds => (false, ds)
        | ds => (false, ds)
      match Digit.span ds with
      | ([], _) => none
      | (digits, rest) =>
        let n : Int := Digit.toNat digits
        some (some (if negative then -n else n), rest)
    else some (none, mark :: ds)

/-- A number. Its whole part is zero or does not start with a zero. -/
def readNumber (cs : List Char) : Option (JsonNumber × List Char) := do
  let (negative, cs) :=
    match cs with
    | '-' :: ds => (true, ds)
    | ds => (false, ds)
  let (whole, rest) := Digit.span cs
  if whole = [] ∨ (whole.head? = some 0 ∧ whole.length ≠ 1) then none
  else
    let (fraction, rest) ← readFraction rest
    let (exponent, rest) ← readExponent rest
    some (⟨negative, Digit.toNat whole, fraction, exponent⟩, rest)

/-! ### Values -/

/-- An object, unless one of its names is unreadable. -/
def ofFields (fields : List (Option String × Json)) : Json :=
  match fields.mapM fun (name, j) => name.map (·, j) with
  | some fields => .object fields
  | none => .unreadable

mutual

/-- Read a value and return what follows it. The fuel bounds the number of calls. -/
def readValue : Nat → List Char → Option (Json × List Char)
  | 0, _ => none
  | fuel + 1, cs =>
    match skipSpace cs with
    | 'n' :: 'u' :: 'l' :: 'l' :: rest => some (.null, rest)
    | 't' :: 'r' :: 'u' :: 'e' :: rest => some (.bool true, rest)
    | 'f' :: 'a' :: 'l' :: 's' :: 'e' :: rest => some (.bool false, rest)
    | '"' :: rest => do
      let (s, rest) ← readString rest
      match s with
      | some s => some (.string s, rest)
      | none => some (.unreadable, rest)
    | '[' :: rest =>
      match skipSpace rest with
      | ']' :: rest => some (.array [], rest)
      | rest => do
        let (items, rest) ← readItems fuel rest
        some (.array items, rest)
    | '\x7b' :: rest =>
      match skipSpace rest with
      | '\x7d' :: rest => some (.object [], rest)
      | rest => do
        let (fields, rest) ← readFields fuel rest
        some (ofFields fields, rest)
    | rest => do
      let (n, rest) ← readNumber rest
      some (.number n, rest)

/-- Read one or more items up to the closing bracket. -/
def readItems : Nat → List Char → Option (List Json × List Char)
  | 0, _ => none
  | fuel + 1, cs => do
    let (j, rest) ← readValue fuel cs
    match skipSpace rest with
    | ',' :: rest => do
      let (items, rest) ← readItems fuel rest
      some (j :: items, rest)
    | ']' :: rest => some ([j], rest)
    | _ => none

/-- Read one or more fields up to the closing brace. -/
def readFields : Nat → List Char → Option (List (Option String × Json) × List Char)
  | 0, _ => none
  | fuel + 1, cs =>
    match skipSpace cs with
    | '"' :: rest => do
      let (name, rest) ← readString rest
      match skipSpace rest with
      | ':' :: rest => do
        let (j, rest) ← readValue fuel rest
        match skipSpace rest with
        | ',' :: rest => do
          let (fields, rest) ← readFields fuel rest
          some ((name, j) :: fields, rest)
        | '\x7d' :: rest => some ([(name, j)], rest)
        | _ => none
      | _ => none
    | _ => none

end

/-- Read a text that holds one value. Every second call consumes a character, which bounds the
fuel. -/
def parseChars (cs : List Char) : Option Json :=
  match readValue (2 * cs.length + 2) cs with
  | some (j, rest) => if skipSpace rest = [] then some j else none
  | none => none

/-- Read a text that holds one value. -/
def parse? (s : String) : Option Json :=
  parseChars s.toList

end Json

end GuardedQuery
