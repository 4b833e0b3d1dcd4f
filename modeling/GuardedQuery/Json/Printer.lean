import GuardedQuery.Json.Basic
import GuardedQuery.Number.Integer
import GuardedQuery.Text.Quoted

/-! # Printing JSON

The compact form has no space outside strings. The indented form puts each item and each field on a
line of its own. -/

namespace GuardedQuery

namespace Json

/-- The two hexadecimal digits of a number below 256. -/
def hexPair (n : Nat) : List Char :=
  [(n / 16).digitChar, (n % 16).digitChar]

/-- One character inside a JSON string. Only quotes, backslashes and control characters are
escaped. -/
def escapeChar (c : Char) : List Char :=
  if c = '"' then ['\\', '"']
  else if c = '\\' then ['\\', '\\']
  else if c = '\x08' then ['\\', 'b']
  else if c = '\t' then ['\\', 't']
  else if c = '\n' then ['\\', 'n']
  else if c = '\x0c' then ['\\', 'f']
  else if c = '\r' then ['\\', 'r']
  else if c.toNat < 0x20 then ['\\', 'u', '0', '0'] ++ hexPair c.toNat
  else [c]

/-- A string between quotes. -/
def stringChars (s : String) : List Char :=
  '"' :: s.toList.flatMap escapeChar ++ ['"']

/-- An exponent has its mark and always a sign. -/
def exponentChars : Option Int → List Char
  | none => []
  | some e => 'e' :: (if e < 0 then '-' else '+') :: Digit.chars e.natAbs

def numberChars (n : JsonNumber) : List Char :=
  (if n.negative then ['-'] else []) ++ Digit.chars n.whole ++
    (if n.fraction.isEmpty then [] else '.' :: n.fraction.map Digit.char) ++
    exponentChars n.exponent

mutual

/-- The compact form. -/
def compactChars : Json → List Char
  | .null => "null".toList
  | .bool b => (if b then "true" else "false").toList
  | .number n => numberChars n
  | .string s => stringChars s
  | .array items => '[' :: compactItems items ++ [']']
  | .object fields => '\x7b' :: compactFields fields ++ ['\x7d']
  | .unreadable => "\"\\ud800\"".toList

def compactItems : List Json → List Char
  | [] => []
  | [j] => compactChars j
  | j :: k :: rest => compactChars j ++ ',' :: compactItems (k :: rest)

def compactFields : List (String × Json) → List Char
  | [] => []
  | [(name, j)] => stringChars name ++ ':' :: compactChars j
  | (name, j) :: field :: rest =>
    stringChars name ++ ':' :: compactChars j ++ ',' :: compactFields (field :: rest)

end

/-- The compact form. -/
def compact (j : Json) : String :=
  String.ofList j.compactChars

/-- A new line with two spaces for each level. -/
def newLine (level : Nat) : List Char :=
  '\n' :: List.replicate (2 * level) ' '

mutual

/-- The indented form at a level. -/
def indentedChars (level : Nat) : Json → List Char
  | .array [] => ['[', ']']
  | .array (j :: rest) => '[' :: indentedItems (level + 1) (j :: rest) ++ newLine level ++ [']']
  | .object [] => ['\x7b', '\x7d']
  | .object (field :: rest) =>
    '\x7b' :: indentedFields (level + 1) (field :: rest) ++ newLine level ++ ['\x7d']
  | j => compactChars j

def indentedItems (level : Nat) : List Json → List Char
  | [] => []
  | [j] => newLine level ++ indentedChars level j
  | j :: k :: rest =>
    newLine level ++ indentedChars level j ++ ',' :: indentedItems level (k :: rest)

def indentedFields (level : Nat) : List (String × Json) → List Char
  | [] => []
  | [(name, j)] => newLine level ++ stringChars name ++ ':' :: ' ' :: indentedChars level j
  | (name, j) :: field :: rest =>
    newLine level ++ stringChars name ++ ':' :: ' ' :: indentedChars level j ++
      ',' :: indentedFields level (field :: rest)

end

/-- The indented form. -/
def indented (j : Json) : String :=
  String.ofList (j.indentedChars 0)

end Json

end GuardedQuery
