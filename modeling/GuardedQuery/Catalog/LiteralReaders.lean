import GuardedQuery.Names
import GuardedQuery.Text.Quoted
import GuardedQuery.Text.UpperCase
import GuardedQuery.Value.Basic

/-! # Readers of literals

Literals of numbers, truth values and custom types are read by functions found under the tag of the
type. -/

namespace GuardedQuery

/-- Reads a literal, or says why it cannot. -/
abbrev LiteralReader := String → Except String Value

/-- The readers of the known tags. -/
structure LiteralReaders where
  entries : List (String × LiteralReader)

namespace LiteralReaders

def empty : LiteralReaders := ⟨[]⟩

/-- Add a reader in place of any earlier one of the tag. -/
def register (r : LiteralReaders) (tag : String) (reader : LiteralReader) : LiteralReaders :=
  ⟨(tag, reader) :: r.entries.filter (·.1 ≠ tag)⟩

def get? (r : LiteralReaders) (tag : String) : Option LiteralReader :=
  r.entries.lookup tag

def contains (r : LiteralReaders) (tag : String) : Bool :=
  (r.get? tag).isSome

/-- The known tags in order. -/
def tags (r : LiteralReaders) : Names :=
  .ofList (r.entries.map (·.1))

/-- The known tags as shown in messages. -/
def describe (r : LiteralReaders) : String :=
  "ParserRegistry \x7b tags: [" ++ String.intercalate ", " (r.tags.names.map Text.quoted) ++
    "] \x7d"

/-! ### Built-in readers -/

/-- An integer between two bounds. -/
def readInteger (least greatest : Int) (literal : String) : Except String Int :=
  (Integer.read least greatest (Text.trimChars literal.toList)).mapError IntegerError.message

/-- A number of a binary format. -/
def readBinary (f : Format) (literal : String) : Except String (Binary f) :=
  (Binary.read f (Text.trimChars literal.toList)).mapError Binary.ReadError.message

/-- A truth value, in any case of its letters. -/
def readBool (literal : String) : Except String Bool :=
  let name := Text.asciiLowerCase (Text.trim literal)
  if name = "true" then .ok true
  else if name = "false" then .ok false
  else .error ("expected true or false, got " ++ Text.quoted name)

def int16Reader : LiteralReader := fun literal =>
  (readInteger (Integer.least 16) (Integer.greatest 16) literal).map fun z => .int16 (Int16.ofInt z)

def int32Reader : LiteralReader := fun literal =>
  (readInteger (Integer.least 32) (Integer.greatest 32) literal).map fun z => .int32 (Int32.ofInt z)

def int64Reader : LiteralReader := fun literal =>
  (readInteger (Integer.least 64) (Integer.greatest 64) literal).map fun z => .int64 (Int64.ofInt z)

def boolReader : LiteralReader := fun literal =>
  (readBool literal).map .bool

def float32Reader : LiteralReader := fun literal =>
  (readBinary .single literal).map .float32

def float64Reader : LiteralReader := fun literal =>
  (readBinary .double literal).map .float64

/-- The readers of truth values and numbers. -/
def builtin : LiteralReaders :=
  empty
    |>.register "boolean" boolReader
    |>.register "int16" int16Reader
    |>.register "int32" int32Reader
    |>.register "int64" int64Reader
    |>.register "float32" float32Reader
    |>.register "float64" float64Reader

end LiteralReaders

end GuardedQuery
