import GuardedQuery.Json.Record
import GuardedQuery.Value.Basic

/-! # Values in JSON

A value is a record of its type and its content. Null has no content; dates and times have the year
first. -/

namespace GuardedQuery.Value

/-- The name of the type of a value. -/
def typeName : Value → String
  | .null => "null"
  | .bool _ => "bool"
  | .int16 _ => "int16"
  | .int32 _ => "int32"
  | .int64 _ => "int64"
  | .float32 _ => "float32"
  | .float64 _ => "float64"
  | .string _ => "string"
  | .date _ => "date"
  | .timestamp _ => "timestamp"

/-- The content of a value, if its type has content. -/
def content? : Value → Option Json
  | .null => none
  | .bool b => some (.bool b)
  | .int16 n => some (.ofInt n.toInt)
  | .int32 n => some (.ofInt n.toInt)
  | .int64 n => some (.ofInt n.toInt)
  | .float32 x => some (.ofBinary .single x)
  | .float64 x => some (.ofBinary .double x)
  | .string s => some (.string s)
  | .date d => some (.string (String.ofList (Calendar.writeDate Calendar.yearFirst d)))
  | .timestamp t =>
    some (.string (String.ofList (Calendar.writeTimestamp Calendar.yearFirstTime t)))

/-- The record of a value. -/
def toJson (v : Value) : Json :=
  match v.content? with
  | some content => .object [("type", .string v.typeName), ("value", content)]
  | none => .object [("type", .string v.typeName)]

/-- The value of a type and its content. -/
def ofContent? (type : String) (content : Json) : Option Value :=
  match type, content with
  | "null", .null => some .null
  | "bool", .bool b => some (.bool b)
  | "int16", .number n =>
    (n.between? (Integer.least 16) (Integer.greatest 16)).map (.int16 ∘ Int16.ofInt)
  | "int32", .number n =>
    (n.between? (Integer.least 32) (Integer.greatest 32)).map (.int32 ∘ Int32.ofInt)
  | "int64", .number n =>
    (n.between? (Integer.least 64) (Integer.greatest 64)).map (.int64 ∘ Int64.ofInt)
  | "float32", .number n => (n.binary? .single).map .float32
  | "float64", .number n => (n.binary? .double).map .float64
  | "string", .string s => some (.string s)
  | "date", .string s => (Calendar.readDate Calendar.yearFirst s.toList).toOption.map .date
  | "timestamp", .string s =>
    (Calendar.readTimestamp Calendar.yearFirstTime s.toList).toOption.map .timestamp
  | _, _ => none

/-- Read the record of a value. Written as an array it has both places, even for null. -/
def ofJson? (j : Json) : Option Value := do
  match j, ← j.record? ["type", "value"] with
  | _, [some type, some content] => ofContent? (← type.tag?) content
  | .object _, [some type, none] => if (← type.tag?) = "null" then some .null else none
  | _, _ => none

end GuardedQuery.Value
