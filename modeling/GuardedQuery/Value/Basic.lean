import GuardedQuery.Calendar.Pattern
import GuardedQuery.Number.Integer
import GuardedQuery.Number.Notation

/-! # Values

Scalars bound to the placeholders of a query or read from a row. -/

namespace GuardedQuery

/-- A scalar value. -/
inductive Value
  | null
  | bool (b : Bool)
  | int16 (n : Int16)
  | int32 (n : Int32)
  | int64 (n : Int64)
  | float32 (x : Binary .single)
  | float64 (x : Binary .double)
  | string (s : String)
  | date (d : Calendar.Date)
  | timestamp (t : Calendar.Timestamp)
  deriving DecidableEq

namespace Value

/-- The value as shown to people. Null shows as nothing; dates and times have the month first. -/
def chars : Value → List Char
  | .null => []
  | .bool b => (if b then "true" else "false").toList
  | .int16 n => Integer.chars n.toInt
  | .int32 n => Integer.chars n.toInt
  | .int64 n => Integer.chars n.toInt
  | .float32 x => x.chars
  | .float64 x => x.chars
  | .string s => s.toList
  | .date d => Calendar.writeDate Calendar.monthFirst d
  | .timestamp t => Calendar.writeTimestamp Calendar.monthFirstTime t

/-- The value as shown to people. -/
def text (v : Value) : String :=
  String.ofList v.chars

def isNull : Value → Bool
  | .null => true
  | _ => false

def asString? : Value → Option String
  | .string s => some s
  | _ => none

/-- The integer of any width. -/
def asInteger? : Value → Option Int
  | .int16 n => some n.toInt
  | .int32 n => some n.toInt
  | .int64 n => some n.toInt
  | _ => none

def asDate? : Value → Option Calendar.Date
  | .date d => some d
  | _ => none

def asTimestamp? : Value → Option Calendar.Timestamp
  | .timestamp t => some t
  | _ => none

/-- A value that may be missing: nothing is null. -/
def ofOption {α : Type} (f : α → Value) : Option α → Value
  | some a => f a
  | none => .null

end Value

end GuardedQuery
