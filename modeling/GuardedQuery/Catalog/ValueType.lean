import GuardedQuery.Json.Record

/-! # Types and visibility of attributes -/

namespace GuardedQuery

/-- The declared type of an attribute. References and collections name the type they lead to, and a
custom type names the reader of its literals. -/
inductive ValueType
  | text
  | boolean
  | int16
  | int32
  | int64
  | float32
  | float64
  | timestamp
  | date
  | reference (target : String)
  | collection (target : String)
  | custom (name : String)
  deriving DecidableEq

/-- What decides how literals are read and which operators apply. -/
inductive ValueKind
  | text
  | number
  | boolean
  | timestamp
  | date
  | relationship
  | custom
  deriving DecidableEq

namespace ValueType

/-- The name under which the reader of the literals of a type is found. -/
def tag : ValueType → String
  | .text => "text"
  | .boolean => "boolean"
  | .int16 => "int16"
  | .int32 => "int32"
  | .int64 => "int64"
  | .float32 => "float32"
  | .float64 => "float64"
  | .timestamp => "timestamp"
  | .date => "date"
  | .reference _ => "reference"
  | .collection _ => "collection"
  | .custom name => name

def kind : ValueType → ValueKind
  | .text => .text
  | .boolean => .boolean
  | .int16 | .int32 | .int64 | .float32 | .float64 => .number
  | .timestamp => .timestamp
  | .date => .date
  | .reference _ | .collection _ => .relationship
  | .custom _ => .custom

/-- A label of such an attribute is reached through a join. -/
def isRelationship (t : ValueType) : Bool :=
  t.kind = .relationship

theorem isRelationship_iff_kind {t : ValueType} :
    t.isRelationship = true ↔ t.kind = .relationship :=
  decide_eq_true_iff

/-- The relationships are the references and the collections. -/
theorem isRelationship_iff {t : ValueType} : t.isRelationship = true ↔
    (∃ target, t = .reference target) ∨ ∃ target, t = .collection target := by
  cases t <;> simp [isRelationship, kind]

/-- The type as shown in messages. -/
def describe : ValueType → String
  | .reference target => "reference<" ++ target ++ ">"
  | .collection target => "collection<" ++ target ++ ">"
  | t => t.tag

/-- Types with a name are objects with one field, and all others are strings. -/
def toJson : ValueType → Json
  | .reference target => .object [("reference", .string target)]
  | .collection target => .object [("collection", .string target)]
  | .custom name => .object [("custom", .string name)]
  | t => .string t.tag

/-- The types without a name. -/
def plain : List ValueType :=
  [.text, .boolean, .int16, .int32, .int64, .float32, .float64, .timestamp, .date]

def ofJson? (j : Json) : Option ValueType :=
  match j.variant? with
  | some ("reference", some (.string target)) => some (.reference target)
  | some ("collection", some (.string target)) => some (.collection target)
  | some ("custom", some (.string name)) => some (.custom name)
  | _ => j.tag?.bind fun tag => plain.find? (·.tag = tag)

end ValueType

namespace ValueKind

def name : ValueKind → String
  | .text => "Text"
  | .number => "Number"
  | .boolean => "Boolean"
  | .timestamp => "Timestamp"
  | .date => "Date"
  | .relationship => "Relationship"
  | .custom => "Custom"

end ValueKind

/-- What an attribute is looked up for. -/
inductive Purpose
  | query
  | results
  deriving DecidableEq

/-- Where an attribute is visible. -/
inductive Scope
  | queryOnly
  | resultsOnly
  | both
  deriving DecidableEq

namespace Scope

def includes : Scope → Purpose → Bool
  | .both, _ => true
  | .queryOnly, .query => true
  | .resultsOnly, .results => true
  | _, _ => false

def name : Scope → String
  | .queryOnly => "query-only"
  | .resultsOnly => "results-only"
  | .both => "both"

def ofName? (name : String) : Option Scope :=
  [Scope.queryOnly, .resultsOnly, .both].find? (·.name = name)

def toJson (s : Scope) : Json := .string s.name

def ofJson? (j : Json) : Option Scope :=
  j.tag?.bind ofName?

end Scope

end GuardedQuery
