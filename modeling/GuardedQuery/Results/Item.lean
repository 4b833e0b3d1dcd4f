import GuardedQuery.Json.Basic
import GuardedQuery.Value.Basic

/-! # Result records

A result record holds values under display names. Names keep the order in which they were first
inserted. -/

namespace GuardedQuery

/-- A result record. -/
structure Item where
  entries : List (String × Value)
  deriving DecidableEq

namespace Item

/-- The record without values. -/
def empty : Item := ⟨[]⟩

/-- Replace the value of a name in place, or add the name at the end. -/
def insertEntry (name : String) (value : Value) : List (String × Value) → List (String × Value)
  | [] => [(name, value)]
  | entry :: entries =>
    if entry.1 = name then (name, value) :: entries
    else entry :: insertEntry name value entries

def insert (item : Item) (name : String) (value : Value) : Item :=
  ⟨insertEntry name value item.entries⟩

def get? (item : Item) (name : String) : Option Value :=
  item.entries.lookup name

/-- Take the value of a name out of a record: find its place, and take away the entry there. -/
def remove (item : Item) (name : String) : Option Value × Item :=
  match item.entries.findIdx? (·.1 = name) with
  | some place => (item.entries[place]?.map (·.2), ⟨item.entries.eraseIdx place⟩)
  | none => (none, item)

/-- The names in order. -/
def names (item : Item) : List String :=
  item.entries.map (·.1)

def size (item : Item) : Nat :=
  item.entries.length

def isEmpty (item : Item) : Bool :=
  item.entries.isEmpty

/-- An object of the texts of the values. -/
def toJson (item : Item) : Json :=
  .object (item.entries.map fun (name, value) => (name, .string value.text))

end Item

end GuardedQuery
