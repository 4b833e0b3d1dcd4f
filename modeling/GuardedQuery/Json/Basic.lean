import GuardedQuery.Number.Digits

/-! # JSON values

A tree of JSON. Objects keep their fields in order, repeated names included, and numbers keep their
digits: what they mean is decided by the reader of a field. -/

namespace GuardedQuery

/-- A JSON number: `whole`, the digits after the point, and the exponent, if there is one. -/
structure JsonNumber where
  negative : Bool
  whole : Nat
  fraction : List Digit
  exponent : Option Int
  deriving DecidableEq, Repr

/-- A JSON value. A text that follows the grammar but spells an unpaired surrogate is `unreadable`,
and so is an object with such a name. -/
inductive Json
  | null
  | bool (b : Bool)
  | number (n : JsonNumber)
  | string (s : String)
  | array (items : List Json)
  | object (fields : List (String × Json))
  | unreadable

namespace JsonNumber

/-- An integer as a number without fraction and exponent. -/
def ofInt (z : Int) : JsonNumber :=
  ⟨z < 0, z.natAbs, [], none⟩

end JsonNumber

namespace Json

def ofInt (z : Int) : Json :=
  .number (.ofInt z)

/-- A string, or null. -/
def ofOptionString : Option String → Json
  | some s => .string s
  | none => .null

end Json

end GuardedQuery
