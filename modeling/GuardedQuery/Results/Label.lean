import GuardedQuery.Row

/-! # Labels

A field is shown by the label that a path of hops leads to. A list shows the labels of all its
elements, so a path that meets lists fans out, and a path that meets null ends there. -/

namespace GuardedQuery

/-- How a row differs from what the catalog declares. -/
inductive RowFault
  | missingField (name : String)
  | noLabelPath
  | scalarBeforeEnd
  | endsOnRecord
  | labelNotScalar (label : String)
  deriving DecidableEq

namespace Label

/-- The text between the labels of a list. -/
def separator : String := "; "

mutual

/-- The value at the end of the hops from a field. The labels of a list are joined, without the
empty ones. -/
def resolve (hops : List String) : Field → Except RowFault Value
  | .scalar .null => .ok .null
  | .scalar v => if hops.isEmpty then .ok v else .error .scalarBeforeEnd
  | .record fields =>
    match hops with
    | [] => .error .endsOnRecord
    | hop :: hops => resolveHop hop hops fields
  | .list items => do
    let labels ← resolveAll hops items
    .ok (.string (String.intercalate separator labels))

/-- The value at the end of the hops from a record: the first one names the field to go on with. -/
def resolveHop (hop : String) (hops : List String) : List (String × Field) → Except RowFault Value
  | [] => .error (.missingField hop)
  | (name, field) :: fields =>
    if hop = name then resolve hops field else resolveHop hop hops fields

/-- The labels of fields from left to right, without the empty ones. -/
def resolveAll (hops : List String) : List Field → Except RowFault (List String)
  | [] => .ok []
  | field :: fields => do
    let label ← resolve hops field
    let labels ← resolveAll hops fields
    .ok (if label.text = "" then labels else label.text :: labels)

end

/-- The value that an attribute shows for a row. -/
def ofRow (accessor : Accessor) (row : Row) : Except RowFault Value :=
  match accessor.read? row with
  | none => .error (.missingField accessor.field)
  | some field =>
    match accessor.labelHops, field with
    | some hops, field => resolve hops field
    | none, .scalar v => .ok v
    | none, _ => .error .noLabelPath

end Label

end GuardedQuery
