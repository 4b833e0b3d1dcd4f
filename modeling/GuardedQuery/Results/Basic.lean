import GuardedQuery.Access
import GuardedQuery.Operator
import GuardedQuery.Results.Item
import GuardedQuery.Results.Label

/-! # Results

The answer to a query: for every row a record of the attributes that the caller may see. -/

namespace GuardedQuery

/-- The order of the attributes in a record. -/
inductive AttributeOrder
  | declared
  | reverse
  deriving DecidableEq

namespace AttributeOrder

def name : AttributeOrder → String
  | .declared => "Declared"
  | .reverse => "Reverse"

/-- Put a declared list into the order. -/
def arrange {α : Type} : AttributeOrder → List α → List α
  | .declared, items => items
  | .reverse, items => items.reverse

end AttributeOrder

/-- The fault of a row, with the attribute that met it. -/
structure RowError where
  entity : String
  attr : String
  fault : RowFault
  deriving DecidableEq

namespace RowError

def message (e : RowError) : String :=
  let shape := "unexpected value shape for " ++ e.entity ++ "." ++ e.attr ++ ": "
  match e.fault with
  | .missingField name =>
    "row of " ++ e.entity ++ " has no field " ++ name ++ " for attribute " ++ e.attr
  | .noLabelPath => shape ++ "relationship value without a label path"
  | .scalarBeforeEnd => shape ++ "scalar value before the end of the label path"
  | .endsOnRecord => shape ++ "label path ends on a record"
  | .labelNotScalar label => shape ++ "reference label " ++ label ++ " is not a scalar"

end RowError

/-- The records of an entity, one for every row. -/
structure Results where
  entityName : String
  items : List Item
  deriving DecidableEq

namespace Results

/-- The attributes shown to a caller. -/
def columns (e : Entity) (caller : Caller) (order : AttributeOrder) : List Attribute :=
  order.arrange ((e.attributesFor .results).filter (Access.allowsAttribute · caller))

/-- The value that an attribute of an entity shows for a row. -/
def cell (e : Entity) (row : Row) (a : Attribute) : Except RowError Value :=
  (Label.ofRow a.accessor row).mapError fun fault => ⟨e.displayName, a.displayName, fault⟩

/-- The record of a row with the given columns. -/
def item (e : Entity) (row : Row) : List Attribute → Item → Except RowError Item
  | [], built => .ok built
  | a :: columns, built => do
    let value ← cell e row a
    item e row columns (built.insert a.displayName value)

/-- The results of rows. The first fault stops the reading, row by row and column by column. -/
def ofRows (e : Entity) (caller : Caller) (order : AttributeOrder) (rows : List Row) :
    Except RowError Results := do
  let columns := columns e caller order
  let items ← rows.mapM fun row => item e row columns .empty
  .ok ⟨e.displayName, items⟩

def toJson (r : Results) : Json :=
  .object [("entityName", .string r.entityName), ("items", .array (r.items.map Item.toJson))]

end Results

/-- What a caller may choose from: the control to type into, and the values offered. -/
structure Choices where
  control : Option Control
  values : Option (List String)
  deriving DecidableEq

namespace Choices

/-- The label in a row of a reference query. -/
def label (e : Entity) (a : Attribute) (field : String) (row : Row) : Except RowError String :=
  match row.lookup field with
  | some (.scalar v) => .ok v.text
  | some _ => .error ⟨e.displayName, a.displayName, .labelNotScalar field⟩
  | none => .error ⟨e.displayName, a.displayName, .missingField field⟩

def toJson (c : Choices) : Json :=
  .object [
    ("control", .ofOptionString (c.control.map Control.name)),
    ("values", match c.values with
      | some values => .array (values.map .string)
      | none => .null)]

end Choices

end GuardedQuery
