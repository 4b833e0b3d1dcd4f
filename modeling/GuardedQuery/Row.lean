import GuardedQuery.Catalog.Attribute
import GuardedQuery.Value.Basic

/-! # Rows

What the store answers. A field is a scalar, a related record or a list of fields. -/

namespace GuardedQuery

/-- A field of a row. -/
inductive Field
  | scalar (v : Value)
  | record (fields : List (String × Field))
  | list (items : List Field)

/-- A row: its fields under their names. -/
abbrev Row := List (String × Field)

namespace Field

def asScalar? : Field → Option Value
  | .scalar v => some v
  | _ => none

end Field

/-- The field of a row that an accessor starts from. -/
def Accessor.read? (accessor : Accessor) (row : Row) : Option Field :=
  row.lookup accessor.field

end GuardedQuery
