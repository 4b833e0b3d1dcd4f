import GuardedQuery.Catalog.ValueType
import GuardedQuery.Role

/-! # Attributes

An attribute of an entity, built step by step. A label path leads from the attribute over dotted
hops to the field that stands for a related record; the accessor holds the same path in the form in
which a row is read. -/

namespace GuardedQuery

/-- How the value of an attribute is read from a row: the field, and the hops to the label behind
it. -/
structure Accessor where
  field : String
  labelHops : Option (List String)
  deriving DecidableEq

namespace Accessor

/-- The accessor of a label path, whose first hop is the attribute itself. Empty hops are left
out. -/
def ofPath (field : String) (path : Option String) : Accessor :=
  ⟨field, path.map fun path => ((Text.split '.' path).drop 1).filter (· ≠ "")⟩

end Accessor

/-- An attribute. The owner and the effective roles are set when an entity takes the attribute
in. -/
structure Attribute where
  name : String
  displayName : String
  type : ValueType
  roles : RoleSet
  scope : Scope
  valuesQuery : Option String
  label : Option String
  explicitPath : Option String
  owner : Option String
  effectiveRoles : RoleSet
  accessor : Accessor
  deriving DecidableEq

namespace Attribute

/-- An attribute that everyone may use everywhere. -/
def new (name displayName : String) (type : ValueType) : Attribute where
  name := name
  displayName := displayName
  type := type
  roles := .unrestricted
  scope := .both
  valuesQuery := none
  label := none
  explicitPath := none
  owner := none
  effectiveRoles := .unrestricted
  accessor := .ofPath name none

/-- The dotted path to the label: the explicit one, or the attribute followed by its label. -/
def labelPath? (a : Attribute) : Option String :=
  (a.explicitPath.filter (· ≠ "")).or (a.label.map fun label => a.name ++ "." ++ label)

/-- The field of a related record that labels it: the declared one, or the last hop of the path. -/
def labelField? (a : Attribute) : Option String :=
  match a.label with
  | some label => some label
  | none => a.labelPath?.bind fun path => (Text.split '.' path).getLast?

def withRoles (a : Attribute) (roles : String) : Attribute :=
  { a with roles := .parse roles, effectiveRoles := .parse roles }

def withScope (a : Attribute) (scope : Scope) : Attribute :=
  { a with scope := scope }

def withValuesQuery (a : Attribute) (query : String) : Attribute :=
  { a with valuesQuery := some query }

/-- Read rows along the current label path. -/
def withAccessor (a : Attribute) : Attribute :=
  { a with accessor := .ofPath a.name a.labelPath? }

def withLabel (a : Attribute) (label : String) : Attribute :=
  { a with label := some label }.withAccessor

def withLabelPath (a : Attribute) (path : String) : Attribute :=
  { a with explicitPath := some path }.withAccessor

/-- Attach to an entity, which restricts the roles. -/
def ownedBy (a : Attribute) (owner : String) (roles : RoleSet) : Attribute :=
  { a with owner := some owner, effectiveRoles := a.roles.restrictedBy roles }

def isVisibleFor (a : Attribute) (purpose : Purpose) : Bool :=
  a.scope.includes purpose

end Attribute

end GuardedQuery
