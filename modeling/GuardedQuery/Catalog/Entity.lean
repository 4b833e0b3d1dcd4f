import GuardedQuery.Catalog.Attribute

/-! # Entities

A record type that can be asked for, with its attributes. An entity keeps its attributes bound to
its own name and roles, in whatever order it is built. -/

namespace GuardedQuery

/-- An entity. The filter is text of the store, in which `:name` stands for a scope attribute of the
caller. -/
structure Entity where
  typeId : String
  displayName : String
  roles : RoleSet
  filter : Option String
  attributes : List Attribute
  deriving DecidableEq

namespace Entity

/-- An entity without attributes that everyone may use. -/
def new (typeId displayName : String) : Entity :=
  ⟨typeId, displayName, .unrestricted, none, []⟩

/-- Set the roles, of the entity and of all its attributes. -/
def withRoles (e : Entity) (roles : String) : Entity :=
  { e with
    roles := .parse roles
    attributes := e.attributes.map (·.ownedBy e.displayName (.parse roles)) }

def withFilter (e : Entity) (filter : String) : Entity :=
  { e with filter := some filter }

/-- Add an attribute after the others. -/
def withAttribute (e : Entity) (a : Attribute) : Entity :=
  { e with attributes := e.attributes ++ [a.ownedBy e.displayName e.roles] }

def withAttributes (e : Entity) (attributes : List Attribute) : Entity :=
  attributes.foldl withAttribute e

/-- The attributes visible for a purpose, in order. -/
def attributesFor (e : Entity) (purpose : Purpose) : List Attribute :=
  e.attributes.filter (·.isVisibleFor purpose)

/-- The attribute of a display name, if it is visible for the purpose. -/
def attribute? (e : Entity) (displayName : String) (purpose : Purpose) : Option Attribute :=
  (e.attributesFor purpose).find? (·.displayName = displayName)

end Entity

end GuardedQuery
