import GuardedQuery.Role
import GuardedQuery.Value.Basic

/-! # Callers

Who asks: the roles of a caller, and the values that fill the named places of an entity's filter. -/

namespace GuardedQuery

/-- A caller. Of several values of one name the first in the list counts. -/
structure Caller where
  roles : Names
  scope : List (String × Value)

namespace Caller

/-- A caller without roles. -/
def anonymous : Caller := ⟨.empty, []⟩

/-- A caller with the given roles. -/
def ofRoles (roles : List String) : Caller :=
  ⟨.ofList (normalRoles roles), []⟩

/-- A caller with the roles of a list with commas. -/
def ofRoleList (roles : String) : Caller :=
  ofRoles (Text.split ',' roles)

/-- Give a scope attribute a value, in place of any earlier one. -/
def withScope (caller : Caller) (name : String) (value : Value) : Caller :=
  { caller with scope := (name, value) :: caller.scope }

/-- The value of a scope attribute. -/
def scope? (caller : Caller) (name : String) : Option Value :=
  caller.scope.lookup name

/-- The roles with commas between them. -/
def roleList (caller : Caller) : String :=
  caller.roles.text

end Caller

end GuardedQuery
