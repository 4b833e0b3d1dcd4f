import GuardedQuery.Names
import GuardedQuery.Text.Blank
import GuardedQuery.Text.Split
import GuardedQuery.Text.UpperCase

/-! # Roles

Role names in their normal form, and the sets that guard a part of a catalog. -/

namespace GuardedQuery

/-- The normal form of a role name: without blanks around it and in upper case. -/
def normalRole (role : String) : String :=
  Text.upperCase (Text.trim role)

/-- The names of a list in normal form, without the empty ones. -/
def normalRoles (roles : List String) : List String :=
  (roles.map normalRole).filter (· ≠ "")

/-! ### Guards -/

/-- Who may use a part of a catalog: everyone, or those who have one of some roles. An empty set
admits no one. -/
inductive RoleSet
  | unrestricted
  | restricted (roles : Names)
  deriving DecidableEq

namespace RoleSet

/-- The name that lifts a restriction. -/
def wildcard : String := "ALL"

/-- The guard of a list of role names. No name, or the wildcard among the names, restricts
nothing. -/
def ofRoles (roles : List String) : RoleSet :=
  let names := normalRoles roles
  if names = [] ∨ wildcard ∈ names then .unrestricted else .restricted (.ofList names)

/-- The guard of role names with commas between them. -/
def parse (roles : String) : RoleSet :=
  ofRoles (Text.split ',' roles)

def isUnrestricted : RoleSet → Bool
  | .unrestricted => true
  | .restricted _ => false

/-- A caller with the given roles may pass. -/
def admits (s : RoleSet) (roles : Names) : Bool :=
  match s with
  | .unrestricted => true
  | .restricted allowed => allowed.meets roles

/-- The guard of a part within a guarded whole: the roles of both, where both restrict. -/
def restrictedBy (own owner : RoleSet) : RoleSet :=
  match own, owner with
  | .unrestricted, owner => owner
  | own, .unrestricted => own
  | .restricted own, .restricted owner => .restricted (own.inter owner)

def text : RoleSet → String
  | .unrestricted => wildcard
  | .restricted roles => roles.text

end RoleSet

end GuardedQuery
