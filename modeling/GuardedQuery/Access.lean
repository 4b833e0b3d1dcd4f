import GuardedQuery.Caller
import GuardedQuery.Catalog.Basic
import GuardedQuery.Query.Token

/-! # Access

Which entities and attributes a caller may use, and the check of a whole query before anything else
is done with it. -/

namespace GuardedQuery

/-- What access was denied to. -/
inductive Subject
  | entity
  | attr
  deriving DecidableEq

namespace Subject

def name : Subject → String
  | .entity => "entity"
  | .attr => "attribute"

end Subject

/-- A denial: to what, under which name, and to which roles. -/
structure AccessDenied where
  subject : Subject
  name : String
  roles : String
  deriving DecidableEq

namespace AccessDenied

def message (d : AccessDenied) : String :=
  "users with roles [" ++ d.roles ++ "] are not allowed to access " ++ d.subject.name ++ " " ++
    d.name

end AccessDenied

namespace Access

/-- The name of an attribute, after that of its entity. -/
def qualifiedName (a : Attribute) : String :=
  match a.owner with
  | some owner => owner ++ "." ++ a.displayName
  | none => a.displayName

def allowsEntity (e : Entity) (caller : Caller) : Bool :=
  e.roles.admits caller.roles

def allowsAttribute (a : Attribute) (caller : Caller) : Bool :=
  a.effectiveRoles.admits caller.roles

def checkEntity (e : Entity) (caller : Caller) : Except AccessDenied Unit :=
  if allowsEntity e caller then .ok ()
  else .error ⟨.entity, e.displayName, caller.roleList⟩

def checkAttribute (a : Attribute) (caller : Caller) : Except AccessDenied Unit :=
  if allowsAttribute a caller then .ok ()
  else .error ⟨.attr, qualifiedName a, caller.roleList⟩

/-- Check the tokens that follow the entity `current`. Names that are not in the catalog pass. -/
def checkTokensFrom (c : Catalog) (caller : Caller) :
    Option Entity → List Token → Except AccessDenied Unit
  | _, [] => .ok ()
  | current, token :: rest =>
    match token.kind with
    | .entity =>
      match c.entity? token.text with
      | some e => do
        checkEntity e caller
        checkTokensFrom c caller (some e) rest
      | none => checkTokensFrom c caller none rest
    | .attr =>
      match current.bind (·.attribute? token.text .query) with
      | some a => do
        checkAttribute a caller
        checkTokensFrom c caller current rest
      | none => checkTokensFrom c caller current rest
    | _ => checkTokensFrom c caller current rest

/-- Check all entities and attributes that tokens name, up to the first denial. -/
def checkTokens (c : Catalog) (caller : Caller) (tokens : List Token) : Except AccessDenied Unit :=
  checkTokensFrom c caller none tokens

end Access

end GuardedQuery
