import GuardedQuery.Access
import GuardedQuery.Catalog.Error
import GuardedQuery.Query.Error
import GuardedQuery.Results.Basic

/-! # Why a request fails -/

namespace GuardedQuery

/-- The cause of a failed request. -/
inductive ServiceError
  | denied (d : AccessDenied)
  | compile (e : CompileError)
  | catalog (e : CatalogError)
  | store (reason : String)
  | rows (e : RowError)
  | unknownEntity (name : String)
  | unknownAttribute (entity name : String)
  | unknownOperator (name : String)
  deriving DecidableEq

namespace ServiceError

def message : ServiceError → String
  | .denied d => "access denied: " ++ d.message
  | .compile e => "compile error: " ++ e.message
  | .catalog e => "catalog error: " ++ e.message
  | .store reason => "query execution failed: " ++ reason
  | .rows e => "materialization error: " ++ e.message
  | .unknownEntity name => "unknown entity " ++ Text.quoted name
  | .unknownAttribute entity name =>
    "unknown attribute " ++ Text.quoted name ++ " on entity " ++ entity
  | .unknownOperator name => "unknown operator " ++ Text.quoted name

end ServiceError

end GuardedQuery
