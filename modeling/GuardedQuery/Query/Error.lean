import GuardedQuery.Text.Quoted

/-! # Why a query does not compile -/

namespace GuardedQuery

/-- The first obstacle that compilation meets. Positions count tokens from zero. -/
inductive CompileError
  | unknownEntity (name : String) (position : Nat)
  | unknownAttribute (entity name : String) (position : Nat)
  | unknownOperator (name : String) (position : Nat)
  | unknownSeparator (name : String) (position : Nat)
  | unsupportedType (name type : String)
  | malformedLiteral (name type literal reason : String)
  | missingEntity
  | missingAttribute (literal : String) (position : Nat)
  | missingScope (entity name : String)
  | invalidLabelPath (name : String)
  /-- A text is to be inserted at a byte that starts no character. -/
  | misplacedSplice (offset : Nat)
  deriving DecidableEq

namespace CompileError

def message : CompileError → String
  | .unknownEntity name position =>
    "unknown entity " ++ Text.quoted name ++ " at token " ++ toString position
  | .unknownAttribute entity name position =>
    "unknown attribute " ++ Text.quoted name ++ " on entity " ++ entity ++ " at token " ++
      toString position
  | .unknownOperator name position =>
    "unknown operator " ++ Text.quoted name ++ " at token " ++ toString position
  | .unknownSeparator name position =>
    "unknown condition separator " ++ Text.quoted name ++ " at token " ++ toString position
  | .unsupportedType name type => "unsupported value type " ++ type ++ " for attribute " ++ name
  | .malformedLiteral name type literal reason =>
    "cannot parse " ++ Text.quoted literal ++ " as " ++ type ++ " for attribute " ++ name ++ ": " ++
      reason
  | .missingEntity => "query does not name an entity"
  | .missingAttribute literal position =>
    "value " ++ Text.quoted literal ++ " at token " ++ toString position ++
      " does not follow an attribute"
  | .missingScope entity name =>
    "additional filter of entity " ++ entity ++ " needs scope attribute " ++ Text.quoted name
  | .invalidLabelPath name => "attribute " ++ name ++ " has no usable label path"
  | .misplacedSplice offset => "byte " ++ toString offset ++ " of the query starts no character"

end CompileError

end GuardedQuery
