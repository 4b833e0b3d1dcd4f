/-! # What can be wrong with a catalog -/

namespace GuardedQuery

/-- Why a file could not be read. -/
inductive ReadFailure
  | missing
  | denied
  | notDirectory
  | directory
  | nameTooLong
  | notText
  | other (reason : String)
  deriving DecidableEq

namespace ReadFailure

def message : ReadFailure → String
  | .missing => "No such file or directory (os error 2)"
  | .denied => "Permission denied (os error 13)"
  | .notDirectory => "Not a directory (os error 20)"
  | .directory => "Is a directory (os error 21)"
  | .nameTooLong => "File name too long (os error 36)"
  | .notText => "stream did not contain valid UTF-8"
  | .other reason => reason

end ReadFailure

/-- What is wrong with the label path of an attribute. -/
inductive PathFault
  | valuesWithoutLabel
  | missing
  | tooFewHops
  | startsElsewhere
  deriving DecidableEq

namespace PathFault

def message : PathFault → String
  | .valuesWithoutLabel => "a possible values query requires a label"
  | .missing => "relationship attributes need a label path"
  | .tooFewHops => "expected at least two non-empty hops"
  | .startsElsewhere => "path must start with the attribute name"

end PathFault

/-- Why a catalog is not served. -/
inductive CatalogError
  | unreadable (path : String) (failure : ReadFailure)
  /-- The text is no document. What the parser says of it is not part of the error. -/
  | malformed
  | missingFindKeyword
  | duplicateEntity (entity : String)
  | duplicateAttribute (entity name : String)
  | invalidLabelPath (entity name : String) (fault : PathFault)
  | unsupportedType (entity name type : String)
  | unavailable (reason : String)
  deriving DecidableEq

namespace CatalogError

def message : CatalogError → String
  | .unreadable path failure =>
    "failed to read catalog " ++ path ++ ": " ++ failure.message
  | .malformed => "invalid catalog document"
  | .missingFindKeyword => "catalog does not declare a find keyword"
  | .duplicateEntity entity => "duplicate entity display name: " ++ entity
  | .duplicateAttribute entity name =>
    "duplicate attribute display name " ++ name ++ " on entity " ++ entity
  | .invalidLabelPath entity name fault =>
    "invalid label path for " ++ entity ++ "." ++ name ++ ": " ++ fault.message
  | .unsupportedType entity name type =>
    "no literal parser registered for value type " ++ type ++ " on " ++ entity ++ "." ++ name
  | .unavailable reason => "catalog unavailable: " ++ reason

end CatalogError

end GuardedQuery
