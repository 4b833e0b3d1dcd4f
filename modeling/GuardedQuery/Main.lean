import GuardedQuery.CommandLine.Run

/-! # The command -/

namespace GuardedQuery.CommandLine

/-- Whether a code is a number of an error. The number has either sign, by the call that fails. -/
def isErrorNumber (number code : UInt32) : Bool :=
  code = number || -code = number

/-- Read a file as text. -/
def readTextFile (path : String) : IO (Except ReadFailure String) := do
  try
    return ReadFailure.checkText (← IO.FS.readBinFile path)
  catch e =>
    return .error (match e with
      | .noFileOrDirectory .. => .missing
      | .permissionDenied .. => .denied
      | .inappropriateType _ code _ => if isErrorNumber 21 code then .directory else .notDirectory
      | .invalidArgument _ code _ =>
        if isErrorNumber 36 code then .nameTooLong else .other (toString e)
      | e => .other (toString e))

/-- Read the files that an invocation needs, run it and print. -/
def perform (invocation : Invocation) : IO Ending := do
  let mut contents : List (String × Except ReadFailure String) := []
  for path in invocation.files do
    contents := (path, ← readTextFile path) :: contents
  return invocation.run fun path => (contents.lookup path).getD (.error .missing)

end GuardedQuery.CommandLine

open GuardedQuery.CommandLine in
def main (arguments : List String) : IO UInt32 := do
  let ending ← (match Invocation.ofArguments arguments with
    | .ok invocation => perform invocation
    | .error e => pure (.usage e))
  IO.print ending.stdout
  IO.eprint ending.stderr
  return ending.exitCode
