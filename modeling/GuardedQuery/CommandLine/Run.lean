import GuardedQuery.Catalog.Source
import GuardedQuery.CommandLine.Report

/-! # Running a command line

A command works on a catalog file alone: there is no store behind it. -/

namespace GuardedQuery.CommandLine

/-- Why a command fails. -/
inductive CommandError
  | unreadable (path : String) (failure : ReadFailure)
  /-- The text is no list of tokens. What the parser says of it is not part of the error. -/
  | malformedTokens
  | service (e : ServiceError)

namespace CommandError

def message : CommandError → String
  | .unreadable path failure => "failed to read " ++ path ++ ": " ++ failure.message
  | .malformedTokens => "invalid token file"
  | .service e => e.message

end CommandError

/-- A store that refuses every query. -/
def noStore : Store := fun q =>
  .error ("no data store configured to run " ++ Text.quoted q.text)

namespace Arguments

/-- The caller whom the options describe. -/
def caller (a : Arguments) : Caller :=
  a.scope.foldl (fun caller (name, value) => caller.withScope name (.string value))
    (.ofRoleList a.roles)

/-- The query in a file of tokens. -/
def readQuery (fileText : String → Except ReadFailure String) (path : String) :
    Except CommandError Query :=
  match fileText path with
  | .error failure => .error (.unreadable path failure)
  | .ok text =>
    match Query.parseFile? text with
    | some q => .ok q
    | none => .error .malformedTokens

/-- Run the command of a request. -/
def runCommand (a : Arguments) (s : Service) (fileText : String → Except ReadFailure String) :
    Except CommandError Report :=
  match a.command with
  | .check => do
    let c ← s.catalog.mapError .service
    .ok (.checked c.entities.length c.findKeyword)
  | .entities => do
    let names ← (s.entityNames a.caller).mapError .service
    .ok (.names "Entity" names)
  | .attributes entity => do
    let names ← (s.attributeNames a.caller entity).mapError .service
    .ok (.names "Attribute" names)
  | .operators entity attr => do
    let names ← (s.operatorNames a.caller entity attr).mapError .service
    .ok (.names "Operator" names)
  | .separators => .ok (.names "Separator" Service.separatorNames)
  | .values entity attr operator => do
    let choices ← (s.choices noStore a.caller entity attr operator).result.mapError .service
    .ok (.choices choices)
  | .compile file => do
    let q ← readQuery fileText file
    let compiled ← (s.compile a.caller q).1.mapError .service
    .ok (.compiled compiled)

/-- Run a request. -/
def run (a : Arguments) (fileText : String → Except ReadFailure String) :
    Except CommandError Report := do
  let source := CatalogSource.file a.catalog .builtin
  let s ← (Service.new (source.load fileText)).mapError .service
  a.runCommand s fileText

/-- The files that a request reads. -/
def files (a : Arguments) : List String :=
  match a.command with
  | .compile file => [a.catalog, file]
  | _ => [a.catalog]

end Arguments

/-- How a run ends. -/
inductive Ending
  | success (output : String)
  | failure (output : String)
  | usage (e : UsageError)

namespace Ending

def exitCode : Ending → UInt32
  | .success _ => 0
  | .failure _ => 1
  | .usage _ => 2

/-- What is printed on standard output. -/
def stdout : Ending → String
  | .success output => output ++ "\n"
  | _ => ""

/-- What is printed on standard error. -/
def stderr : Ending → String
  | .success _ => ""
  | .failure output => output ++ "\n"
  | .usage e => "error: " ++ e.reason?.getD "invalid arguments" ++ "\n"

end Ending

/-- The line that tells the version. -/
def versionText : String := "infiniquery 0.1.0"

namespace Invocation

/-- The files that an invocation reads. -/
def files : Invocation → List String
  | .version => []
  | .request a => a.files

def run (invocation : Invocation) (fileText : String → Except ReadFailure String) : Ending :=
  match invocation with
  | .version => .success versionText
  | .request a =>
    match a.run fileText with
    | .ok report => .success (report.render a.form)
    | .error e => .failure (renderError a.form e.message)

end Invocation

end GuardedQuery.CommandLine
