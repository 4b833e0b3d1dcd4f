import GuardedQuery.Text.Blank
import GuardedQuery.Text.Quoted
import GuardedQuery.Text.Split

/-! # Arguments

Options come first, then a command with its own arguments. The value of an option is looked at when
the next option is met, or at the end: an argument that is understood nowhere is reported before a
bad value in front of it. -/

namespace GuardedQuery.CommandLine

/-- The form of what is printed. -/
inductive OutputForm
  | table
  | json
  deriving DecidableEq

namespace OutputForm

def ofName? : String → Option OutputForm
  | "table" => some .table
  | "json" => some .json
  | _ => none

end OutputForm

/-- What to do. -/
inductive Command
  | check
  | entities
  | attributes (entity : String)
  | operators (entity attr : String)
  | separators
  | values (entity attr operator : String)
  | compile (file : String)
  deriving DecidableEq

/-- A request on the command line. -/
structure Arguments where
  catalog : String
  roles : String
  scope : List (String × String)
  form : OutputForm
  command : Command
  deriving DecidableEq

/-- Why arguments make no request. -/
inductive UsageError
  | malformed
  | scopeWithoutValue (text : String)
  | scopeWithoutName
  deriving DecidableEq

namespace UsageError

/-- The reason, if there is one beyond the rules of the command line. -/
def reason? : UsageError → Option String
  | .malformed => none
  | .scopeWithoutValue text => some ("expected name=value, got " ++ Text.quoted text)
  | .scopeWithoutName => some "scope attribute name is empty"

end UsageError

/-! ### Options -/

/-- An option that takes a value. -/
inductive OptionName
  | catalog
  | roles
  | scope
  | form
  deriving DecidableEq

namespace OptionName

def ofLong? : String → Option OptionName
  | "catalog" => some .catalog
  | "roles" => some .roles
  | "scope" => some .scope
  | "format" => some .form
  | _ => none

def ofShort? : Char → Option OptionName
  | 'c' => some .catalog
  | 'r' => some .roles
  | 's' => some .scope
  | _ => none

end OptionName

/-- The options read so far. Only scope attributes may be given more than once. -/
structure Options where
  catalog : Option String
  roles : Option String
  scope : List (String × String)
  form : Option OutputForm
  deriving DecidableEq

/-- The name and the value of a scope attribute. -/
def readScope (text : String) : Except UsageError (String × String) :=
  match Text.splitOnce '=' text with
  | none => .error (.scopeWithoutValue text)
  | some (name, value) =>
    let name := Text.trim name
    if name = "" then .error .scopeWithoutName else .ok (name, value)

namespace Options

def empty : Options := ⟨none, none, [], none⟩

/-- Set an option. -/
def set (o : Options) (name : OptionName) (value : String) : Except UsageError Options :=
  match name with
  | .catalog =>
    if o.catalog.isSome ∨ value = "" then .error .malformed
    else .ok { o with catalog := some value }
  | .roles =>
    if o.roles.isSome then .error .malformed else .ok { o with roles := some value }
  | .scope => do
    let binding ← readScope value
    .ok { o with scope := o.scope ++ [binding] }
  | .form =>
    match o.form, OutputForm.ofName? value with
    | none, some form => .ok { o with form := some form }
    | _, _ => .error .malformed

/-- The request of a command under the options. -/
def request (o : Options) (command : Command) : Except UsageError Arguments :=
  match o.catalog with
  | none => .error .malformed
  | some catalog =>
    .ok {
      catalog := catalog
      roles := o.roles.getD ""
      scope := o.scope
      form := o.form.getD .table
      command := command }

end Options

/-! ### Words -/

/-- An argument by its form. -/
inductive Word
  | plain
  | endOfOptions
  | option (name : OptionName) (value : Option String)
  | version
  | unknown
  deriving DecidableEq

namespace Word

/-- A word after two dashes. -/
def ofLong (text : String) : Word :=
  let (name, value) :=
    match Text.splitOnce '=' text with
    | some (name, value) => (name, some value)
    | none => (text, none)
  if name = "version" then (if value.isNone then .version else .unknown)
  else
    match OptionName.ofLong? name with
    | some name => .option name value
    | none => .unknown

/-- A word after one dash. What follows the letter is the value. -/
def ofShort (letter : Char) (rest : List Char) : Word :=
  if letter = 'V' then .version
  else
    match OptionName.ofShort? letter, rest with
    | some name, [] => .option name none
    | some name, '=' :: value => .option name (some (String.ofList value))
    | some name, value => .option name (some (String.ofList value))
    | none, _ => .unknown

def ofString (text : String) : Word :=
  match text.toList with
  | ['-', '-'] => .endOfOptions
  | '-' :: '-' :: rest => .ofLong (String.ofList rest)
  | '-' :: letter :: rest => .ofShort letter rest
  | _ => .plain

end Word

/-! ### Commands -/

/-- The arguments of a command. There are no options among them; after two dashes all are taken as
they are. -/
def commandArguments? : List String → Option (List String)
  | [] => some []
  | text :: rest =>
    match Word.ofString text with
    | .plain => (commandArguments? rest).map (text :: ·)
    | .endOfOptions => some rest
    | _ => none

/-- The command of a name, if there is one, and with its arguments. -/
def Command.ofName? (name : String) (arguments : List String) : Option (Option Command) :=
  let arguments := commandArguments? arguments
  match name with
  | "check" => some (if arguments = some [] then some .check else none)
  | "entities" => some (if arguments = some [] then some .entities else none)
  | "attributes" =>
    some (match arguments with
      | some [entity] => some (.attributes entity)
      | _ => none)
  | "operators" =>
    some (match arguments with
      | some [entity, attr] => some (.operators entity attr)
      | _ => none)
  | "separators" => some (if arguments = some [] then some .separators else none)
  | "values" =>
    some (match arguments with
      | some [entity, attr, operator] => some (.values entity attr operator)
      | _ => none)
  | "compile" =>
    some (match arguments with
      | some [file] => if file = "" then none else some (.compile file)
      | _ => none)
  | _ => none

/-! ### Whole command lines -/

/-- What a command line asks for. -/
inductive Invocation
  | version
  | request (arguments : Arguments)
  deriving DecidableEq

/-- An option whose value has not been looked at, or is still to come. -/
structure Pending where
  name : OptionName
  value : Option String
  deriving DecidableEq

namespace Options

/-- Set the option that is pending. -/
def settle (o : Options) : Option Pending → Except UsageError Options
  | none => .ok o
  | some ⟨name, some value⟩ => o.set name value
  | some ⟨_, none⟩ => .error .malformed

end Options

/-- Read arguments after the given options. -/
def readFrom (o : Options) (pending : Option Pending) : List String → Except UsageError Invocation
  | [] => do
    let _ ← o.settle pending
    .error .malformed
  | text :: rest =>
    match Word.ofString text with
    | .version => do
      let _ ← o.settle pending
      .ok .version
    | .option name none => do
      let o ← o.settle pending
      readFrom o (some ⟨name, none⟩) rest
    | .option name (some value) => do
      let o ← o.settle pending
      let o ← o.set name value
      readFrom o none rest
    | .endOfOptions =>
      match rest with
      | [] => do
        let _ ← o.settle pending
        .error .malformed
      | _ :: _ => .error .malformed
    | .unknown => .error .malformed
    | .plain =>
      match pending with
      | some ⟨name, none⟩ => readFrom o (some ⟨name, some text⟩) rest
      | _ =>
        match Command.ofName? text rest with
        | some (some command) => do
          let o ← o.settle pending
          .request <$> o.request command
        | _ => .error .malformed

/-- Read a command line. -/
def Invocation.ofArguments (arguments : List String) : Except UsageError Invocation :=
  readFrom .empty none arguments

end GuardedQuery.CommandLine
