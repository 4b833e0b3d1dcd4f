import GuardedQuery.CommandLine.Arguments
import GuardedQuery.CommandLine.Table
import GuardedQuery.Json.Printer
import GuardedQuery.Service.Basic

/-! # Reports

What a command prints, as a table or as JSON. -/

namespace GuardedQuery.CommandLine

/-- The result of a command. -/
inductive Report
  | checked (entities : Nat) (findKeyword : String)
  | names (title : String) (names : List String)
  | choices (c : Choices)
  | compiled (q : CompiledQuery)

/-- The name of the type of a parameter. -/
def parameterType : Value → String
  | .null => "null"
  | .bool _ => "boolean"
  | .int16 _ => "int16"
  | .int32 _ => "int32"
  | .int64 _ => "int64"
  | .float32 _ => "float32"
  | .float64 _ => "float64"
  | .string _ => "text"
  | .date _ => "date"
  | .timestamp _ => "timestamp"

/-- The parameters of a query in a table, counted from one. -/
def parameterTable (parameters : List Value) : Table where
  header := ["#", "Parameter", "Type"]
  rows := parameters.mapIdx fun index value =>
    [toString (index + 1), value.text, parameterType value]

namespace Report

def checkedText (entities : Nat) (findKeyword : String) : String :=
  "Catalog OK: " ++ toString entities ++ " entities, find keyword " ++ Text.quoted findKeyword

/-- The report with tables. -/
def text : Report → String
  | .checked entities findKeyword => checkedText entities findKeyword
  | .names title [] => "No " ++ Text.asciiLowerCase title
  | .names title items => ({ header := [title], rows := items.map ([·]) } : Table).render
  | .choices c =>
    let control := "Control: " ++ (c.control.map Control.title).getD "none"
    match c.values with
    | none => control
    | some values =>
      control ++ "\n\n" ++ ({ header := ["Value"], rows := values.map ([·]) } : Table).render
  | .compiled q =>
    if q.parameters.isEmpty then q.text
    else q.text ++ "\n\n" ++ (parameterTable q.parameters).render

/-- The report as indented JSON. -/
def json : Report → String
  | .checked entities findKeyword => checkedText entities findKeyword
  | .names _ items => (Json.array (items.map .string)).indented
  | .choices c => c.toJson.indented
  | .compiled q =>
    (Json.object [
      ("params", .array (q.parameters.map fun value => .string value.text)),
      ("query", .string q.text)]).indented

def render : OutputForm → Report → String
  | .table => text
  | .json => json

end Report

/-- An error as printed in a form. -/
def renderError (form : OutputForm) (message : String) : String :=
  match form with
  | .table => "Error: " ++ message
  | .json => (Json.object [("error", .string message)]).compact

end GuardedQuery.CommandLine
