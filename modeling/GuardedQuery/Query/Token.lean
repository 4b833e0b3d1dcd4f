import GuardedQuery.Json.Parser
import GuardedQuery.Value.Json

/-! # Tokens and queries

A query as a caller phrases it is a list of tokens. Once compiled it also holds the text for the
store and the values of its placeholders. -/

namespace GuardedQuery

/-- What a token stands for. -/
inductive TokenKind
  | find
  | having
  | openBracket
  | closeBracket
  | entity
  | attr
  | operator
  | value
  | separator
  deriving DecidableEq

namespace TokenKind

def all : List TokenKind :=
  [.find, .having, .openBracket, .closeBracket, .entity, .attr, .operator, .value, .separator]

/-- The name in documents. -/
def name : TokenKind → String
  | .find => "findKeyword"
  | .having => "havingKeyword"
  | .openBracket => "openBracket"
  | .closeBracket => "closeBracket"
  | .entity => "entityName"
  | .attr => "entityAttributeName"
  | .operator => "operatorKeyword"
  | .value => "entityAttributeValue"
  | .separator => "conditionSeparatorKeyword"

/-- The name for people. -/
def title : TokenKind → String
  | .find => "find keyword"
  | .having => "having keyword"
  | .openBracket => "open bracket"
  | .closeBracket => "close bracket"
  | .entity => "entity name"
  | .attr => "attribute name"
  | .operator => "operator"
  | .value => "attribute value"
  | .separator => "condition separator"

def ofName? (name : String) : Option TokenKind :=
  all.find? (·.name = name)

end TokenKind

/-- A token: its kind, and what the caller sees. -/
structure Token where
  kind : TokenKind
  text : String
  deriving DecidableEq

namespace Token

def toJson (t : Token) : Json :=
  .object [("type", .string t.kind.name), ("displayValue", .string t.text)]

def ofJson? (j : Json) : Option Token := do
  match ← j.record? ["type", "displayValue"] with
  | [some kind, some text] =>
    some { kind := ← kind.tag?.bind TokenKind.ofName?, text := ← text.string? }
  | _ => none

end Token

/-- The text for the store, and the values of its placeholders from left to right. -/
structure CompiledQuery where
  text : String
  parameters : List Value
  deriving DecidableEq

namespace CompiledQuery

def toJson (q : CompiledQuery) : Json :=
  .object [("query", .string q.text), ("params", .array (q.parameters.map Value.toJson))]

def ofJson? (j : Json) : Option CompiledQuery := do
  match ← j.record? ["query", "params"] with
  | [some text, some parameters] =>
    some { text := ← text.string?, parameters := ← parameters.list? Value.ofJson? }
  | _ => none

end CompiledQuery

/-- The tokens of a query, with its compiled form if it has one. -/
structure Query where
  tokens : List Token
  compiled : Option CompiledQuery
  deriving DecidableEq

namespace Query

/-- A query that is not compiled. -/
def ofTokens (tokens : List Token) : Query := ⟨tokens, none⟩

/-- The name in the first entity token. -/
def entityName? (q : Query) : Option String :=
  (q.tokens.find? (·.kind = .entity)).map (·.text)

/-- A form that does not exist is left out. -/
def toJson (q : Query) : Json :=
  .object (("tokens", .array (q.tokens.map Token.toJson)) ::
    match q.compiled with
    | some compiled => [("compiled", compiled.toJson)]
    | none => [])

def ofJson? (j : Json) : Option Query := do
  match ← j.record? ["tokens", "compiled"] with
  | [some tokens, compiled] =>
    some {
      tokens := ← tokens.list? Token.ofJson?
      compiled := ← (match compiled with
        | none => some none
        | some .null => some none
        | some compiled => (CompiledQuery.ofJson? compiled).map some) }
  | _ => none

/-- Read the text of a query. -/
def parse? (text : String) : Option Query :=
  (Json.parse? text).bind ofJson?

/-- Read the text of a list of tokens. -/
def parseTokens? (text : String) : Option Query :=
  (Json.parse? text).bind fun j => (j.list? Token.ofJson?).map ofTokens

/-- Read a file of tokens: a bare list of them, or a query. -/
def parseFile? (text : String) : Option Query := do
  let j ← (← Json.parse? text).settled? Json.nestingLimit
  match j with
  | .array _ => (j.list? Token.ofJson?).map ofTokens
  | _ => ofJson? j

end Query

end GuardedQuery
