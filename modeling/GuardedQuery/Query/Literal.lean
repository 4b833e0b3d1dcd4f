import GuardedQuery.Catalog.Attribute
import GuardedQuery.Catalog.LiteralReaders
import GuardedQuery.Query.Error

/-! # Literals

What a caller typed, read by the type of the attribute it is compared with: the placeholders it
takes in the text, and their values. -/

namespace GuardedQuery

/-- Placeholders, with a space in front, and their values. -/
structure ParsedLiteral where
  fragment : String
  values : List Value
  deriving DecidableEq

namespace ParsedLiteral

/-- One value under a bare placeholder. -/
def single (value : Value) : ParsedLiteral := ⟨" ?", [value]⟩

/-- A list of values under placeholders in parentheses. -/
def list (values : List Value) : ParsedLiteral :=
  ⟨" (" ++ String.intercalate "," (values.map fun _ => "?") ++ ")", values⟩

end ParsedLiteral

namespace Literal

/-- The list without the empty items at its end. -/
def dropEmptyEnd (items : List String) : List String :=
  (items.reverse.dropWhile (· = "")).reverse

/-- The items between commas. Empty items at the end are dropped, unless there is no comma at
all. -/
def items (literal : String) : List String :=
  match Text.split ',' literal with
  | [item] => [item]
  | items => dropEmptyEnd items

/-- Read a literal for an attribute. -/
def read (a : Attribute) (literal : String) (readers : LiteralReaders) :
    Except CompileError ParsedLiteral :=
  let malformed (reason : String) : CompileError :=
    .malformedLiteral a.displayName a.type.describe literal reason
  match a.type.kind with
  | .text => .ok (.single (.string literal))
  | .timestamp =>
    match Calendar.readTimestamp Calendar.monthFirstTime (Text.trimChars literal.toList) with
    | .ok t => .ok (.single (.timestamp t))
    | .error e => .error (malformed e.message)
  | .date =>
    match Calendar.readDate Calendar.monthFirst (Text.trimChars literal.toList) with
    | .ok d => .ok (.single (.date d))
    | .error e => .error (malformed e.message)
  | .relationship =>
    match items literal with
    | [] => .error (malformed "expected at least one value")
    | items => .ok (.list (items.map .string))
  | .number | .boolean | .custom =>
    match readers.get? a.type.tag with
    | none => .error (.unsupportedType a.displayName a.type.describe)
    | some reader =>
      match reader literal with
      | .ok value => .ok (.single value)
      | .error reason => .error (malformed reason)

end Literal

end GuardedQuery
