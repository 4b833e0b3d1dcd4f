import GuardedQuery.Catalog.ValueType

/-! # Operators and separators

What may stand between an attribute and a value, and between two conditions. Each has a name for
callers and a spelling in the store. -/

namespace GuardedQuery

/-- How many values an operator takes. -/
inductive Arity
  | single
  | multiple
  deriving DecidableEq

/-- A comparison of an attribute with a value. -/
inductive Operator
  | equals
  | like
  | isIn
  | greaterThan
  | lowerThan
  | greaterThanOrEquals
  | lowerThanOrEquals
  | before
  | after
  deriving DecidableEq

namespace Operator

/-- All operators, in the order in which spellings are looked up. -/
def all : List Operator :=
  [.equals, .like, .isIn, .greaterThan, .lowerThan, .greaterThanOrEquals, .lowerThanOrEquals,
    .before, .after]

/-- The name for callers. -/
def displayName : Operator → String
  | .equals => "="
  | .like => "like"
  | .isIn => "in"
  | .greaterThan => "greater than"
  | .lowerThan => "lower than"
  | .greaterThanOrEquals => "greater than or equal to"
  | .lowerThanOrEquals => "lower than or equal to"
  | .before => "before"
  | .after => "after"

/-- The spelling in the store. -/
def symbol : Operator → String
  | .equals => "="
  | .like => "LIKE"
  | .isIn => "IN"
  | .greaterThan | .after => ">"
  | .lowerThan | .before => "<"
  | .greaterThanOrEquals => ">="
  | .lowerThanOrEquals => "<="

def arity : Operator → Arity
  | .isIn => .multiple
  | _ => .single

/-- The operator of a name, or else the first one with that spelling. -/
def resolve? (name : String) : Option Operator :=
  (all.find? (·.displayName = name)).or (all.find? (·.symbol = name))

/-- The operators that apply to a kind of value, in the order in which they are offered. -/
def applicable : ValueKind → List Operator
  | .number => [.equals, .greaterThan, .lowerThan, .greaterThanOrEquals, .lowerThanOrEquals]
  | .text => [.equals, .like, .isIn]
  | .timestamp | .date => [.before, .after, .equals]
  | .relationship => [.isIn]
  | .boolean | .custom => [.equals]

end Operator

/-- What joins two conditions. -/
inductive Separator
  | and
  | or
  deriving DecidableEq

namespace Separator

def all : List Separator := [.and, .or]

/-- The name for callers. -/
def displayName : Separator → String
  | .and => "and"
  | .or => "or"

/-- The spelling in the store. -/
def keyword : Separator → String
  | .and => "AND"
  | .or => "OR"

/-- The separator of a name or a spelling. -/
def resolve? (name : String) : Option Separator :=
  all.find? fun s => s.displayName = name ∨ s.keyword = name

end Separator

/-! ### Input controls -/

/-- What a caller is offered to type a value into. -/
inductive Control
  | number
  | freeTextSingle
  | freeTextMultiple
  | date
  | dateTime
  | referenceSingle
  | referenceMultiple
  deriving DecidableEq

namespace Control

/-- The control for a kind of value with an operator, if there is one. -/
def forOperator? (kind : ValueKind) (operator : Operator) : Option Control :=
  match kind, operator.arity with
  | .number, _ => some .number
  | .timestamp, _ => some .dateTime
  | .date, _ => some .date
  | .text, .single => some .freeTextSingle
  | .text, .multiple => some .freeTextMultiple
  | .relationship, .single => some .referenceSingle
  | .relationship, .multiple => some .referenceMultiple
  | .boolean, _ | .custom, _ => none

/-- The name in documents. -/
def name : Control → String
  | .number => "NUMBER_INPUT"
  | .freeTextSingle => "FREE_TEXT_INPUT_SINGLE_VALUE"
  | .freeTextMultiple => "FREE_TEXT_INPUT_MULTIPLE_VALUES"
  | .date => "DATE_INPUT"
  | .dateTime => "DATE_TIME_INPUT"
  | .referenceSingle => "REFERENCE_DATA_INPUT_SINGLE_VALUE"
  | .referenceMultiple => "REFERENCE_DATA_INPUT_MULTIPLE_VALUES"

/-- The name in tables. -/
def title : Control → String
  | .number => "NumberInput"
  | .freeTextSingle => "FreeTextInputSingleValue"
  | .freeTextMultiple => "FreeTextInputMultipleValues"
  | .date => "DateInput"
  | .dateTime => "DateTimeInput"
  | .referenceSingle => "ReferenceDataInputSingleValue"
  | .referenceMultiple => "ReferenceDataInputMultipleValues"

end Control

end GuardedQuery
