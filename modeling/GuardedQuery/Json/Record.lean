import GuardedQuery.Json.Number

/-! # Records and tags in JSON

A record is an object with known names, or an array of their values in order. Names that are not
known are ignored, and no known name may be repeated. A tag is a string, or an object whose only
name is the tag. -/

namespace GuardedQuery

namespace Json

/-- The only field of a name; `none` if it is repeated. -/
def uniqueField (name : String) (fields : List (String × Json)) : Option (Option Json) :=
  match fields.filter (·.1 == name) with
  | [] => some none
  | [(_, j)] => some (some j)
  | _ => none

/-- The values of the named fields, in the order of the names. -/
def record? (names : List String) : Json → Option (List (Option Json))
  | .object fields => names.mapM (uniqueField · fields)
  | .array items =>
    if items.length ≤ names.length then
      some (items.map some ++ List.replicate (names.length - items.length) none)
    else none
  | _ => none

def string? : Json → Option String
  | .string s => some s
  | _ => none

/-- The items of an array, each decoded. -/
def list? {α : Type} (decode : Json → Option α) : Json → Option (List α)
  | .array items => items.mapM decode
  | _ => none

/-- A string, or nothing where the field is null or absent. -/
def optionalString? : Option Json → Option (Option String)
  | none => some none
  | some .null => some none
  | some (.string s) => some (some s)
  | some _ => none

/-- A tag with its content: a bare string has none. -/
def variant? : Json → Option (String × Option Json)
  | .string tag => some (tag, none)
  | .object [(tag, content)] => some (tag, some content)
  | _ => none

/-- A tag without content. -/
def tag? (j : Json) : Option String :=
  match j.variant? with
  | some (tag, none) => some tag
  | some (tag, some .null) => some tag
  | _ => none

/-- The fields with each name once: the last value in the place of the first. -/
def lastFields : List (String × Json) → List (String × Json)
  | [] => []
  | (name, j) :: rest =>
    let value := ((rest.filter (·.1 == name)).getLast?.map (·.2)).getD j
    (name, value) :: (lastFields rest).filter (·.1 != name)

mutual

/-- The tree of a text read without knowing its fields: containers nest up to a limit, every string
is readable, every number is in range, and of a repeated name the last value counts. -/
def settled? (limit : Nat) : Json → Option Json
  | .null => some .null
  | .bool b => some (.bool b)
  | .number n => if n.integer?.isSome ∨ n.double?.isSome then some (.number n) else none
  | .string s => some (.string s)
  | .array items =>
    match limit with
    | 0 => none
    | limit + 1 => (settledItems? limit items).map .array
  | .object fields =>
    match limit with
    | 0 => none
    | limit + 1 => (settledFields? limit fields).map (.object ∘ lastFields)
  | .unreadable => none

def settledItems? (limit : Nat) : List Json → Option (List Json)
  | [] => some []
  | j :: rest => do
    let j ← settled? limit j
    let rest ← settledItems? limit rest
    some (j :: rest)

def settledFields? (limit : Nat) : List (String × Json) → Option (List (String × Json))
  | [] => some []
  | (name, j) :: rest => do
    let j ← settled? limit j
    let rest ← settledFields? limit rest
    some ((name, j) :: rest)

end

/-- The containers that may nest in a text read without knowing its fields. -/
def nestingLimit : Nat := 127

end Json

end GuardedQuery
