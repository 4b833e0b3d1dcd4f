import GuardedQuery.Value.Basic

/-! # Named placeholders

A filter may hold `:name` outside single quotes. Every such name becomes a placeholder, and its
value is looked up; all other text stays as it is. -/

namespace GuardedQuery.Placeholder

/-- A character that may start a name. -/
def startsName (c : Char) : Bool :=
  c.isAlpha || c == '_'

/-- A character that may continue a name. -/
def inName (c : Char) : Bool :=
  c.isAlphanum || c == '_'

/-- A piece of a filter: a character of its text, or a name. -/
inductive Piece
  | char (c : Char)
  | name (chars : List Char)
  deriving DecidableEq, Repr

/-- Cut a filter into pieces. The flag tells whether the text is inside quotes, and `pending` holds
the characters of a name that has begun, last first. A quote written twice inside quotes changes the
flag twice. -/
def piecesFrom : Bool → Option (List Char) → List Char → List Piece
  | _, none, [] => []
  | _, some pending, [] => [.name pending.reverse]
  | quoted, some pending, c :: cs =>
    if inName c then piecesFrom quoted (some (c :: pending)) cs
    else .name pending.reverse :: piecesAt quoted c cs
  | quoted, none, c :: cs => piecesAt quoted c cs
termination_by _ _ cs => 2 * cs.length
where
  /-- The pieces from a character outside names. -/
  piecesAt (quoted : Bool) (c : Char) (cs : List Char) : List Piece :=
    if c = '\'' then .char c :: piecesFrom (!quoted) none cs
    else if !quoted && c == ':' && (cs.head?.map startsName).getD false then
      piecesFrom quoted (some []) cs
    else .char c :: piecesFrom quoted none cs
  -- a character that has been taken off the text counts less than one that is still in it
  termination_by 2 * cs.length + 1

/-- The pieces of a whole filter. -/
def pieces (filter : List Char) : List Piece :=
  piecesFrom false none filter

/-- The text of pieces with a placeholder for every name, and the values of the names from left to
right. The first name without a value decides the error. -/
def bindPieces {ε : Type} (resolve : String → Except ε Value) :
    List Piece → Except ε (List Char × List Value)
  | [] => .ok ([], [])
  | .char c :: rest => do
    let (text, values) ← bindPieces resolve rest
    .ok (c :: text, values)
  | .name chars :: rest => do
    let value ← resolve (String.ofList chars)
    let (text, values) ← bindPieces resolve rest
    .ok ('?' :: text, value :: values)

/-- Put placeholders into a filter and look up their values. -/
def bind {ε : Type} (resolve : String → Except ε Value) (filter : List Char) :
    Except ε (List Char × List Value) :=
  bindPieces resolve (pieces filter)

end GuardedQuery.Placeholder
