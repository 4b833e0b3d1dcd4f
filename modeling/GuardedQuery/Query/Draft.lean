import GuardedQuery.Catalog.Basic
import GuardedQuery.Operator
import GuardedQuery.Query.Literal
import GuardedQuery.Query.Token
import GuardedQuery.Text.Insert

/-! # Drafts

A query text grows token by token. Conditions are written at the end; the joins that a condition
needs are inserted behind those of the conditions before it, so a draft remembers that place and the
place where the conditions start. Both places are counted in bytes. -/

namespace GuardedQuery

/-- A query text under construction. -/
structure Draft where
  text : List Char
  parameters : List Value
  /-- The number of the next alias. -/
  nextAlias : Nat
  /-- Where joins are inserted. -/
  joinsAt : Nat
  /-- Where the conditions start. -/
  filterAt : Option Nat
  entity : Option Entity
  attr : Option Attribute

namespace Draft

/-- The draft before the first token. -/
def empty : Draft where
  text := []
  parameters := []
  nextAlias := 1
  joinsAt := 0
  filterAt := none
  entity := none
  attr := none

/-- Add to the end of the text. -/
def write (d : Draft) (piece : List Char) : Draft :=
  { d with text := d.text ++ piece }

/-- Insert into the text. -/
def splice (d : Draft) (offset : Nat) (piece : List Char) : Except CompileError Draft :=
  match Text.insertAt offset piece d.text with
  | some text => .ok { d with text := text }
  | none => .error (.misplacedSplice offset)

/-! ### Aliases and joins -/

/-- The alias of the records asked for. -/
def rootAlias : List Char := ['x']

/-- The alias of a joined record. -/
def joinAlias (number : Nat) : List Char :=
  rootAlias ++ Digit.chars number

/-- A field of an alias, with a space in front. -/
def fieldOf (source field : List Char) : List Char :=
  ' ' :: source ++ '.' :: field

/-- The join of a field under a new alias. -/
def joinClause (source hop target : List Char) : List Char :=
  " LEFT JOIN".toList ++ fieldOf source hop ++ ' ' :: target

/-- The joins along hops, numbered from `number`, and the alias at their end. -/
def joinChain (source : List Char) (number : Nat) : List String → List Char × List Char
  | [] => ([], source)
  | hop :: hops =>
    let target := joinAlias number
    let (chain, last) := joinChain target (number + 1) hops
    (joinClause source hop.toList target ++ chain, last)

/-- The hops to join along a label path, at least one, and the field at its end. -/
def joinsOf? (path : String) : Option (List String × String) :=
  let hops := Text.split '.' path
  match hops.dropLast, hops.getLast? with
  | hop :: joins, some label => some (hop :: joins, label)
  | _, _ => none

/-- Insert joins behind the earlier ones. -/
def insertJoins (d : Draft) (chain : List Char) (count : Nat) : Except CompileError Draft := do
  let length := Text.byteLength chain
  let d ← d.splice d.joinsAt chain
  .ok { d with
    nextAlias := d.nextAlias + count
    joinsAt := d.joinsAt + length
    filterAt := d.filterAt.map (· + length) }

/-- Write the label of a related record, behind the joins that lead to it. -/
def writeLabel (d : Draft) (a : Attribute) : Except CompileError Draft :=
  match a.labelPath?.bind joinsOf? with
  | none => .error (.invalidLabelPath a.displayName)
  | some (joins, label) => do
    let (chain, last) := joinChain rootAlias d.nextAlias joins
    let d ← d.insertJoins chain joins.length
    .ok (d.write (fieldOf last label.toList))

/-- Write an attribute. -/
def writeAttribute (d : Draft) (a : Attribute) : Except CompileError Draft :=
  if a.type.isRelationship then d.writeLabel a
  else .ok (d.write (fieldOf rootAlias a.name.toList))

/-! ### Tokens -/

/-- The clause that names the records asked for. -/
def entityClause (e : Entity) : List Char :=
  ' ' :: rootAlias ++ " FROM ".toList ++ e.typeId.toList ++ ' ' :: rootAlias

/-- Start the conditions at the end of the text. -/
def startFilter (d : Draft) : Draft :=
  let d := d.write " WHERE".toList
  { d with filterAt := some (Text.byteLength d.text) }

/-- Name the records asked for. Joins follow at the end of the text, and the last attribute
stays. -/
def startEntity (d : Draft) (e : Entity) : Draft :=
  let d := d.write (entityClause e)
  { d with joinsAt := Text.byteLength d.text, entity := some e }

/-- The draft after one more token. -/
def step (c : Catalog) (d : Draft) (position : Nat) (token : Token) : Except CompileError Draft :=
  match token.kind with
  | .find => .ok (d.write "SELECT DISTINCT".toList)
  | .having => .ok d.startFilter
  | .openBracket => .ok (d.write " (".toList)
  | .closeBracket => .ok (d.write " )".toList)
  | .entity =>
    match c.entity? token.text with
    | none => .error (.unknownEntity token.text position)
    | some e => .ok (d.startEntity e)
  | .attr =>
    match d.entity with
    | none => .error .missingEntity
    | some e =>
      match e.attribute? token.text .query with
      | none => .error (.unknownAttribute e.displayName token.text position)
      | some a => do
        let d ← d.writeAttribute a
        .ok { d with attr := some a }
  | .operator =>
    match Operator.resolve? token.text with
    | none => .error (.unknownOperator token.text position)
    | some operator => .ok (d.write (' ' :: operator.symbol.toList))
  | .value =>
    match d.attr with
    | none => .error (.missingAttribute token.text position)
    | some a => do
      let literal ← Literal.read a token.text c.readers
      let d := d.write literal.fragment.toList
      .ok { d with parameters := d.parameters ++ literal.values }
  | .separator =>
    match Separator.resolve? token.text with
    | none => .error (.unknownSeparator token.text position)
    | some separator => .ok (d.write (' ' :: separator.keyword.toList))

/-- The draft after tokens, of which the first has the given position. -/
def steps (c : Catalog) (d : Draft) (position : Nat) : List Token → Except CompileError Draft
  | [] => .ok d
  | token :: tokens => do
    let d ← d.step c position token
    d.steps c (position + 1) tokens

end Draft

end GuardedQuery
