import GuardedQuery.Catalog.Basic
import GuardedQuery.Catalog.Error

/-! # Valid catalogs

A check in the order of the declarations, which stops at the first violation. -/

namespace GuardedQuery.Catalog

/-- A type whose literals are read by a registered reader. -/
def needsReader (t : ValueType) : Bool :=
  match t.kind with
  | .number | .boolean | .custom => true
  | _ => false

/-- Readers are needed for numbers, for booleans and for custom types. -/
theorem needsReader_iff {t : ValueType} : needsReader t = true ↔
    t ∈ [.int16, .int32, .int64, .float32, .float64, .boolean] ∨ ∃ name, t = .custom name := by
  cases t <;> simp [needsReader, ValueType.kind]

/-- The label path of a relationship has at least two hops, none empty, and starts with the
attribute. -/
def checkPath (entity : Entity) (a : Attribute) : Except CatalogError Unit :=
  let invalid (fault : PathFault) : Except CatalogError Unit :=
    .error (.invalidLabelPath entity.displayName a.displayName fault)
  match a.labelPath? with
  | none => invalid .missing
  | some path =>
    let hops := Text.split '.' path
    if hops.length < 2 ∨ "" ∈ hops then invalid .tooFewHops
    else if hops.head? ≠ some a.name then invalid .startsElsewhere
    else .ok ()

/-- What an attribute must satisfy by itself. -/
def checkAttribute (readers : LiteralReaders) (entity : Entity) (a : Attribute) :
    Except CatalogError Unit := do
  if a.valuesQuery.isSome ∧ a.labelPath?.isNone then
    .error (.invalidLabelPath entity.displayName a.displayName .valuesWithoutLabel)
  if a.type.isRelationship then checkPath entity a
  if needsReader a.type ∧ ¬ readers.contains a.type.tag then
    .error (.unsupportedType entity.displayName a.displayName a.type.tag)

/-- Check attributes that follow attributes with the `seen` names. -/
def checkAttributes (readers : LiteralReaders) (entity : Entity) :
    List String → List Attribute → Except CatalogError Unit
  | _, [] => .ok ()
  | seen, a :: rest => do
    if a.displayName ∈ seen then
      .error (.duplicateAttribute entity.displayName a.displayName)
    checkAttribute readers entity a
    checkAttributes readers entity (a.displayName :: seen) rest

/-- Check entities that follow entities with the `seen` names. -/
def checkEntities (readers : LiteralReaders) : List String → List Entity → Except CatalogError Unit
  | _, [] => .ok ()
  | seen, e :: rest => do
    if e.displayName ∈ seen then .error (.duplicateEntity e.displayName)
    checkAttributes readers e [] e.attributes
    checkEntities readers (e.displayName :: seen) rest

/-- Check a catalog: its find keyword, then entity by entity its name and its attributes. -/
def validate (c : Catalog) : Except CatalogError Unit := do
  if Text.allBlank c.findKeyword then .error .missingFindKeyword
  checkEntities c.readers [] c.entities

/-- Nothing is wrong with the catalog. -/
def isValid (c : Catalog) : Bool :=
  match c.validate with
  | .ok () => true
  | .error _ => false

end GuardedQuery.Catalog
