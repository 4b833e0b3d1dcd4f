import GuardedQuery.Catalog.Validation
import GuardedQuery.Json.Parser
import GuardedQuery.Json.Printer

/-! # Catalog documents

The written form of a catalog. A document keeps what is absent apart from what is empty; the catalog
made from it does not. -/

namespace GuardedQuery

/-- The entry of an attribute. -/
structure AttributeEntry where
  name : String
  displayName : String
  type : ValueType
  roles : Option String
  scope : Scope
  valuesQuery : Option String
  label : Option String
  labelPath : Option String
  deriving DecidableEq

/-- The entry of an entity. -/
structure EntityEntry where
  typeId : String
  displayName : String
  roles : Option String
  filter : Option String
  attributes : List AttributeEntry
  deriving DecidableEq

/-- A catalog document. -/
structure CatalogDocument where
  findKeyword : String
  entities : List EntityEntry
  deriving DecidableEq

/-! ### Reading -/

namespace AttributeEntry

def fieldNames : List String :=
  ["attributeName", "displayName", "valueType", "roles", "scope", "possibleValuesQuery",
    "possibleValueLabelAttribute", "possibleValueLabelAttributePath"]

def ofJson? (j : Json) : Option AttributeEntry := do
  match ← j.record? fieldNames with
  | [some name, some displayName, some type, roles, scope, query, label, path] =>
    some {
      name := ← name.string?
      displayName := ← displayName.string?
      type := ← ValueType.ofJson? type
      roles := ← Json.optionalString? roles
      scope := ← (match scope with
        | some scope => Scope.ofJson? scope
        | none => some .both)
      valuesQuery := ← Json.optionalString? query
      label := ← Json.optionalString? label
      labelPath := ← Json.optionalString? path }
  | _ => none

end AttributeEntry

namespace EntityEntry

def fieldNames : List String :=
  ["typeId", "displayName", "roles", "additionalFilter", "attributes"]

def ofJson? (j : Json) : Option EntityEntry := do
  match ← j.record? fieldNames with
  | [some typeId, some displayName, roles, filter, attributes] =>
    some {
      typeId := ← typeId.string?
      displayName := ← displayName.string?
      roles := ← Json.optionalString? roles
      filter := ← Json.optionalString? filter
      attributes := ← (match attributes with
        | some attributes => attributes.list? AttributeEntry.ofJson?
        | none => some []) }
  | _ => none

end EntityEntry

namespace CatalogDocument

def fieldNames : List String := ["findKeyword", "entities"]

def ofJson? (j : Json) : Option CatalogDocument := do
  match ← j.record? fieldNames with
  | [findKeyword, entities] =>
    some {
      findKeyword := ← (match findKeyword with
        | some findKeyword => findKeyword.string?
        | none => some "")
      entities := ← (match entities with
        | some entities => entities.list? EntityEntry.ofJson?
        | none => some []) }
  | _ => none

/-- Read the text of a document. -/
def parse? (text : String) : Option CatalogDocument :=
  (Json.parse? text).bind ofJson?

end CatalogDocument

/-! ### Writing -/

namespace AttributeEntry

def toJson (a : AttributeEntry) : Json :=
  .object [
    ("attributeName", .string a.name),
    ("displayName", .string a.displayName),
    ("valueType", a.type.toJson),
    ("roles", .ofOptionString a.roles),
    ("scope", a.scope.toJson),
    ("possibleValuesQuery", .ofOptionString a.valuesQuery),
    ("possibleValueLabelAttribute", .ofOptionString a.label),
    ("possibleValueLabelAttributePath", .ofOptionString a.labelPath)]

end AttributeEntry

namespace EntityEntry

def toJson (e : EntityEntry) : Json :=
  .object [
    ("typeId", .string e.typeId),
    ("displayName", .string e.displayName),
    ("roles", .ofOptionString e.roles),
    ("additionalFilter", .ofOptionString e.filter),
    ("attributes", .array (e.attributes.map AttributeEntry.toJson))]

end EntityEntry

namespace CatalogDocument

def toJson (d : CatalogDocument) : Json :=
  .object [
    ("findKeyword", .string d.findKeyword),
    ("entities", .array (d.entities.map EntityEntry.toJson))]

/-- The text of a document. -/
def text (d : CatalogDocument) : String :=
  d.toJson.compact

end CatalogDocument

/-! ### The catalog of a document -/

namespace AttributeEntry

/-- The attribute of an entry. A blank query and an empty label or path count as absent. -/
def toAttribute (entry : AttributeEntry) : Attribute :=
  let a := (Attribute.new entry.name entry.displayName entry.type).withScope entry.scope
  let a := (entry.roles.map a.withRoles).getD a
  let a := ((entry.valuesQuery.filter (! Text.allBlank ·)).map a.withValuesQuery).getD a
  let a := ((entry.label.filter (· ≠ "")).map a.withLabel).getD a
  ((entry.labelPath.filter (· ≠ "")).map a.withLabelPath).getD a

end AttributeEntry

namespace EntityEntry

/-- The entity of an entry. A blank filter counts as absent. -/
def toEntity (entry : EntityEntry) : Entity :=
  let e :=
    (Entity.new entry.typeId entry.displayName).withAttributes
      (entry.attributes.map AttributeEntry.toAttribute)
  let e := (entry.roles.map e.withRoles).getD e
  ((entry.filter.filter (! Text.allBlank ·)).map e.withFilter).getD e

end EntityEntry

namespace CatalogDocument

/-- The catalog of a document, with the given readers of literals. -/
def toCatalog (d : CatalogDocument) (readers : LiteralReaders) : Catalog :=
  ((Catalog.new d.findKeyword).withReaders readers).withEntities
    (d.entities.map EntityEntry.toEntity)

end CatalogDocument

namespace Catalog

/-- The valid catalog of the text of a document. -/
def ofText (text : String) (readers : LiteralReaders) : Except CatalogError Catalog := do
  match CatalogDocument.parse? text with
  | none => .error .malformed
  | some document =>
    let catalog := document.toCatalog readers
    catalog.validate
    .ok catalog

end Catalog

end GuardedQuery
