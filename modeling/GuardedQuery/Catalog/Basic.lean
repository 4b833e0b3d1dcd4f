import GuardedQuery.Catalog.Entity
import GuardedQuery.Catalog.LiteralReaders

/-! # Catalogs

All that may be asked for, under the names that callers see. -/

namespace GuardedQuery

/-- A catalog: the word that starts a query, the entities, and the readers of literals. -/
structure Catalog where
  findKeyword : String
  entities : List Entity
  readers : LiteralReaders

namespace Catalog

/-- A catalog without entities that reads the built-in literals. -/
def new (findKeyword : String) : Catalog :=
  ⟨findKeyword, [], .builtin⟩

/-- Add entities after the others. -/
def withEntities (c : Catalog) (entities : List Entity) : Catalog :=
  { c with entities := c.entities ++ entities }

def withReaders (c : Catalog) (readers : LiteralReaders) : Catalog :=
  { c with readers := readers }

/-- The entity of a display name. -/
def entity? (c : Catalog) (displayName : String) : Option Entity :=
  c.entities.find? (·.displayName = displayName)

end Catalog

end GuardedQuery
