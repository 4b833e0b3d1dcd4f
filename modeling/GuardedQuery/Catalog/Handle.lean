import GuardedQuery.Catalog.Validation

/-! # The catalog in service

A handle serves one valid catalog at a time, or tells why it serves none. Installing a catalog
counts the version up; a failure does not. -/

namespace GuardedQuery

/-- What a handle serves. -/
inductive Serving
  | ready (catalog : Catalog)
  | failed (reason : String)

/-- A handle with the number of catalogs installed so far. -/
structure CatalogHandle where
  serving : Serving
  /-- A counter of 64 bits holds it on every run of fewer than `UInt64.size - 1` calls. -/
  version : Nat

namespace CatalogHandle

/-- A handle that serves its first catalog. -/
def new (c : Catalog) : Except CatalogError CatalogHandle := do
  c.validate
  .ok ⟨.ready c, 1⟩

/-- The catalog being served. -/
def snapshot (h : CatalogHandle) : Except CatalogError Catalog :=
  match h.serving with
  | .ready c => .ok c
  | .failed reason => .error (.unavailable reason)

/-- Install a valid catalog. -/
def replace (h : CatalogHandle) (c : Catalog) : Except CatalogError CatalogHandle := do
  c.validate
  .ok ⟨.ready c, h.version + 1⟩

/-- Serve nothing until a catalog is installed. -/
def fail (h : CatalogHandle) (reason : String) : CatalogHandle :=
  { h with serving := .failed reason }

def isAvailable (h : CatalogHandle) : Bool :=
  match h.serving with
  | .ready _ => true
  | .failed _ => false

/-- The state of the handle as shown in messages. -/
def describe (h : CatalogHandle) : String :=
  "SharedCatalog \x7b version: " ++ toString h.version ++ ", available: " ++
    toString h.isAvailable ++ " \x7d"

end CatalogHandle

end GuardedQuery
