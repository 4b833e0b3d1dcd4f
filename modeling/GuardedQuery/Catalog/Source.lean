import GuardedQuery.Catalog.Document

/-! # Where catalogs come from -/

namespace GuardedQuery

/-- The text of a file, which has to be UTF-8. -/
def ReadFailure.checkText (bytes : ByteArray) : Except ReadFailure String :=
  match String.fromUTF8? bytes with
  | some text => .ok text
  | none => .error .notText

/-- A catalog that is ready, or one that is written in a file. -/
inductive CatalogSource
  | ready (catalog : Catalog)
  | file (path : String) (readers : LiteralReaders)

namespace CatalogSource

/-- Load a catalog. Files are read with the given function. -/
def load (source : CatalogSource) (fileText : String → Except ReadFailure String) :
    Except CatalogError Catalog :=
  match source with
  | .ready catalog => .ok catalog
  | .file path readers =>
    match fileText path with
    | .ok text => Catalog.ofText text readers
    | .error failure => .error (.unreadable path failure)

end CatalogSource

end GuardedQuery
