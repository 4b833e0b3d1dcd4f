import GuardedQuery.Catalog.Document
import GuardedQuery.Proofs.Json.Decoding
import GuardedQuery.Proofs.Json.Text

/-! # Catalog documents read back

Each entry of a document is read back from the tree that is written for it, from the types and
scopes at the leaves to the document itself. -/

namespace GuardedQuery

theorem ValueType.ofJson?_toJson (t : ValueType) : ofJson? t.toJson = some t := by
  cases t <;> rfl

theorem Scope.ofJson?_toJson (s : Scope) : ofJson? s.toJson = some s := by
  cases s <;> rfl

theorem AttributeEntry.ofJson?_toJson (a : AttributeEntry) : ofJson? a.toJson = some a := by
  rw [ofJson?, toJson, Json.record?_object (by simp)]
  simp [fieldNames, List.lookup_cons, Json.string?, ValueType.ofJson?_toJson, Scope.ofJson?_toJson,
    Json.optionalString?_ofOptionString]

theorem EntityEntry.ofJson?_toJson (e : EntityEntry) : ofJson? e.toJson = some e := by
  have hattributes : Json.list? AttributeEntry.ofJson?
      (.array (e.attributes.map AttributeEntry.toJson)) = some e.attributes :=
    Json.list?_map_eq_some.mpr fun a _ => a.ofJson?_toJson
  rw [ofJson?, toJson, Json.record?_object (by simp)]
  simp [fieldNames, List.lookup_cons, Json.string?, hattributes,
    Json.optionalString?_ofOptionString]

namespace CatalogDocument

theorem ofJson?_toJson (d : CatalogDocument) : ofJson? d.toJson = some d := by
  have hentities : Json.list? EntityEntry.ofJson? (.array (d.entities.map EntityEntry.toJson)) =
      some d.entities :=
    Json.list?_map_eq_some.mpr fun e _ => e.ofJson?_toJson
  rw [ofJson?, toJson, Json.record?_object (by simp)]
  simp [fieldNames, List.lookup_cons, Json.string?, hentities]

/-- The text of a document is read as the document, so the catalog made from the text is the one
made from the document, and it has the same faults. -/
theorem read_text (d : CatalogDocument) (readers : LiteralReaders) :
    parse? d.text = some d ∧
      Catalog.ofText d.text readers = (do
        (d.toCatalog readers).validate
        .ok (d.toCatalog readers)) := by
  have hparse : parse? d.text = some d := by
    rw [parse?, text, Json.parse?_compact, Option.bind_some, d.ofJson?_toJson]
  refine ⟨hparse, ?_⟩
  rw [Catalog.ofText, hparse]

end CatalogDocument

end GuardedQuery
