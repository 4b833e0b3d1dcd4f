import GuardedQuery.Caller
import GuardedQuery.Query.Draft
import GuardedQuery.Query.Placeholder

/-! # Compiling queries

The tokens of a query become a text for the store with a placeholder for every value. The filter of
the entity is added at the end; it and the conditions of the query are put into brackets, so that
both have to hold. -/

namespace GuardedQuery

namespace Draft

/-- The filter of an entity with placeholders, and the values that the caller gives them. -/
def bindFilter (e : Entity) (filter : String) (caller : Caller) :
    Except CompileError (List Char × List Value) :=
  Placeholder.bind
    (fun name =>
      match caller.scope? name with
      | some value => .ok value
      | none => .error (.missingScope e.displayName name))
    filter.toList

/-- Add the filter of an entity to the conditions, or make it the only condition. -/
def addFilter (d : Draft) (e : Entity) (filter : String) (caller : Caller) :
    Except CompileError Draft := do
  let (condition, values) ← bindFilter e filter caller
  let d ← (match d.filterAt with
    | some offset => do
      let d ← d.splice offset " (".toList
      .ok (d.write (" ) AND ( ".toList ++ condition ++ " )".toList))
    | none => .ok (d.write (" WHERE ".toList ++ condition)))
  .ok { d with parameters := d.parameters ++ values }

/-- Complete a draft with the filter of its entity. -/
def finish (d : Draft) (caller : Caller) : Except CompileError CompiledQuery :=
  match d.entity with
  | none => .error .missingEntity
  | some e => do
    let d ← (match e.filter with
      | some filter => d.addFilter e filter caller
      | none => .ok d)
    .ok ⟨String.ofList d.text, d.parameters⟩

end Draft

/-- Compile tokens for a caller. -/
def Catalog.compile (c : Catalog) (caller : Caller) (tokens : List Token) :
    Except CompileError CompiledQuery := do
  let d ← Draft.empty.steps c 0 tokens
  d.finish caller

end GuardedQuery
