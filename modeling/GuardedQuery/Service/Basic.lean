import GuardedQuery.Catalog.Handle
import GuardedQuery.Query.Compile
import GuardedQuery.Service.Error

/-! # The service

Listings, compilation and execution of queries over the catalog in service. A request that may ask
the store says which queries it asked. -/

namespace GuardedQuery

/-- A store answers a query with rows, or says why it cannot. -/
abbrev Store := CompiledQuery → Except String (List Row)

/-- The answer to a request, and the queries that were put to the store for it. -/
structure Outcome (α : Type) where
  result : Except ServiceError α
  calls : List CompiledQuery

namespace Outcome

/-- The answer to a request that does not ask the store. -/
def pure {α : Type} (result : Except ServiceError α) : Outcome α := ⟨result, []⟩

/-- Ask the store once, and answer by its rows. -/
def ask {α : Type} (store : Store) (query : CompiledQuery)
    (answer : List Row → Except ServiceError α) : Outcome α where
  result :=
    match store query with
    | .error reason => .error (.store reason)
    | .ok rows => answer rows
  calls := [query]

end Outcome

/-- A service: the handle of its catalog, and the order in which it lays out records. -/
structure Service where
  handle : CatalogHandle
  order : AttributeOrder

namespace Service

/-- A service of a first catalog. -/
def new (loaded : Except CatalogError Catalog) : Except ServiceError Service :=
  match loaded.bind CatalogHandle.new with
  | .ok handle => .ok ⟨handle, .declared⟩
  | .error e => .error (.catalog e)

def withOrder (s : Service) (order : AttributeOrder) : Service :=
  { s with order := order }

/-- The catalog being served. -/
def catalog (s : Service) : Except ServiceError Catalog :=
  s.handle.snapshot.mapError .catalog

/-- Install a catalog that has been loaded anew. If there is none, the service stops until there is
one. -/
def reload (s : Service) (loaded : Except CatalogError Catalog) :
    Except ServiceError Nat × Service :=
  match loaded.bind s.handle.replace with
  | .ok handle => (.ok handle.version, { s with handle := handle })
  | .error e => (.error (.catalog e), { s with handle := s.handle.fail e.message })

/-- The state of the service as shown in messages. -/
def describe (s : Service) : String :=
  "QueryService \x7b catalog: " ++ s.handle.describe ++
    ", options: ServiceOptions \x7b attribute_order: " ++ s.order.name ++ " \x7d \x7d"

/-! ### Listings -/

/-- The word that starts a query. -/
def findKeyword (s : Service) : Except ServiceError String := do
  let c ← s.catalog
  .ok c.findKeyword

/-- The names of the entities that a caller may use. -/
def entityNames (s : Service) (caller : Caller) : Except ServiceError (List String) := do
  let c ← s.catalog
  .ok ((c.entities.filter (Access.allowsEntity · caller)).map (·.displayName))

/-- An entity that a caller may use. -/
def entity (c : Catalog) (caller : Caller) (name : String) : Except ServiceError Entity :=
  match c.entity? name with
  | none => .error (.unknownEntity name)
  | some e => do
    (Access.checkEntity e caller).mapError .denied
    .ok e

/-- An attribute that a caller may ask by. -/
def attr (e : Entity) (caller : Caller) (name : String) : Except ServiceError Attribute :=
  match e.attribute? name .query with
  | none => .error (.unknownAttribute e.displayName name)
  | some a => do
    (Access.checkAttribute a caller).mapError .denied
    .ok a

/-- The names of the attributes of an entity that a caller may ask by. -/
def attributeNames (s : Service) (caller : Caller) (entityName : String) :
    Except ServiceError (List String) := do
  let c ← s.catalog
  let e ← entity c caller entityName
  .ok (((e.attributesFor .query).filter (Access.allowsAttribute · caller)).map (·.displayName))

/-- The names of the operators that apply to an attribute. -/
def operatorNames (s : Service) (caller : Caller) (entityName attributeName : String) :
    Except ServiceError (List String) := do
  let c ← s.catalog
  let e ← entity c caller entityName
  let a ← attr e caller attributeName
  .ok ((Operator.applicable a.type.kind).map (·.displayName))

/-- The names of the separators. -/
def separatorNames : List String :=
  Separator.all.map (·.displayName)

/-- The attribute and the control that a choice of values is about. -/
def choiceSubject (s : Service) (caller : Caller) (entityName attributeName operatorName : String) :
    Except ServiceError (Entity × Attribute × Option Control) := do
  let c ← s.catalog
  let e ← entity c caller entityName
  let a ← attr e caller attributeName
  match Operator.resolve? operatorName with
  | none => .error (.unknownOperator operatorName)
  | some operator => .ok (e, a, Control.forOperator? a.type.kind operator)

/-- What a caller may choose from for an attribute and an operator. The values are the labels of the
rows of the attribute's own query. -/
def choices (s : Service) (store : Store) (caller : Caller)
    (entityName attributeName operatorName : String) : Outcome Choices :=
  match s.choiceSubject caller entityName attributeName operatorName with
  | .error e => .pure (.error e)
  | .ok (e, a, control) =>
    match a.valuesQuery with
    | none => .pure (.ok ⟨control, none⟩)
    | some query =>
      .ask store ⟨query, []⟩ fun rows =>
        match rows.mapM (Choices.label e a (a.labelField?.getD "")) with
        | .ok labels => .ok ⟨control, some labels⟩
        | .error fault => .error (.rows fault)

/-! ### Queries -/

/-- Check and compile tokens over a catalog. -/
def compileTokens (c : Catalog) (caller : Caller) (tokens : List Token) :
    Except ServiceError CompiledQuery := do
  (Access.checkTokens c caller tokens).mapError .denied
  (c.compile caller tokens).mapError .compile

/-- Check and compile a query. Its compiled form becomes the new one, or none if there is an error;
while no catalog is served the query stays as it is. -/
def compile (s : Service) (caller : Caller) (q : Query) :
    Except ServiceError CompiledQuery × Query :=
  match s.catalog with
  | .error e => (.error e, q)
  | .ok c =>
    let compiled := compileTokens c caller q.tokens
    (compiled, { q with compiled := compiled.toOption })

/-- The entity that the records of a query belong to. -/
def resultEntity (c : Catalog) (q : Query) : Except ServiceError Entity :=
  match q.entityName?.bind c.entity? with
  | some e => .ok e
  | none => .error (.compile .missingEntity)

/-- Check, compile and execute a query. -/
def execute (s : Service) (store : Store) (caller : Caller) (q : Query) :
    Outcome Results × Query :=
  let (compiled, q) := s.compile caller q
  let subject : Except ServiceError (CompiledQuery × Entity) := do
    let compiled ← compiled
    let c ← s.catalog
    let e ← resultEntity c q
    .ok (compiled, e)
  match subject with
  | .error e => (.pure (.error e), q)
  | .ok (compiled, e) =>
    (.ask store compiled fun rows => (Results.ofRows e caller s.order rows).mapError .rows, q)

end Service

end GuardedQuery
