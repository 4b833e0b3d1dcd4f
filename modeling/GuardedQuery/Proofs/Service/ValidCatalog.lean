import GuardedQuery.Proofs.Catalog.Violations
import GuardedQuery.Proofs.Query.Failure
import GuardedQuery.Proofs.Service.Authorization

/-! # What a valid catalog rules out

Label paths and types are checked before a catalog is served, and used again whenever a query
compiles. A query over a valid catalog fails because of its tokens or of its caller, not because of
the catalog. -/

namespace GuardedQuery

/-! ## Attributes of a query -/

namespace Context

variable {c : Catalog} {context : Context}

/-- The attribute of a context is one of the catalog. -/
theorem attr_mem_after (hentity : ∀ e, context.entity = some e → e ∈ c.entities)
    (hattr : ∀ a, context.attr = some a → ∃ e ∈ c.entities, a ∈ e.attributes) (token : Token) :
    ∀ a, (context.after c token).attr = some a → ∃ e ∈ c.entities, a ∈ e.attributes := by
  unfold after
  split
  · exact hattr
  · intro a ha
    obtain ⟨e, he, ha⟩ := Option.bind_eq_some_iff.mp ha
    exact ⟨e, hentity e he, Entity.mem_of_attribute? ha⟩
  · exact hattr

theorem attr_mem_of (c : Catalog) (tokens : List Token) :
    ∀ a, (of c tokens).attr = some a → ∃ e ∈ c.entities, a ∈ e.attributes := by
  induction tokens using List.reverseRecOn with
  | nil =>
      intro a ha
      cases ha
  | append_singleton tokens token ih =>
      rw [of, List.foldl_append]
      exact attr_mem_after (entity_mem_of c tokens) ih token

end Context

/-! ## Failures that do not occur -/

/-- The label path of a valid relationship leads somewhere. -/
theorem Attribute.Valid.isSome_joinsOf? {readers : LiteralReaders} {a : Attribute}
    (h : a.Valid readers) (hrel : a.type.isRelationship = true) :
    (a.labelPath?.bind Draft.joinsOf?).isSome := by
  obtain ⟨path, hops, label, hpath, hjoins, -, -⟩ := h.exists_joins hrel
  rw [hpath, Option.bind_some, hjoins]
  rfl

/-- A literal of a valid attribute can only be malformed. -/
theorem Literal.malformed_of_valid {a : Attribute} {literal : String} {readers : LiteralReaders}
    {error : CompileError} (hvalid : a.Valid readers) (h : read a literal readers = .error error) :
    ∃ reason, error = .malformedLiteral a.displayName a.type.describe literal reason := by
  rcases error_of_read h with hmalformed | ⟨hneeds, hreader, -⟩
  · exact hmalformed
  · rw [hvalid.reader hneeds] at hreader
    cases hreader

/-- The error blames the catalog: a path without joins, or a type without a reader. -/
def CompileError.BlamesCatalog : CompileError → Prop
  | .invalidLabelPath _ | .unsupportedType _ _ => True
  | _ => False

/-- A token between valid entities and attributes does not fail because of them. -/
theorem Fails.not_blamesCatalog {c : Catalog} (hvalid : c.validate = .ok ()) {front : List Token}
    {position : Nat} {token : Token} {error : CompileError}
    (h : Fails c (.of c front) position token error) : ¬error.BlamesCatalog := by
  cases h with
  | labelPath _ he ha hrel hpath =>
      have hmem := Context.entity_mem_of c front _ he
      have ha := Catalog.valid_of_validate hvalid hmem _ (Entity.mem_of_attribute? ha)
      have hsome := ha.isSome_joinsOf? hrel
      rw [hpath] at hsome
      cases hsome
  | literal _ ha hl =>
      obtain ⟨e, he, hmem⟩ := Context.attr_mem_of c front _ ha
      obtain ⟨reason, rfl⟩ :=
        Literal.malformed_of_valid (Catalog.valid_of_validate hvalid he _ hmem) hl
      exact id
  | _ => exact id

/-- No query over a valid catalog fails because of the catalog. -/
theorem Catalog.not_blamesCatalog_of_compile {c : Catalog} (hvalid : c.validate = .ok ())
    {caller : Caller} {tokens : List Token} {error : CompileError}
    (h : c.compile caller tokens = .error error) : ¬error.BlamesCatalog := by
  rcases error_of_compile h with ⟨front, token, rest, -, -, hfails⟩ | ⟨ps, hreads, hfinish⟩
  · exact hfails.not_blamesCatalog hvalid
  · rcases Sheet.error_of_finish (hreads.nearJoins_eq_nil rfl 1) hfinish with
      ⟨-, rfl⟩ | ⟨e, filter, -, -, ⟨name, rfl⟩ | ⟨⟨offset, rfl⟩, -⟩⟩
    all_goals exact id

/-! ## Execution -/

/-- The answer to a question put to the store is never that a query does not compile. -/
theorem Outcome.ask_ne_compile (store : Store) (call : CompiledQuery) (e : Entity) (caller : Caller)
    (order : AttributeOrder) (error : CompileError) :
    (Outcome.ask store call fun rows =>
      (Results.ofRows e caller order rows).mapError ServiceError.rows).result ≠
        .error (.compile error) := by
  unfold Outcome.ask
  cases store call with
  | error reason => nofun
  | ok rows =>
      intro h
      obtain ⟨fault, -, hfault⟩ := except_mapError_eq_error.mp h
      cases hfault

/-- Over a valid catalog, no tokens of any caller fail because of a label path or of a type without a
reader. If they compile, the entity that they name first is in the catalog, and every service of the
catalog executes them and answers for that entity. -/
theorem catalog_not_at_fault {c : Catalog} (hvalid : c.validate = .ok ()) :
    (∀ caller tokens name, c.compile caller tokens ≠ .error (.invalidLabelPath name)) ∧
    (∀ caller tokens name type, c.compile caller tokens ≠ .error (.unsupportedType name type)) ∧
    (∀ caller (q : Query) call, c.compile caller q.tokens = .ok call →
      ∃ e ∈ c.entities, q.entityName?.bind c.entity? = some e) ∧
    ∀ s : Service, s.catalog = .ok c → ∀ caller (q : Query) call, (s.compile caller q).1 = .ok call →
      ∀ store, (∃ e ∈ c.entities, q.entityName?.bind c.entity? = some e ∧
        (s.execute store caller q).1 = .ask store call fun rows =>
          (Results.ofRows e caller s.order rows).mapError .rows) ∧
        (s.execute store caller q).1.result ≠ .error (.compile .missingEntity) := by
  have hmem : ∀ {q : Query} {e}, q.entityName?.bind c.entity? = some e → e ∈ c.entities := by
    intro q e he
    obtain ⟨name, -, hname⟩ := Option.bind_eq_some_iff.mp he
    exact List.mem_of_find?_eq_some hname
  refine ⟨?_, ?_, ?_, ?_⟩
  · intro caller tokens name h
    exact Catalog.not_blamesCatalog_of_compile hvalid h trivial
  · intro caller tokens name type h
    exact Catalog.not_blamesCatalog_of_compile hvalid h trivial
  · intro caller q call h
    obtain ⟨e, he⟩ := Service.exists_shown h
    exact ⟨e, hmem he, he⟩
  · intro s hcatalog caller q call h store
    obtain ⟨e, he, hexecute⟩ := Service.execute_of_compile hcatalog h store
    refine ⟨⟨e, hmem he, he, hexecute⟩, ?_⟩
    rw [hexecute]
    exact Outcome.ask_ne_compile store call e caller s.order .missingEntity

/-! ### Orders -/

namespace Orders

/-- A custom type with a tag that has a reader already. -/
def quantity : Attribute := .new "quantity" "Quantity" (.custom "int32")

def customer : Attribute :=
  (Attribute.new "customer" "Customer" (.reference "Person")).withLabelPath "customer.address.city"

def catalog : Catalog :=
  (Catalog.new "find").withEntities
    [(Entity.new "Order" "Order").withAttributes [quantity, customer]]

def service : Service := ⟨⟨.ready catalog, 1⟩, .declared⟩

def query : Query :=
  .ofTokens [⟨.find, "find"⟩, ⟨.entity, "Order"⟩, ⟨.having, "having"⟩, ⟨.attr, "Quantity"⟩,
    ⟨.operator, "="⟩, ⟨.value, "3"⟩, ⟨.separator, "and"⟩, ⟨.attr, "Customer"⟩, ⟨.operator, "in"⟩,
    ⟨.value, "Oslo"⟩]

def call : CompiledQuery :=
  ⟨"SELECT DISTINCT x FROM Order x LEFT JOIN x.customer x1 LEFT JOIN x1.address x2 " ++
      "WHERE x.quantity = ? AND x2.city IN (?)", [.int32 3, .string "Oslo"]⟩

theorem valid : catalog.validate = .ok () := by decide +kernel

theorem compile_query : (service.compile .anonymous query).1 = .ok call := by
  rw [Service.compile_of_catalog_eq_ok rfl]
  exact Service.compileTokens_eq_ok.mpr ⟨by decide +kernel, by decide +kernel⟩

end Orders

/-- Orders of a quantity by customers of a city are executed. -/
theorem orders_not_at_fault :
    Orders.catalog.validate = .ok () ∧ Orders.service.catalog = .ok Orders.catalog ∧
      (Orders.service.compile .anonymous Orders.query).1 = .ok Orders.call ∧
      (∀ caller tokens name type,
        Orders.catalog.compile caller tokens ≠ .error (.unsupportedType name type)) ∧
      ∀ store, (Orders.service.execute store .anonymous Orders.query).1.result ≠
        .error (.compile .missingEntity) := by
  obtain ⟨-, htypes, -, hexecutes⟩ := catalog_not_at_fault Orders.valid
  refine ⟨Orders.valid, rfl, Orders.compile_query, htypes, fun store => ?_⟩
  exact (hexecutes Orders.service rfl _ _ _ Orders.compile_query store).2

end GuardedQuery
