import GuardedQuery.Proofs.Results.SharedPath
import GuardedQuery.Proofs.Service.Authorization
import GuardedQuery.Proofs.Text.Splitting

/-! # Labels to choose from

The labels that a caller may choose from are read from the rows of an attribute's own query. A
condition on a relationship compares a field of the related records with one of them. The field that
is read and the field that is compared have a setting each, and where one setting is missing it is
taken from the other. -/

namespace GuardedQuery

namespace Attribute

variable {a : Attribute} {path last : String} {hops : List String}

/-- A declared label is the field to read, and otherwise the last hop of the label path. -/
theorem labelField?_eq (hpath : a.labelPath? = some path)
    (hsplit : Text.split '.' path = hops ++ [last]) :
    a.labelField? = some (a.label.getD last) := by
  rw [labelField?]
  cases a.label with
  | some label => rfl
  | none => simp [hpath, hsplit]

/-- A label path that is made from a label ends with it, if the label is one hop. -/
theorem eq_last_of_label {label : String} (hexplicit : a.explicitPath.filter (· ≠ "") = none)
    (hlabel : a.label = some label) (hdot : '.' ∉ label.toList) (hpath : a.labelPath? = some path)
    (hsplit : Text.split '.' path = hops ++ [last]) : label = last := by
  have hmade : a.name ++ "." ++ label = path := by
    rw [labelPath?, hexplicit, hlabel] at hpath
    exact Option.some.inj hpath
  have hcut : Text.split '.' path = Text.split '.' a.name ++ [label] := by
    have htoList : path.toList = a.name.toList ++ '.' :: label.toList := by
      rw [← hmade, String.toList_append, String.toList_append, List.append_assoc]
      rfl
    rw [Text.split, htoList, Text.cut_append_cons, Text.cut_of_notMem hdot, List.map_append,
      List.map_singleton, String.ofList_toList]
    rfl
  rw [hcut] at hsplit
  exact List.singleton_inj.mp (List.append_inj' hsplit rfl).2

/-- What is offered for an attribute: a request for choices asks the store for the rows of the query
and offers, row by row, the text of the field. -/
def Offers (a : Attribute) (e : Entity) (query field : String) : Prop :=
  ∀ (s : Service) (store : Store) (caller : Caller) (entityName attributeName operatorName : String)
    (control : Option Control),
    s.choiceSubject caller entityName attributeName operatorName = .ok (e, a, control) →
    (s.choices store caller entityName attributeName operatorName).calls = [⟨query, []⟩] ∧
      ∀ rows, store ⟨query, []⟩ = .ok rows → ∀ labels,
        (s.choices store caller entityName attributeName operatorName).result =
            .ok ⟨control, some labels⟩ ↔
          List.Forall₂ (fun row label => ∃ v, row.lookup field = some (.scalar v) ∧ v.text = label)
            rows labels

/-- What a condition on an attribute compares: the field of the record at the end of the joins. -/
def Compares (a : Attribute) (joins : List String) (field : String) : Prop :=
  ∀ d : Draft, d.writeAttribute a =
    (d.insertJoins (Layout.chain d.nextAlias joins) joins.length).map fun joined =>
      joined.write (Draft.fieldOf (Draft.joinAlias (d.nextAlias + (joins.length - 1))) field.toList)

theorem label_eq_ok {e : Entity} {field : String} {row : Row} {label : String} :
    Choices.label e a field row = .ok label ↔
      ∃ v, row.lookup field = some (.scalar v) ∧ v.text = label := by
  rw [Choices.label]
  cases row.lookup field with
  | none => simp
  | some found =>
      cases found with
      | scalar v => simp
      | record fields => simp
      | list items => simp

theorem offers_of_labelField? {e : Entity} {query field : String}
    (hquery : a.valuesQuery = some query) (hfield : a.labelField? = some field) :
    a.Offers e query field := by
  intro s store caller entityName attributeName operatorName control hsubject
  rw [Service.choices, hsubject]
  simp only [hquery, hfield, Option.getD_some, Outcome.ask, true_and]
  intro rows hrows labels
  simp only [hrows, ← label_eq_ok (a := a) (e := e), ← except_mapM_eq_ok]
  cases rows.mapM (Choices.label e a field) with
  | error fault => simp
  | ok offered => simp

/-- A valid relationship compares the last hop of its label path, which is not empty. -/
theorem Valid.compares {readers : LiteralReaders} (h : a.Valid readers)
    (hrel : a.type.isRelationship = true) (hpath : a.labelPath? = some path)
    (hsplit : Text.split '.' path = hops ++ [last]) : last ≠ "" ∧ a.Compares hops last := by
  obtain ⟨path', joins, label, hpath', hjoins, hsplit', hempty⟩ := h.exists_joins hrel
  obtain rfl : path' = path := Option.some.inj (hpath'.symm.trans hpath)
  obtain ⟨rfl, hlast⟩ := List.append_inj' (hsplit'.symm.trans hsplit) rfl
  obtain rfl := List.singleton_inj.mp hlast
  refine ⟨?_, Draft.writeAttribute_of_joins hrel hpath hjoins⟩
  rintro rfl
  exact hempty (by simp)

end Attribute

/-- Every attribute of a valid catalog that has a query of values has a label path, and a field that
its labels are read from: the declared label, or else the last hop of the path. The field has a name
if the declared label, or else the last hop, is not empty. For a relationship the last hop is not
empty, and it is what conditions compare; the labels are read from the same field exactly if no label
is declared or it is that hop, and so in particular if only a label of one hop is declared. -/
theorem offered_label_of_valuesQuery {c : Catalog} (hvalid : c.validate = .ok ()) {e : Entity}
    (he : e ∈ c.entities) {a : Attribute} (ha : a ∈ e.attributes) {query : String}
    (hquery : a.valuesQuery = some query) :
    ∃ path joins compared offered,
      a.labelPath? = some path ∧ Text.split '.' path = joins ++ [compared] ∧
      a.labelField? = some offered ∧ offered = a.label.getD compared ∧
      a.Offers e query offered ∧
      (a.label ≠ some "" → (a.label = none → compared ≠ "") → offered ≠ "") ∧
      (a.type.isRelationship = true → compared ≠ "" ∧ a.Compares joins compared ∧
        (offered = compared ↔ a.label = none ∨ a.label = some compared) ∧
        (a.explicitPath.filter (· ≠ "") = none → '.' ∉ offered.toList → offered = compared)) := by
  have hattribute := Catalog.valid_of_validate hvalid he a ha
  obtain ⟨path, hpath⟩ := Option.isSome_iff_exists.mp (hattribute.values_label (by simp [hquery]))
  obtain ⟨joins, compared, hsplit⟩ : ∃ joins compared, Text.split '.' path = joins ++ [compared] :=
    (List.eq_nil_or_concat' _).resolve_left (Text.split_ne_nil '.' path)
  have hfield := Attribute.labelField?_eq hpath hsplit
  refine ⟨path, joins, compared, _, hpath, hsplit, hfield, rfl,
    Attribute.offers_of_labelField? hquery hfield, ?_, ?_⟩
  · cases hlabel : a.label with
    | none => simp
    | some label => simp
  · intro hrel
    obtain ⟨hcompared, hcompares⟩ := hattribute.compares hrel hpath hsplit
    refine ⟨hcompared, hcompares, ?_, ?_⟩
    · cases hlabel : a.label with
      | none => simp
      | some label => simp
    · intro hexplicit hdot
      cases hlabel : a.label with
      | none => rfl
      | some label =>
          rw [hlabel] at hdot
          exact Attribute.eq_last_of_label hexplicit hlabel hdot hpath hsplit

/-! ### Departments and managers -/

namespace Departments

/-- A reference with a label of its own beside its label path. -/
def department : Attribute :=
  (((Attribute.new "department" "Department" (.reference "Department")).withValuesQuery
    "SELECT d FROM Department d").withLabel "code").withLabelPath "department.name"

/-- A reference with a label alone. -/
def manager : Attribute :=
  ((Attribute.new "manager" "Manager" (.reference "Person")).withValuesQuery
    "SELECT p FROM Person p").withLabel "name"

def employee : Entity :=
  (Entity.new "Employee" "Employee").withAttributes [department, manager]

def catalog : Catalog := (Catalog.new "find").withEntities [employee]

def service : Service := ⟨⟨.ready catalog, 1⟩, .declared⟩

/-- One record, with a code and a name. -/
def store : Store := fun _ =>
  .ok [[("code", .scalar (.string "D1")), ("name", .scalar (.string "Research"))]]

theorem catalog_valid : catalog.validate = .ok () := by decide +kernel

/-- The employees whose attribute is one of the given values. -/
def among (attributeName values : String) : List Token :=
  [⟨.find, "find"⟩, ⟨.entity, "Employee"⟩, ⟨.having, "having"⟩, ⟨.attr, attributeName⟩,
    ⟨.operator, "in"⟩, ⟨.value, values⟩]

end Departments

/-- For a manager the names are offered that conditions compare. -/
theorem manager_offers_compared :
    Departments.catalog.validate = .ok () ∧
      Departments.manager.ownedBy "Employee" .unrestricted ∈ Departments.employee.attributes ∧
      (Departments.manager.ownedBy "Employee" .unrestricted).Offers Departments.employee
        "SELECT p FROM Person p" "name" ∧
      (Departments.manager.ownedBy "Employee" .unrestricted).Compares ["manager"] "name" := by
  have hmem : Departments.manager.ownedBy "Employee" .unrestricted ∈
      Departments.employee.attributes := by
    decide +kernel
  obtain ⟨path, joins, compared, offered, hpath, hsplit, -, hoffered, hoffers, -, hrel⟩ :=
    offered_label_of_valuesQuery Departments.catalog_valid (List.mem_singleton_self _) hmem rfl
  obtain ⟨-, hcompares, -, hsame⟩ := hrel rfl
  obtain rfl : "manager.name" = path := Option.some.inj hpath
  obtain rfl : offered = "name" := hoffered
  have hlast : "name" = compared := hsame rfl (by decide)
  have hpieces : Text.split '.' "manager.name" = ["manager"] ++ ["name"] := by decide +kernel
  obtain ⟨rfl, -⟩ := List.append_inj' (hpieces.symm.trans hsplit) rfl
  exact ⟨Departments.catalog_valid, hmem, hoffers, hlast ▸ hcompares⟩

/-- For a department the codes are offered, but conditions compare the names. -/
theorem department_offers_code :
    Departments.catalog.validate = .ok () ∧
      Departments.department.ownedBy "Employee" .unrestricted ∈ Departments.employee.attributes ∧
      (Departments.department.ownedBy "Employee" .unrestricted).valuesQuery.isSome = true ∧
      (Departments.department.ownedBy "Employee" .unrestricted).type.isRelationship = true ∧
      (Departments.department.ownedBy "Employee" .unrestricted).labelField? = some "code" ∧
      ((Departments.department.ownedBy "Employee" .unrestricted).labelPath?.bind fun path =>
        (Text.split '.' path).getLast?) = some "name" ∧
      (Departments.service.choices Departments.store .anonymous "Employee" "Department" "in").result =
        .ok ⟨some .referenceMultiple, some ["D1"]⟩ ∧
      Service.compileTokens Departments.catalog .anonymous (Departments.among "Department" "D1") =
        .ok ⟨"SELECT DISTINCT x FROM Employee x LEFT JOIN x.department x1 WHERE x1.name IN (?)",
          [.string "D1"]⟩ := by
  refine ⟨Departments.catalog_valid, by decide +kernel, rfl, rfl, rfl, by decide +kernel, ?_, ?_⟩
  · rfl
  · exact Service.compileTokens_eq_ok.mpr ⟨by decide +kernel, by decide +kernel⟩

end GuardedQuery
