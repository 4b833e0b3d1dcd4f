import GuardedQuery.Proofs.Catalog.Validity
import GuardedQuery.Proofs.Earlier

/-! # Violations of a catalog

All that is wrong with a catalog, in the order of its declarations. The check of a catalog stops at
the first violation, and it passes if there is none. -/

namespace GuardedQuery

/-- What is wrong with named things in turn: the name of each may be that of an earlier one, and then
the thing by itself may be wrong. -/
def violationsInTurn {α : Type} (name : α → String) (duplicate : String → CatalogError)
    (alone : α → List CatalogError) (xs : List α) : List CatalogError :=
  (withEarlier xs).flatMap fun (earlier, x) =>
    (if name x ∈ earlier.map name then [duplicate (name x)] else []) ++ alone x

/-- What is wrong with the label path of a relationship. -/
def Attribute.pathFaults (a : Attribute) : List PathFault :=
  match a.labelPath? with
  | none => [.missing]
  | some path =>
    (if (Text.split '.' path).length < 2 ∨ "" ∈ Text.split '.' path then [.tooFewHops] else []) ++
    (if (Text.split '.' path).head? = some a.name then [] else [.startsElsewhere])

/-- What is wrong with an attribute by itself: a missing label, the label path, a missing reader. -/
def Attribute.violations (readers : LiteralReaders) (e : Entity) (a : Attribute) :
    List CatalogError :=
  (if a.valuesQuery.isSome ∧ a.labelPath?.isNone then
    [.invalidLabelPath e.displayName a.displayName .valuesWithoutLabel] else []) ++
  (if a.type.isRelationship then
    a.pathFaults.map (.invalidLabelPath e.displayName a.displayName) else []) ++
  (if Catalog.needsReader a.type ∧ ¬ readers.contains a.type.tag then
    [.unsupportedType e.displayName a.displayName a.type.tag] else [])

/-- What is wrong with an entity by itself: its attributes in turn. -/
def Entity.violations (readers : LiteralReaders) (e : Entity) : List CatalogError :=
  violationsInTurn (·.displayName) (.duplicateAttribute e.displayName)
    (Attribute.violations readers e) e.attributes

namespace Catalog

/-- What is wrong with a catalog: the find keyword, and then its entities in turn. -/
def violations (c : Catalog) : List CatalogError :=
  (if c.findKeyword.toList.all Text.isBlank then [.missingFindKeyword] else []) ++
  violationsInTurn (·.displayName) .duplicateEntity (Entity.violations c.readers) c.entities

/-- What a catalog must satisfy. -/
structure WellFormed (c : Catalog) : Prop where
  findKeyword : ∃ char ∈ c.findKeyword.toList, Text.isBlank char = false
  entityNames : (c.entities.map (·.displayName)).Nodup
  attributeNames : ∀ e ∈ c.entities, (e.attributes.map (·.displayName)).Nodup
  attr : ∀ e ∈ c.entities, ∀ a ∈ e.attributes, a.Valid c.readers

/-! ## The check stops at the first violation -/

/-- The outcome of a check that stops at the first violation. -/
def report : List CatalogError → Except CatalogError Unit
  | [] => .ok ()
  | error :: _ => .error error

theorem report_eq_ok {errors : List CatalogError} : report errors = .ok () ↔ errors = [] := by
  cases errors <;> simp [report]

theorem report_eq_error {errors : List CatalogError} {error : CatalogError} :
    report errors = .error error ↔ errors.head? = some error := by
  cases errors <;> simp [report]

theorem report_append (errors others : List CatalogError) :
    report (errors ++ others) = report errors >>= fun _ => report others := by
  cases errors <;> rfl

theorem report_ite (p : Prop) [Decidable p] (errors : List CatalogError) :
    report (if p then errors else []) = if p then report errors else .ok () := by
  split <;> rfl

/-- A check of things in turn remembers the names that it has seen. Whatever the order in which it
does so, it stops at the first violation. -/
theorem report_violationsInTurn {α : Type} {name : α → String} {duplicate : String → CatalogError}
    {alone : α → List CatalogError} {check : List String → List α → Except CatalogError Unit}
    (hnil : ∀ seen, check seen [] = .ok ())
    (hcons : ∀ seen x xs, check seen (x :: xs) =
      (if name x ∈ seen then .error (duplicate (name x)) else .ok ()) >>= fun _ =>
        report (alone x) >>= fun _ => check (name x :: seen) xs) (xs : List α) :
    check [] xs = report (violationsInTurn name duplicate alone xs) := by
  -- the names seen are those of the things in front of `xs`
  have hfrom : ∀ front seen, (∀ other, other ∈ seen ↔ other ∈ front.map name) →
      check seen xs = report ((withEarlier xs).flatMap fun (earlier, x) =>
        (if name x ∈ (front ++ earlier).map name then [duplicate (name x)] else []) ++ alone x) := by
    induction xs with
    | nil => exact fun _ seen _ => hnil seen
    | cons x xs ih =>
        intro front seen hseen
        have hrest := ih (front ++ [x]) (name x :: seen) (by simp [hseen, or_comm])
        rw [hcons, hrest, withEarlier, List.flatMap_cons, List.flatMap_map]
        simp only [hseen, report_append, report_ite, List.append_nil, List.append_assoc,
          List.singleton_append]
        rfl
  exact hfrom [] [] (by simp)

variable {readers : LiteralReaders} {e : Entity} {a : Attribute}

theorem checkPath_eq_report :
    checkPath e a = report (a.pathFaults.map (.invalidLabelPath e.displayName a.displayName)) := by
  rw [checkPath, Attribute.pathFaults]
  cases a.labelPath? with
  | none => rfl
  | some path =>
      simp only
      split
      · rfl
      · split
        · simp_all [report]
        · simp_all [report]

theorem checkAttribute_eq_report :
    checkAttribute readers e a = report (a.violations readers e) := by
  rw [checkAttribute, except_ite_bind, Attribute.violations, List.append_assoc, report_append,
    report_append, report_ite, report_ite, report_ite, ← checkPath_eq_report]
  simp only [except_ite_bind]
  rfl

theorem checkAttributes_eq_report :
    checkAttributes readers e [] e.attributes = report (e.violations readers) := by
  apply report_violationsInTurn
  · intro seen
    rfl
  · intro seen a rest
    rw [checkAttributes, except_ite_bind, checkAttribute_eq_report]

theorem validate_eq_report (c : Catalog) : c.validate = report c.violations := by
  have hentities : checkEntities c.readers [] c.entities =
      report (violationsInTurn (·.displayName) .duplicateEntity (Entity.violations c.readers)
        c.entities) := by
    apply report_violationsInTurn
    · intro seen
      rfl
    · intro seen e rest
      rw [checkEntities, except_ite_bind, checkAttributes_eq_report]
  rw [validate, except_ite_bind, hentities, violations, report_append, report_ite]
  rfl

/-! ## Catalogs without violations -/

theorem violationsInTurn_eq_nil {α : Type} {name : α → String} {duplicate : String → CatalogError}
    {alone : α → List CatalogError} {xs : List α} :
    violationsInTurn name duplicate alone xs = [] ↔
      (xs.map name).Nodup ∧ ∀ x ∈ xs, alone x = [] := by
  simp only [violationsInTurn, List.flatMap_eq_nil_iff, List.append_eq_nil_iff, ite_eq_right_iff,
    List.cons_ne_nil, imp_false, forall₂_and, nodup_map_iff_withEarlier,
    forall_withEarlier_snd (P := (alone · = []))]

theorem attribute_violations_eq_nil : a.violations readers e = [] ↔ a.Valid readers := by
  rw [← report_eq_ok, ← checkAttribute_eq_report, checkAttribute_eq_ok]

theorem entity_violations_eq_nil :
    e.violations readers = [] ↔
      (e.attributes.map (·.displayName)).Nodup ∧ ∀ a ∈ e.attributes, a.Valid readers := by
  simp only [Entity.violations, violationsInTurn_eq_nil, attribute_violations_eq_nil]

/-- A catalog has no violations exactly if it is well formed. -/
theorem violations_eq_nil {c : Catalog} : c.violations = [] ↔ c.WellFormed := by
  have hkeyword : c.findKeyword.toList.all Text.isBlank = false ↔
      ∃ char ∈ c.findKeyword.toList, Text.isBlank char = false := by
    simp
  rw [violations, List.append_eq_nil_iff, violationsInTurn_eq_nil, ite_eq_right_iff]
  simp only [List.cons_ne_nil, imp_false, Bool.not_eq_true, hkeyword, entity_violations_eq_nil]
  constructor
  · rintro ⟨hfind, hentities, hattributes⟩
    exact ⟨hfind, hentities, fun e he => (hattributes e he).1, fun e he => (hattributes e he).2⟩
  · intro h
    exact ⟨h.findKeyword, h.entityNames, fun e he => ⟨h.attributeNames e he, h.attr e he⟩⟩

theorem validate_eq_ok {c : Catalog} : c.validate = .ok () ↔ c.WellFormed := by
  rw [validate_eq_report, report_eq_ok, violations_eq_nil]

/-- The attributes of a valid catalog are valid. -/
theorem valid_of_validate {c : Catalog} (h : c.validate = .ok ()) (he : e ∈ c.entities) :
    ∀ a ∈ e.attributes, a.Valid c.readers :=
  (validate_eq_ok.mp h).attr e he

end Catalog

/-- The check of a catalog passes exactly if the catalog is well formed, and otherwise fails with the
first violation: of the find keyword, then of the entities in turn, and for each entity of its name
and then of its attributes in turn. -/
theorem validate_reports_first_violation (c : Catalog) :
    (c.validate = .ok () ↔ c.WellFormed) ∧
      ∀ error, c.validate = .error error ↔ c.violations.head? = some error := by
  refine ⟨Catalog.validate_eq_ok, ?_⟩
  intro error
  rw [Catalog.validate_eq_report, Catalog.report_eq_error]

end GuardedQuery
