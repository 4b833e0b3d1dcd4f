import GuardedQuery.Proofs.Catalog.Building
import GuardedQuery.Proofs.Catalog.Violations
import GuardedQuery.Proofs.Results.Fields
import GuardedQuery.Proofs.Results.Records

/-! # Rows of the declared shape

A catalog declares what the fields of its rows look like: scalars, and for relationships trees that
a label path leads through. Rows of this shape have results, but for the scalars of attributes that
declare a label path without being relationships. -/

namespace GuardedQuery

/-- Fields in which hops lead to scalars. A null ends the way early. -/
inductive Field.Fits : List String → Field → Prop
  | null (hops : List String) : Fits hops (.scalar .null)
  | leaf (v : Value) : Fits [] (.scalar v)
  | record {hop : String} {hops : List String} {fields : List (String × Field)} {f : Field}
      (hlookup : fields.lookup hop = some f) (h : Fits hops f) : Fits (hop :: hops) (.record fields)
  | list {hops : List String} {items : List Field} (h : ∀ f ∈ items, Fits hops f) :
      Fits hops (.list items)

namespace Label

/-- A label is found exactly in the fields that the hops fit. -/
theorem exists_resolve_iff {hops : List String} {f : Field} :
    (∃ value, resolve hops f = .ok value) ↔ f.Fits hops := by
  induction f using Field.induction generalizing hops with
  | scalar v =>
      rw [resolve_scalar]
      by_cases hends : v = .null ∨ hops = []
      · rw [if_pos hends]
        refine ⟨fun _ => ?_, fun _ => ⟨v, rfl⟩⟩
        rcases hends with rfl | rfl
        · exact .null hops
        · exact .leaf v
      · rw [if_neg hends]
        constructor
        · rintro ⟨value, hvalue⟩
          cases hvalue
        · intro hfits
          cases hfits with
          | null => exact absurd (.inl rfl) hends
          | leaf => exact absurd (.inr rfl) hends
  | record fields ih =>
      cases hops with
      | nil =>
          rw [resolve]
          constructor
          · rintro ⟨value, hvalue⟩
            cases hvalue
          · intro hfits
            cases hfits
      | cons hop hops =>
          rw [resolve_record_cons]
          cases hlookup : fields.lookup hop with
          | none =>
              constructor
              · rintro ⟨value, hvalue⟩
                cases hvalue
              · intro hfits
                cases hfits with
                | record hfield _ =>
                    rw [hlookup] at hfield
                    cases hfield
          | some f =>
              rw [ih hop f hlookup]
              constructor
              · intro hfits
                exact .record hlookup hfits
              · intro hfits
                cases hfits with
                | record hfield hfits =>
                    rw [hlookup] at hfield
                    cases hfield
                    exact hfits
  | list items ih =>
      rw [resolve_list, exists_except_map_eq_ok, exists_except_mapM_eq_ok]
      constructor
      · intro hitems
        apply Field.Fits.list
        intro f hf
        exact (ih f hf).mp (hitems f hf)
      · intro hfits
        cases hfits with
        | list hitems =>
            intro f hf
            exact (ih f hf).mpr (hitems f hf)

end Label

namespace Attribute

/-- The hops of the declared label path behind the attribute itself. -/
def hops (a : Attribute) : List String :=
  (a.labelPath?.map fun path => (Text.split '.' path).drop 1).getD []

/-- The declared shape of the field of an attribute. -/
def Declares (a : Attribute) (f : Field) : Prop :=
  if a.type.isRelationship then f.Fits a.hops else ∃ v, f = .scalar v

/-- No label path leads on from the attribute. -/
def LabelsItself (a : Attribute) : Prop :=
  ∀ hop ∈ a.hops, hop = ""

instance (a : Attribute) : Decidable a.LabelsItself :=
  inferInstanceAs (Decidable (∀ hop ∈ a.hops, hop = ""))

/-- The label path of a plain attribute does not lead on from a scalar of the row. -/
def ShownIn (a : Attribute) (row : Row) : Prop :=
  a.type.isRelationship ∨ a.LabelsItself ∨ row.lookup a.name = some (.scalar .null)

end Attribute

/-- The accessor of a valid relationship leads along the whole declared path. -/
theorem Attribute.Built.accessor_of_relationship {a : Attribute} (h : a.Built)
    {readers : LiteralReaders} (hvalid : a.Valid readers) (hrel : a.type.isRelationship) :
    a.accessor = ⟨a.name, some a.hops⟩ := by
  obtain ⟨path, hpath, -, hempty, -⟩ := hvalid.path hrel
  have hfilter : ((Text.split '.' path).drop 1).filter (· ≠ "") = (Text.split '.' path).drop 1 := by
    apply List.filter_eq_self.mpr
    intro hop hhop
    have hne : hop ≠ "" := by
      rintro rfl
      exact hempty (List.mem_of_mem_drop hhop)
    simpa using hne
  have hhops : a.hops = (Text.split '.' path).drop 1 := by
    rw [Attribute.hops, hpath]
    rfl
  rw [h.accessor_eq, Accessor.ofPath, hpath, Option.map_some, hfilter, hhops]

namespace Label

variable {a : Attribute} {row : Row}

/-- The label of a valid relationship is at the end of its declared path. -/
theorem ofRow_relationship (hbuilt : a.Built) {readers : LiteralReaders} (hvalid : a.Valid readers)
    (hrel : a.type.isRelationship) {f : Field} (hf : row.lookup a.name = some f) :
    ofRow a.accessor row = resolve a.hops f := by
  rw [ofRow, Accessor.read?, hbuilt.accessor_of_relationship hvalid hrel, hf]

/-- A value that is not null is shown only where no label path leads on from it. -/
theorem ofRow_scalar (hbuilt : a.Built) {v : Value} (hv : row.lookup a.name = some (.scalar v)) :
    ofRow a.accessor row =
      if v = .null ∨ a.LabelsItself then .ok v else .error .scalarBeforeEnd := by
  rw [ofRow, Accessor.read?, hbuilt.accessor_eq, Accessor.ofPath, hv]
  cases hpath : a.labelPath? with
  | none =>
      have hitself : a.LabelsItself := by simp [Attribute.LabelsItself, Attribute.hops, hpath]
      rw [if_pos (.inr hitself)]
      rfl
  | some path =>
      have hitself : ((Text.split '.' path).drop 1).filter (· ≠ "") = [] ↔ a.LabelsItself := by
        simp [Attribute.LabelsItself, Attribute.hops, hpath]
      simp only [Option.map_some, resolve_scalar, hitself]

end Label

namespace Results

variable {e : Entity} {a : Attribute} {row : Row}

theorem exists_cell_of_shownIn (hbuilt : a.Built) {readers : LiteralReaders}
    (hvalid : a.Valid readers) (hdeclares : ∃ f, row.lookup a.name = some f ∧ a.Declares f)
    (hshown : a.ShownIn row) : ∃ value, cell e row a = .ok value := by
  obtain ⟨f, hf, hdeclares⟩ := hdeclares
  rw [Attribute.Declares] at hdeclares
  by_cases hrel : a.type.isRelationship
  · rw [if_pos hrel] at hdeclares
    obtain ⟨value, hvalue⟩ := Label.exists_resolve_iff.mpr hdeclares
    refine ⟨value, ?_⟩
    rw [cell, Label.ofRow_relationship hbuilt hvalid hrel hf, hvalue, except_mapError_ok]
  · rw [if_neg hrel] at hdeclares
    obtain ⟨v, rfl⟩ := hdeclares
    have hends : v = .null ∨ a.LabelsItself := by
      rcases hshown with h | h | h
      · exact absurd h hrel
      · exact .inr h
      · rw [hf] at h
        cases h
        exact .inl rfl
    refine ⟨v, ?_⟩
    rw [cell, Label.ofRow_scalar hbuilt hf, if_pos hends, except_mapError_ok]

/-- The only fault of a declared field: a label path leads on from a scalar. -/
theorem cell_of_not_shownIn (hbuilt : a.Built)
    (hdeclares : ∃ f, row.lookup a.name = some f ∧ a.Declares f) (hshown : ¬a.ShownIn row) :
    cell e row a = .error ⟨e.displayName, a.displayName, .scalarBeforeEnd⟩ := by
  obtain ⟨hrel, hitself, hnull⟩ : ¬a.type.isRelationship ∧ ¬a.LabelsItself ∧
      row.lookup a.name ≠ some (.scalar .null) := by
    simpa [Attribute.ShownIn] using hshown
  obtain ⟨f, hf, hdeclares⟩ := hdeclares
  rw [Attribute.Declares, if_neg hrel] at hdeclares
  obtain ⟨v, rfl⟩ := hdeclares
  have hstuck : ¬(v = .null ∨ a.LabelsItself) := by
    rintro (rfl | h)
    · exact hnull hf
    · exact hitself h
  rw [cell, Label.ofRow_scalar hbuilt hf, if_neg hstuck, except_mapError_error]

end Results

/-- Rows of the shape that a valid catalog declares have results exactly if no label path of a
plain attribute leads on from a scalar. Nothing else can be wrong with such rows. -/
theorem exists_ofRows_iff_shownIn {c : Catalog} (hvalid : c.validate = .ok ()) (hbuilt : c.Built)
    {e : Entity} (he : e ∈ c.entities) {caller : Caller} (order : AttributeOrder) {rows : List Row}
    (hrows : ∀ row ∈ rows, ∀ a ∈ e.attributesFor .results,
      Access.checkAttribute a caller = .ok () → ∃ f, row.lookup a.name = some f ∧ a.Declares f) :
    ((∃ results, Results.ofRows e caller order rows = .ok results) ↔
        ∀ row ∈ rows, ∀ a ∈ e.attributesFor .results,
          Access.checkAttribute a caller = .ok () → a.ShownIn row) ∧
      ∀ fault, Results.ofRows e caller order rows = .error fault →
        ∃ row ∈ rows, ∃ a ∈ e.attributesFor .results, Access.checkAttribute a caller = .ok () ∧
          ¬a.ShownIn row ∧ fault = ⟨e.displayName, a.displayName, .scalarBeforeEnd⟩ := by
  have hattribute : ∀ a ∈ e.attributesFor .results, a.Built ∧ a.Valid c.readers := by
    intro a ha
    have hmem := Entity.mem_of_mem_attributesFor ha
    exact ⟨(hbuilt e he).attribute_built a hmem, Catalog.valid_of_validate hvalid he a hmem⟩
  have hstuck : ∀ row ∈ rows, ∀ a ∈ e.attributesFor .results,
      Access.checkAttribute a caller = .ok () → ¬a.ShownIn row →
        Results.cell e row a = .error ⟨e.displayName, a.displayName, .scalarBeforeEnd⟩ := by
    intro row hrow a ha hcheck hshown
    exact Results.cell_of_not_shownIn (hattribute a ha).1 (hrows row hrow a ha hcheck) hshown
  have hvalue : ∀ row ∈ rows, ∀ a ∈ e.attributesFor .results,
      Access.checkAttribute a caller = .ok () → a.ShownIn row →
        ∃ value, Results.cell e row a = .ok value := by
    intro row hrow a ha hcheck hshown
    obtain ⟨ha_built, ha_valid⟩ := hattribute a ha
    exact Results.exists_cell_of_shownIn ha_built ha_valid (hrows row hrow a ha hcheck) hshown
  constructor
  · rw [Results.exists_ofRows_iff]
    constructor
    · intro hok row hrow a ha hcheck
      by_contra hshown
      obtain ⟨value, hcell⟩ := hok row hrow a (Results.mem_columns.mpr ⟨ha, hcheck⟩)
      rw [hstuck row hrow a ha hcheck hshown] at hcell
      cases hcell
    · intro hshown row hrow a hcolumn
      obtain ⟨ha, hcheck⟩ := Results.mem_columns.mp hcolumn
      exact hvalue row hrow a ha hcheck (hshown row hrow a ha hcheck)
  · intro fault hfault
    obtain ⟨row, hrow, a, hcolumn, hcell⟩ := Results.exists_cell_of_error hfault
    obtain ⟨ha, hcheck⟩ := Results.mem_columns.mp hcolumn
    have hshown : ¬a.ShownIn row := by
      intro hshown
      obtain ⟨value, hok⟩ := hvalue row hrow a ha hcheck hshown
      rw [hok] at hcell
      cases hcell
    rw [hstuck row hrow a ha hcheck hshown] at hcell
    cases hcell
    exact ⟨row, hrow, a, ha, hcheck, hshown, rfl⟩

/-! ### Job titles -/

namespace Titles

/-- A plain attribute with values to choose from, which have to be labelled. -/
def title : Attribute :=
  ((Attribute.new "title" "Title" .text).withValuesQuery "SELECT t FROM Title t").withLabel "name"

def projects : Attribute :=
  (Attribute.new "projects" "Projects" (.collection "Project")).withLabelPath "projects.owner.name"

def employee : Entity :=
  (Entity.new "Employee" "Employee").withAttributes [projects, title]

def catalog : Catalog :=
  (Catalog.new "find").withEntities [employee]

theorem catalog_valid : catalog.validate = .ok () := by decide +kernel

theorem catalog_built : catalog.Built := by
  intro e he
  have hemployee : employee.Built := by
    apply (Entity.Built.new ..).withAttributes
    intro a ha
    simp only [List.mem_cons, List.not_mem_nil, or_false] at ha
    rcases ha with rfl | rfl
    · exact (Attribute.Built.new ..).withLabelPath _
    · exact ((Attribute.Built.new ..).withValuesQuery _).withLabel _
  rw [List.mem_singleton.mp he]
  exact hemployee

/-- A row with a title, whose second project has no owner. -/
def member (title : Value) : Row :=
  [("title", .scalar title),
    ("projects", .list [.record [("owner", .record [("name", .scalar (.string "Ann"))])],
      .record [("owner", .scalar .null)]])]

theorem member_declares (v : Value) : ∀ row ∈ [member v], ∀ a ∈ employee.attributesFor .results,
    Access.checkAttribute a .anonymous = .ok () →
      ∃ f, row.lookup a.name = some f ∧ a.Declares f := by
  have hattributes : ∀ a ∈ employee.attributesFor .results,
      a.name = "projects" ∧ a.type.isRelationship ∧ a.hops = ["owner", "name"] ∨
        a.name = "title" ∧ ¬a.type.isRelationship := by decide +kernel
  intro row hrow a ha _
  rw [List.mem_singleton.mp hrow]
  rcases hattributes a ha with ⟨hname, hrel, hhops⟩ | ⟨hname, hrel⟩
  · refine ⟨_, by rw [hname]; rfl, ?_⟩
    rw [Attribute.Declares, if_pos hrel, hhops]
    apply Field.Fits.list
    intro f hf
    simp only [List.mem_cons, List.not_mem_nil, or_false] at hf
    rcases hf with rfl | rfl
    · exact .record rfl (.record rfl (.leaf _))
    · exact .record rfl (.null _)
  · refine ⟨_, by rw [hname]; rfl, ?_⟩
    rw [Attribute.Declares, if_neg hrel]
    exact ⟨v, rfl⟩

end Titles

/-- An employee without a title has results. -/
theorem untitled_ofRows_ok :
    Titles.catalog.validate = .ok () ∧
      ∃ results, Results.ofRows Titles.employee .anonymous .declared [Titles.member .null] =
        .ok results := by
  have hshown : ∀ row ∈ [Titles.member .null], ∀ a ∈ Titles.employee.attributesFor .results,
      Access.checkAttribute a .anonymous = .ok () → a.ShownIn row := by
    have hattributes : ∀ a ∈ Titles.employee.attributesFor .results,
        a.type.isRelationship ∨ a.name = "title" := by decide +kernel
    intro row hrow a ha _
    rw [List.mem_singleton.mp hrow]
    rcases hattributes a ha with hrel | hname
    · exact .inl hrel
    · rw [Attribute.ShownIn, hname]
      exact .inr (.inr rfl)
  have hexact := exists_ofRows_iff_shownIn Titles.catalog_valid Titles.catalog_built
    (List.mem_singleton_self _) .declared (Titles.member_declares .null)
  exact ⟨Titles.catalog_valid, hexact.1.mpr hshown⟩

/-- An employee with a title has none, though the row has the declared shape: the label of the
values to choose from is asked of the title itself. -/
theorem engineer_ofRows_error :
    Titles.catalog.validate = .ok () ∧ Titles.catalog.Built ∧
      Titles.employee ∈ Titles.catalog.entities ∧
      (∀ row ∈ [Titles.member (.string "Engineer")], ∀ a ∈ Titles.employee.attributesFor .results,
        Access.checkAttribute a .anonymous = .ok () →
          ∃ f, row.lookup a.name = some f ∧ a.Declares f) ∧
      Results.ofRows Titles.employee .anonymous .declared [Titles.member (.string "Engineer")] =
        .error ⟨"Employee", "Title", .scalarBeforeEnd⟩ :=
  ⟨Titles.catalog_valid, Titles.catalog_built, List.mem_singleton_self _,
    Titles.member_declares (.string "Engineer"), by decide +kernel⟩

end GuardedQuery
