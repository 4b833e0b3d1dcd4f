import GuardedQuery.Proofs.Results.Projection
import GuardedQuery.Proofs.Results.Visibility

/-! # Columns of records

Over a valid catalog a record holds one value for every attribute that results show to the caller,
in the order of the declarations. The other order reverses every record and changes nothing else. -/

namespace GuardedQuery

/-- The attributes that results show to a caller, in the order of their declarations. -/
def Entity.shownTo (e : Entity) (caller : Caller) : List Attribute :=
  (e.attributesFor .results).filter (Access.allowsAttribute · caller)

/-- The record with its entries in the other order. -/
def Item.reversed (item : Item) : Item :=
  ⟨item.entries.reverse⟩

namespace Results

/-- The same rows with every record in the other order. -/
def reversed (results : Results) : Results :=
  { results with items := results.items.map Item.reversed }

variable {e : Entity} {row : Row} {columns : List Attribute} {record : Item}

/-- The columns in the other order have the same entries in the other order. -/
theorem item_reverse (hnodup : (columns.map (·.displayName)).Nodup)
    (h : item e row columns .empty = .ok record) :
    item e row columns.reverse .empty = .ok record.reversed := by
  have hreverse : (columns.reverse.map (·.displayName)).Nodup := by
    rw [List.map_reverse]
    exact List.nodup_reverse.mpr hnodup
  rw [item_eq_ok hnodup] at h
  rw [item_eq_ok hreverse]
  exact List.forall₂_reverse_iff.mpr h

theorem ofRows_reverse (hnodup : (e.attributes.map (·.displayName)).Nodup) {caller : Caller}
    {rows : List Row} {results : Results} (h : ofRows e caller .declared rows = .ok results) :
    ofRows e caller .reverse rows = .ok results.reversed := by
  rw [ofRows_eq, except_map_eq_ok] at h ⊢
  obtain ⟨items, hitems, rfl⟩ := h
  refine ⟨items.map Item.reversed, ?_, rfl⟩
  rw [except_mapM_eq_ok] at hitems ⊢
  rw [List.forall₂_map_right_iff]
  have hcolumns := nodup_columns hnodup caller .declared
  exact hitems.imp fun row record hrecord => item_reverse hcolumns hrecord

/-- Entries of columns have the names of the columns. -/
theorem names_eq_of_shows (h : List.Forall₂ (Shows e row) columns record.entries) :
    record.names = columns.map (·.displayName) := by
  obtain ⟨entries⟩ := record
  simp only [Item.names] at h ⊢
  induction h with
  | nil => rfl
  | cons hentry _ ih => rw [List.map_cons, List.map_cons, hentry.1, ih]

/-- Under the name of a column stands the value of the column. -/
theorem get?_of_shows (hnodup : (columns.map (·.displayName)).Nodup)
    (h : List.Forall₂ (Shows e row) columns record.entries) {a : Attribute} (ha : a ∈ columns) :
    ∃ value, Label.ofRow a.accessor row = .ok value ∧ record.get? a.displayName = some value := by
  obtain ⟨entries⟩ := record
  simp only at h
  induction h with
  | nil => cases ha
  | @cons first entry columns entries hentry _ ih =>
      obtain ⟨hname, hcell⟩ := hentry
      rw [List.map_cons, List.nodup_cons] at hnodup
      rw [Item.get?_cons, hname]
      rcases List.mem_cons.mp ha with rfl | ha
      · exact ⟨entry.2, except_mapError_eq_ok.mp hcell, if_pos rfl⟩
      · have hother : first.displayName ≠ a.displayName := by
          intro heq
          exact hnodup.1 (List.mem_map.mpr ⟨a, ha, heq.symm⟩)
        rw [if_neg hother]
        exact ih hnodup.2 ha

end Results

/-- Over a valid catalog rows have results in one order if and only if they have results in the
other. There is one record for every row, which holds the values of the attributes shown to the
caller under their names, each once and in the order of the declarations. The other order reverses
every record. -/
theorem ofRows_shows_columns {c : Catalog} (hvalid : c.validate = .ok ()) {e : Entity}
    (he : e ∈ c.entities) (caller : Caller) (rows : List Row) :
    ((∃ results, Results.ofRows e caller .declared rows = .ok results) ↔
      ∃ results, Results.ofRows e caller .reverse rows = .ok results) ∧
    ∀ results, Results.ofRows e caller .declared rows = .ok results →
      List.Forall₂ (fun row record =>
        record.names = (e.shownTo caller).map (·.displayName) ∧ record.names.Nodup ∧
          ∀ a ∈ e.shownTo caller, ∃ value, Label.ofRow a.accessor row = .ok value ∧
            record.get? a.displayName = some value) rows results.items ∧
      Results.ofRows e caller .reverse rows = .ok results.reversed := by
  have hnodup := Catalog.nodup_attributeNames hvalid he
  have hcolumns := Results.nodup_columns hnodup caller .declared
  refine ⟨?_, ?_⟩
  · rw [Results.exists_ofRows_iff, Results.exists_ofRows_iff]
    simp only [Results.mem_columns]
  · intro results hresults
    refine ⟨?_, Results.ofRows_reverse hnodup hresults⟩
    rw [Results.ofRows_eq, except_map_eq_ok] at hresults
    obtain ⟨items, hitems, rfl⟩ := hresults
    rw [except_mapM_eq_ok] at hitems
    apply hitems.imp
    intro row record hrecord
    have hshows := (Results.item_eq_ok hcolumns).mp hrecord
    have hnames := Results.names_eq_of_shows hshows
    exact ⟨hnames, hnames ▸ hcolumns, fun a ha => Results.get?_of_shows hcolumns hshows ha⟩

namespace Badges

def catalog : Catalog := (Catalog.new "find").withEntities [employee]

/-- A row without a department. -/
def bob : Row :=
  [("name", .scalar (.string "Bob")), ("department", .scalar .null), ("salary", .scalar (.int64 900))]

end Badges

/-- An administrator sees three of the four attributes. -/
theorem alice_and_bob_seen_by_admin :
    Badges.catalog.validate = .ok () ∧ Badges.employee ∈ Badges.catalog.entities ∧
      Results.ofRows Badges.employee (.ofRoleList "admin") .declared [Badges.alice, Badges.bob] =
        .ok ⟨"Employee",
          [⟨[("Name", .string "Alice"), ("Department", .string "R&D"), ("Salary", .int64 1000)]⟩,
            ⟨[("Name", .string "Bob"), ("Department", .null), ("Salary", .int64 900)]⟩]⟩ ∧
      Results.ofRows Badges.employee (.ofRoleList "admin") .reverse [Badges.alice, Badges.bob] =
        .ok ⟨"Employee",
          [⟨[("Salary", .int64 1000), ("Department", .string "R&D"), ("Name", .string "Alice")]⟩,
            ⟨[("Salary", .int64 900), ("Department", .null), ("Name", .string "Bob")]⟩]⟩ := by
  have hvalid : Badges.catalog.validate = .ok () := by decide +kernel
  have he : Badges.employee ∈ Badges.catalog.entities := List.mem_singleton_self _
  have hdeclared : Results.ofRows Badges.employee (.ofRoleList "admin") .declared
      [Badges.alice, Badges.bob] = .ok ⟨"Employee",
        [⟨[("Name", .string "Alice"), ("Department", .string "R&D"), ("Salary", .int64 1000)]⟩,
          ⟨[("Name", .string "Bob"), ("Department", .null), ("Salary", .int64 900)]⟩]⟩ := by
    decide +kernel
  exact ⟨hvalid, he, hdeclared, ((ofRows_shows_columns hvalid he _ _).2 _ hdeclared).2⟩

end GuardedQuery
