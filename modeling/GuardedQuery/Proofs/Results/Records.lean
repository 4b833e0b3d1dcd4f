import GuardedQuery.Proofs.Except
import GuardedQuery.Proofs.Roles
import GuardedQuery.Results.Basic

/-! # Records column by column

The results of rows as a table: the value of each cell depends on one row and one column, and a
record puts the values of its row under the names of the columns. -/

namespace GuardedQuery

theorem Item.mem_names_insert {item : Item} {name : String} {value : Value} {other : String} :
    other ∈ (item.insert name value).names ↔ other = name ∨ other ∈ item.names := by
  obtain ⟨entries⟩ := item
  simp only [insert, names]
  induction entries with
  | nil => simp [insertEntry]
  | cons entry entries ih =>
      rw [insertEntry]
      by_cases hname : entry.1 = name
      · rw [if_pos hname]
        simp [hname]
      · rw [if_neg hname, List.map_cons, List.mem_cons, ih]
        simp only [List.map_cons, List.mem_cons]
        exact or_left_comm

namespace Results

variable {e : Entity} {caller : Caller} {order : AttributeOrder} {row : Row} {rows : List Row}

/-- The columns are the attributes visible in results that the caller may use, in either order. -/
theorem mem_columns {a : Attribute} :
    a ∈ columns e caller order ↔
      a ∈ e.attributesFor .results ∧ Access.checkAttribute a caller = .ok () := by
  rw [Access.checkAttribute_eq_ok]
  cases order with
  | declared => simp [columns, AttributeOrder.arrange, Access.allowsAttribute]
  | reverse => simp [columns, AttributeOrder.arrange, Access.allowsAttribute]

/-- Put values under the names of columns. -/
def fill (built : Item) : List Attribute → List Value → Item
  | a :: columns, value :: values => fill (built.insert a.displayName value) columns values
  | _, _ => built

/-- A record is made of the cells of its row. -/
theorem item_eq (e : Entity) (row : Row) (columns : List Attribute) (built : Item) :
    item e row columns built = (columns.mapM (cell e row)).map (fill built columns) := by
  induction columns generalizing built with
  | nil => rfl
  | cons a columns ih =>
      rw [item, List.mapM_cons]
      cases cell e row a with
      | error fault => rfl
      | ok value =>
          rw [except_ok_bind, except_ok_bind, ih]
          cases columns.mapM (cell e row) with
          | error fault => rfl
          | ok values => rfl

theorem ofRows_eq (e : Entity) (caller : Caller) (order : AttributeOrder) (rows : List Row) :
    ofRows e caller order rows =
      (rows.mapM fun row => item e row (columns e caller order) .empty).map
        (⟨e.displayName, ·⟩) := by
  rw [ofRows]
  cases rows.mapM fun row => item e row (columns e caller order) .empty with
  | error fault => rfl
  | ok items => rfl

/-- Rows have results if each of their cells has a value. -/
theorem exists_ofRows_iff :
    (∃ results, ofRows e caller order rows = .ok results) ↔
      ∀ row ∈ rows, ∀ a ∈ columns e caller order, ∃ value, cell e row a = .ok value := by
  rw [ofRows_eq, exists_except_map_eq_ok, exists_except_mapM_eq_ok]
  simp only [item_eq, exists_except_map_eq_ok, exists_except_mapM_eq_ok]

/-- A fault is that of a cell. -/
theorem exists_cell_of_error {fault : RowError} (h : ofRows e caller order rows = .error fault) :
    ∃ row ∈ rows, ∃ a ∈ columns e caller order, cell e row a = .error fault := by
  rw [ofRows_eq, except_map_eq_error] at h
  obtain ⟨row, hrow, hitem⟩ := exists_of_except_mapM_eq_error h
  rw [item_eq, except_map_eq_error] at hitem
  obtain ⟨a, ha, hcell⟩ := exists_of_except_mapM_eq_error hitem
  exact ⟨row, hrow, a, ha, hcell⟩

end Results

end GuardedQuery
