import GuardedQuery.Proofs.Catalog.Names
import GuardedQuery.Proofs.Results.Records

/-! # Records with fewer columns

A record with columns of distinct names holds one entry for each column, in the order of the columns.
To leave columns out is then to leave their entries out of every record. -/

namespace GuardedQuery

namespace Item

theorem get?_cons (entry : String × Value) (entries : List (String × Value)) (name : String) :
    (⟨entry :: entries⟩ : Item).get? name =
      if entry.1 = name then some entry.2 else (⟨entries⟩ : Item).get? name := by
  rw [get?, List.lookup_cons]
  by_cases hname : entry.1 = name
  · rw [if_pos hname, hname, beq_self_eq_true]
  · rw [if_neg hname, beq_false_of_ne (Ne.symm hname)]
    rfl

/-- A new name goes behind the others. -/
theorem entries_insert_of_notMem {item : Item} {name : String} (value : Value)
    (h : name ∉ item.names) : (item.insert name value).entries = item.entries ++ [(name, value)] := by
  obtain ⟨entries⟩ := item
  simp only [insert, names] at h ⊢
  induction entries with
  | nil => rfl
  | cons entry entries ih =>
      rw [List.map_cons, List.mem_cons, not_or] at h
      rw [insertEntry, if_neg (Ne.symm h.1), ih h.2, List.cons_append]

/-- The record without the entries of some names. -/
def without (item : Item) (names : List String) : Item :=
  ⟨item.entries.filter (·.1 ∉ names)⟩

end Item

namespace Results

theorem columns_sublist (e : Entity) (caller : Caller) (order : AttributeOrder) :
    (columns e caller order).Sublist (order.arrange e.attributes) := by
  have hsublist : ((e.attributesFor .results).filter (Access.allowsAttribute · caller)).Sublist
      e.attributes := List.filter_sublist.trans List.filter_sublist
  cases order with
  | declared => exact hsublist
  | reverse => exact hsublist.reverse

/-- The names of the columns are distinct if those of the attributes are. -/
theorem nodup_columns {e : Entity} (hnodup : (e.attributes.map (·.displayName)).Nodup)
    (caller : Caller) (order : AttributeOrder) :
    ((columns e caller order).map (·.displayName)).Nodup := by
  have hsublist := (columns_sublist e caller order).map (·.displayName)
  cases order with
  | declared => exact hnodup.sublist hsublist
  | reverse =>
      rw [AttributeOrder.arrange, List.map_reverse] at hsublist
      exact (List.nodup_reverse.mpr hnodup).sublist hsublist

variable {e : Entity} {row : Row} {columns : List Attribute} {built record : Item}

/-- The entry of a column in the record of a row. -/
def Shows (e : Entity) (row : Row) (a : Attribute) (entry : String × Value) : Prop :=
  entry.1 = a.displayName ∧ cell e row a = .ok entry.2

/-- Columns of distinct new names add their entries behind those that are there. -/
theorem item_append_eq_ok (hnodup : (columns.map (·.displayName)).Nodup)
    (hnew : ∀ a ∈ columns, a.displayName ∉ built.names) :
    item e row columns built = .ok record ↔
      ∃ entries, record = ⟨built.entries ++ entries⟩ ∧
        List.Forall₂ (Shows e row) columns entries := by
  induction columns generalizing built with
  | nil =>
      simp only [item, Except.ok.injEq, List.forall₂_nil_left_iff, exists_eq_right, List.append_nil]
      exact eq_comm
  | cons a columns ih =>
      rw [List.map_cons, List.nodup_cons] at hnodup
      have hentries (value : Value) := Item.entries_insert_of_notMem value (hnew a (by simp))
      have hnew' (value : Value) :
          ∀ b ∈ columns, b.displayName ∉ (built.insert a.displayName value).names := by
        intro b hb
        rw [Item.mem_names_insert, not_or]
        refine ⟨?_, hnew b (by simp [hb])⟩
        intro hname
        exact hnodup.1 (List.mem_map.mpr ⟨b, hb, hname⟩)
      simp only [item, except_bind_eq_ok, ih hnodup.2 (hnew' _), hentries]
      constructor
      · rintro ⟨value, hvalue, entries, rfl, hrest⟩
        exact ⟨(a.displayName, value) :: entries, by simp, .cons ⟨rfl, hvalue⟩ hrest⟩
      · rintro ⟨_, rfl, _ | ⟨⟨hname, hvalue⟩, hrest⟩⟩
        exact ⟨_, hvalue, _, by simp [← hname], hrest⟩

/-- A record of columns with distinct names holds their entries. -/
theorem item_eq_ok (hnodup : (columns.map (·.displayName)).Nodup) :
    item e row columns .empty = .ok record ↔
      List.Forall₂ (Shows e row) columns record.entries := by
  rw [item_append_eq_ok hnodup (by simp [Item.empty, Item.names])]
  constructor
  · rintro ⟨entries, rfl, h⟩
    exact h
  · intro h
    exact ⟨record.entries, rfl, h⟩

/-- A record of some of the columns is the record of all without the names of the others. -/
theorem item_filter {shown : Attribute → Bool} {hidden : List String}
    (hnodup : (columns.map (·.displayName)).Nodup)
    (hshown : ∀ a ∈ columns, shown a = true ↔ a.displayName ∉ hidden)
    (h : item e row columns .empty = .ok record) :
    item e row (columns.filter shown) .empty = .ok (record.without hidden) := by
  have hsublist := (List.filter_sublist (p := shown) (l := columns)).map (·.displayName)
  rw [item_eq_ok (hnodup.sublist hsublist)]
  -- the entry of a column is kept if and only if the column is
  have hkeep : ∀ a entry, (shown a = true ↔ a.displayName ∉ hidden) ∧ Shows e row a entry →
      (shown a = true ↔ decide (entry.1 ∉ hidden) = true) := by
    rintro a entry ⟨ha, hname, -⟩
    rw [ha, hname, decide_eq_true_iff]
  have hentries := (List.forall₂_and_left columns record.entries).mpr
    ⟨hshown, (item_eq_ok hnodup).mp h⟩
  have hfilter := List.rel_filter hkeep hentries
  exact hfilter.imp fun _ _ => And.right

/-- What is left of records without the entries of some names. -/
def without (results : Results) (names : List String) : Results :=
  { results with items := results.items.map (·.without names) }

/-- Who sees some of the columns that another caller sees has the results of the other without the
names of the columns that are left out. -/
theorem ofRows_filter {caller other : Caller} {order : AttributeOrder} {rows : List Row}
    {results : Results} {shown : Attribute → Bool} {hidden : List String}
    (hcolumns : Results.columns e caller order = (Results.columns e other order).filter shown)
    (hnodup : ((Results.columns e other order).map (·.displayName)).Nodup)
    (hshown : ∀ a ∈ Results.columns e other order, shown a = true ↔ a.displayName ∉ hidden)
    (h : ofRows e other order rows = .ok results) :
    ofRows e caller order rows = .ok (results.without hidden) := by
  rw [ofRows_eq, except_map_eq_ok] at h ⊢
  obtain ⟨items, hitems, rfl⟩ := h
  refine ⟨items.map (·.without hidden), ?_, rfl⟩
  rw [except_mapM_eq_ok] at hitems ⊢
  rw [List.forall₂_map_right_iff, hcolumns]
  exact hitems.imp fun row record hrecord => item_filter hnodup hshown hrecord

end Results

end GuardedQuery
