import GuardedQuery.Proofs.Query.LabelPath
import GuardedQuery.Proofs.Query.Layout
import GuardedQuery.Proofs.Results.Reach
import GuardedQuery.Proofs.Results.Shape
import GuardedQuery.Proofs.Text.Insertion

/-! # One path for conditions and results

A condition on a relationship joins the hops of its label path and compares the field at their end.
A label is read from a row by an accessor that was computed when the attribute was built. Over a
valid catalog both go the same way. -/

namespace GuardedQuery

/-- Conditions and results follow one path: the hops to `joins`, and the `label` at their end. -/
structure Attribute.SharesPath (a : Attribute) (path : String) (joins : List String)
    (label : String) : Prop where
  declared : a.labelPath? = some path
  /-- The pieces of the path are what the accessor reads. -/
  split : ∃ hops, a.accessor.labelHops = some hops ∧ Text.split '.' path = a.accessor.field :: hops
  two_le : 2 ≤ (Text.split '.' path).length
  nonempty : "" ∉ Text.split '.' path
  /-- The last piece is compared, and all pieces before it are joined. -/
  pieces : Text.split '.' path = joins ++ [label]
  /-- A condition inserts the joins in this order, and is about the label of the last alias. -/
  compiled : ∀ d : Draft, d.writeAttribute a =
    (d.insertJoins (Layout.chain d.nextAlias joins) joins.length).map fun joined =>
      joined.write (Draft.fieldOf (Draft.joinAlias (d.nextAlias + (joins.length - 1))) label.toList)
  /-- The text that this leaves: the joins directly behind the earlier ones, and the label at the
  end. -/
  written : ∀ (d : Draft) (text : List Char), (d.writeAttribute a).map Draft.text = .ok text ↔
    ∃ front back, d.text = front ++ back ∧ Text.byteLength front = d.joinsAt ∧
      text = front ++ Layout.chain d.nextAlias joins ++ back ++
        Draft.fieldOf (Draft.joinAlias (d.nextAlias + (joins.length - 1))) label.toList
  /-- A row is read along the joins to the label. -/
  read : ∀ row, Label.ofRow a.accessor row = Label.resolve (joins ++ [label]) (.record row)
  /-- What is shown are the labels of all records that the joins lead to. -/
  shown : ∀ row value, Label.ofRow a.accessor row = .ok value →
    value.text = String.intercalate Label.separator
      (Label.scalarTexts (((Field.record row).reached joins).flatMap (Field.reached [label])))

/-- A relationship writes the joins along its path, and the label behind them. -/
theorem Draft.writeAttribute_of_joins {a : Attribute} (hrel : a.type.isRelationship = true)
    {path hop label : String} {hops : List String} (hpath : a.labelPath? = some path)
    (hjoins : joinsOf? path = some (hop :: hops, label)) (d : Draft) :
    d.writeAttribute a =
      (d.insertJoins (Layout.chain d.nextAlias (hop :: hops)) (hop :: hops).length).map
        fun joined =>
          joined.write (fieldOf (joinAlias (d.nextAlias + hops.length)) label.toList) := by
  rw [writeAttribute, if_pos hrel, writeLabel, hpath, Option.bind_some, hjoins]
  simp only [Layout.joinChain_eq]
  cases d.insertJoins (Layout.chain d.nextAlias (hop :: hops)) (hop :: hops).length with
  | error e => rfl
  | ok joined => rfl

/-- Joins are inserted where the text can be cut, and the rest of the text stays. -/
theorem Draft.text_insertJoins_eq_ok {d : Draft} {chain : List Char} {count : Nat}
    {text : List Char} :
    (d.insertJoins chain count).map Draft.text = .ok text ↔
      ∃ front back, d.text = front ++ back ∧ Text.byteLength front = d.joinsAt ∧
        text = front ++ chain ++ back := by
  rw [← Text.insertAt_eq_some, insertJoins, splice]
  cases Text.insertAt d.joinsAt chain d.text with
  | none => simp
  | some joined => simp

/-- A relationship leaves the joins behind the earlier ones, and the label at the end. -/
theorem Draft.text_writeAttribute_of_joins {a : Attribute} (hrel : a.type.isRelationship = true)
    {path hop label : String} {hops : List String} (hpath : a.labelPath? = some path)
    (hjoins : joinsOf? path = some (hop :: hops, label)) {d : Draft} {text : List Char} :
    (d.writeAttribute a).map Draft.text = .ok text ↔
      ∃ front back, d.text = front ++ back ∧ Text.byteLength front = d.joinsAt ∧
        text = front ++ Layout.chain d.nextAlias (hop :: hops) ++ back ++
          fieldOf (joinAlias (d.nextAlias + hops.length)) label.toList := by
  rw [writeAttribute_of_joins hrel hpath hjoins]
  constructor
  · intro h
    obtain ⟨after, hafter, rfl⟩ := except_map_eq_ok.mp h
    obtain ⟨joined, hjoined, rfl⟩ := except_map_eq_ok.mp hafter
    obtain ⟨front, back, htext, hfront, hinserted⟩ :=
      text_insertJoins_eq_ok.mp (except_map_eq_ok.mpr ⟨joined, hjoined, rfl⟩)
    exact ⟨front, back, htext, hfront, by rw [write, hinserted]⟩
  · rintro ⟨front, back, htext, hfront, rfl⟩
    obtain ⟨joined, hjoined, hinserted⟩ :=
      except_map_eq_ok.mp (text_insertJoins_eq_ok.mpr ⟨front, back, htext, hfront, rfl⟩)
    rw [hjoined, except_map_ok, except_map_ok, write, hinserted]

/-- A row is read along an accessor with hops as a record is along all of them. -/
theorem Label.ofRow_of_hops (field : String) (hops : List String) (row : Row) :
    ofRow ⟨field, some hops⟩ row = resolve (field :: hops) (.record row) := by
  rw [ofRow, Accessor.read?, resolve_record_cons]
  cases row.lookup field with
  | none => rfl
  | some f => rfl

theorem Attribute.Built.sharesPath {a : Attribute} (h : a.Built) {readers : LiteralReaders}
    (hvalid : a.Valid readers) (hrel : a.type.isRelationship = true) :
    ∃ path joins label, a.SharesPath path joins label := by
  obtain ⟨path, hops, label, hpath, hjoins, hsplit, hempty⟩ := hvalid.exists_joins hrel
  have hhops : a.hops = hops ++ [label] := by
    rw [Attribute.hops, hpath, Option.map_some, hsplit]
    rfl
  have haccessor : a.accessor = ⟨a.name, some (hops ++ [label])⟩ := by
    rw [h.accessor_of_relationship hvalid hrel, hhops]
  have hread : ∀ row, Label.ofRow a.accessor row =
      Label.resolve (a.name :: hops ++ [label]) (.record row) := by
    intro row
    rw [haccessor, Label.ofRow_of_hops]
    rfl
  refine ⟨path, a.name :: hops, label, hpath, ?_, ?_, hsplit ▸ hempty, hsplit, ?_, ?_, hread, ?_⟩
  · rw [haccessor]
    exact ⟨_, rfl, hsplit⟩
  · simp [hsplit]
  · exact Draft.writeAttribute_of_joins hrel hpath hjoins
  · intro d text
    exact Draft.text_writeAttribute_of_joins hrel hpath hjoins
  · intro row value hvalue
    rw [hread] at hvalue
    rw [← Field.reached_append]
    exact Label.text_of_resolve hvalue

/-- Every relationship of a valid catalog, built by calls in any order or loaded from a document, has
one path: the hops that its conditions join are the fields that its label is read from, one after
another, and the field that they compare is the one read last. -/
theorem relationship_sharesPath {c : Catalog} (hvalid : c.validate = .ok ())
    (hbuilt : c.Built ∨ ∃ (document : CatalogDocument) (readers : LiteralReaders),
      c = document.toCatalog readers)
    {e : Entity} (he : e ∈ c.entities) {a : Attribute} (ha : a ∈ e.attributes)
    (hrel : a.type.isRelationship = true) :
    ∃ path joins label, a.SharesPath path joins label := by
  have hentity : e.Built := by
    rcases hbuilt with hbuilt | ⟨document, readers, rfl⟩
    · exact hbuilt e he
    · exact document.toCatalog_built readers e he
  exact (hentity.attribute_built a ha).sharesPath (Catalog.valid_of_validate hvalid he a ha) hrel

/-- Conditions on projects join the projects and their owners, and compare the names that are
shown. -/
theorem projects_sharesPath :
    Titles.catalog.validate = .ok () ∧ Titles.catalog.Built ∧
      Titles.projects.ownedBy "Employee" .unrestricted ∈ Titles.employee.attributes ∧
      (Titles.projects.ownedBy "Employee" .unrestricted).SharesPath "projects.owner.name"
        ["projects", "owner"] "name" ∧
      ((Draft.empty.startEntity Titles.employee).startFilter.writeAttribute
        (Titles.projects.ownedBy "Employee" .unrestricted)).map Draft.text =
          .ok (" x FROM Employee x LEFT JOIN x.projects x1 LEFT JOIN x1.owner x2 WHERE" ++
            " x2.name").toList := by
  have hmem : Titles.projects.ownedBy "Employee" .unrestricted ∈ Titles.employee.attributes := by
    decide +kernel
  have hshares : (Titles.projects.ownedBy "Employee" .unrestricted).SharesPath "projects.owner.name"
      ["projects", "owner"] "name" := by
    obtain ⟨path, joins, label, h⟩ := relationship_sharesPath Titles.catalog_valid
      (.inl Titles.catalog_built) (List.mem_singleton_self _) hmem rfl
    obtain rfl : "projects.owner.name" = path := Option.some.inj h.declared
    have hpieces : Text.split '.' "projects.owner.name" = ["projects", "owner"] ++ ["name"] := by
      decide +kernel
    obtain ⟨rfl, hlabel⟩ := List.append_inj' (hpieces.symm.trans h.pieces) rfl
    obtain rfl := List.singleton_inj.mp hlabel
    exact h
  refine ⟨Titles.catalog_valid, Titles.catalog_built, hmem, hshares, ?_⟩
  exact (hshares.written _ _).mpr
    ⟨" x FROM Employee x".toList, " WHERE".toList, by decide, by decide, by decide +kernel⟩

end GuardedQuery
