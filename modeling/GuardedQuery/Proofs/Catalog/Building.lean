import GuardedQuery.Catalog.Document

/-! # Building catalogs

Attributes and entities are built call by call. Whatever the order of the calls, the accessor of an
attribute follows its label path, and the attributes of an entity are bound to its name and to its
last roles. A catalog document is a way to make such calls. -/

namespace GuardedQuery

/-- The attributes that calls can build. One that was taken out of an entity can be built on. -/
inductive Attribute.Built : Attribute → Prop
  | new (name displayName : String) (type : ValueType) : Built (.new name displayName type)
  | withRoles {a : Attribute} (h : Built a) (roles : String) : Built (a.withRoles roles)
  | withScope {a : Attribute} (h : Built a) (scope : Scope) : Built (a.withScope scope)
  | withValuesQuery {a : Attribute} (h : Built a) (query : String) : Built (a.withValuesQuery query)
  | withLabel {a : Attribute} (h : Built a) (label : String) : Built (a.withLabel label)
  | withLabelPath {a : Attribute} (h : Built a) (path : String) : Built (a.withLabelPath path)
  | ownedBy {a : Attribute} (h : Built a) (owner : String) (roles : RoleSet) :
      Built (a.ownedBy owner roles)

/-- The entities that calls can build. -/
inductive Entity.Built : Entity → Prop
  | new (typeId displayName : String) : Built (.new typeId displayName)
  | withRoles {e : Entity} (h : Built e) (roles : String) : Built (e.withRoles roles)
  | withFilter {e : Entity} (h : Built e) (filter : String) : Built (e.withFilter filter)
  | withAttribute {e : Entity} (h : Built e) {a : Attribute} (ha : a.Built) :
      Built (e.withAttribute a)

/-- A catalog of built entities. -/
def Catalog.Built (c : Catalog) : Prop :=
  ∀ e ∈ c.entities, e.Built

/-! ## Attributes -/

/-- The accessor of a built attribute follows the label path that the attribute ended up with. -/
theorem Attribute.Built.accessor_eq {a : Attribute} (h : a.Built) :
    a.accessor = .ofPath a.name a.labelPath? := by
  induction h with
  | new name displayName type => rfl
  | withRoles _ roles ih => exact ih
  | withScope _ scope ih => exact ih
  | withValuesQuery _ query ih => exact ih
  | withLabel _ label _ => rfl
  | withLabelPath _ path _ => rfl
  | ownedBy _ owner roles ih => exact ih

namespace Entity

/-- What a purpose leaves visible is an attribute of the entity. -/
theorem mem_of_mem_attributesFor {e : Entity} {purpose : Purpose} {a : Attribute}
    (h : a ∈ e.attributesFor purpose) : a ∈ e.attributes :=
  (List.mem_filter.mp h).1

/-- An attribute carries the name of an entity, and its effective roles are its own under those of
the entity. -/
structure Binds (e : Entity) (a : Attribute) : Prop where
  owner : a.owner = some e.displayName
  effectiveRoles : a.effectiveRoles = a.roles.restrictedBy e.roles

/-- New roles are handed to all attributes. -/
theorem binds_of_mem_withRoles {e : Entity} {roles : String} {a : Attribute}
    (ha : a ∈ (e.withRoles roles).attributes) : (e.withRoles roles).Binds a := by
  obtain ⟨before, -, rfl⟩ := List.mem_map.mp ha
  exact ⟨rfl, rfl⟩

namespace Built

variable {e : Entity}

theorem withAttributes (h : e.Built) {attributes : List Attribute}
    (hattributes : ∀ a ∈ attributes, a.Built) : (e.withAttributes attributes).Built := by
  induction attributes generalizing e with
  | nil => exact h
  | cons a attributes ih =>
      have ha : (e.withAttribute a).Built := h.withAttribute (hattributes a (by simp))
      have hrest : ∀ b ∈ attributes, b.Built := by
        intro b hb
        exact hattributes b (by simp [hb])
      exact ih ha hrest

theorem attribute_built (h : e.Built) : ∀ a ∈ e.attributes, a.Built := by
  induction h with
  | new typeId displayName =>
      intro a ha
      cases ha
  | @withRoles e _ roles ih =>
      intro a ha
      obtain ⟨before, hbefore, rfl⟩ := List.mem_map.mp ha
      exact (ih before hbefore).ownedBy e.displayName (.parse roles)
  | withFilter _ filter ih => exact ih
  | @withAttribute e _ added hadded ih =>
      intro a ha
      rcases List.mem_append.mp ha with ha | ha
      · exact ih a ha
      · rw [List.mem_singleton.mp ha]
        exact hadded.ownedBy e.displayName e.roles

/-- The attributes of a built entity are bound to it, whether they came before or after its
roles. -/
theorem binds (h : e.Built) : ∀ a ∈ e.attributes, e.Binds a := by
  induction h with
  | new typeId displayName =>
      intro a ha
      cases ha
  | withRoles _ roles _ =>
      intro a ha
      exact binds_of_mem_withRoles ha
  | withFilter _ filter ih =>
      intro a ha
      exact ⟨(ih a ha).owner, (ih a ha).effectiveRoles⟩
  | withAttribute _ _ ih =>
      intro a ha
      rcases List.mem_append.mp ha with ha | ha
      · exact ⟨(ih a ha).owner, (ih a ha).effectiveRoles⟩
      · rw [List.mem_singleton.mp ha]
        exact ⟨rfl, rfl⟩

end Built

end Entity

/-! ## Documents -/

/-- A call that is left out where an entry is absent keeps what all its outcomes have. -/
private theorem of_map_getD {α β : Type} {P : α → Prop} {start : α} {call : β → α}
    (entry : Option β) (hstart : P start) (hcall : ∀ b, P (call b)) :
    P ((entry.map call).getD start) := by
  cases entry with
  | none => exact hstart
  | some b => exact hcall b

theorem AttributeEntry.toAttribute_built (entry : AttributeEntry) : entry.toAttribute.Built := by
  have hscope : ((Attribute.new entry.name entry.displayName entry.type).withScope
      entry.scope).Built := (Attribute.Built.new ..).withScope entry.scope
  have hroles := of_map_getD entry.roles hscope hscope.withRoles
  have hquery := of_map_getD (entry.valuesQuery.filter (! Text.allBlank ·)) hroles
    hroles.withValuesQuery
  have hlabel := of_map_getD (entry.label.filter (· ≠ "")) hquery hquery.withLabel
  exact of_map_getD (entry.labelPath.filter (· ≠ "")) hlabel hlabel.withLabelPath

theorem EntityEntry.toEntity_built (entry : EntityEntry) : entry.toEntity.Built := by
  have hattributes : ∀ a ∈ entry.attributes.map AttributeEntry.toAttribute, a.Built := by
    intro a ha
    obtain ⟨attributeEntry, -, rfl⟩ := List.mem_map.mp ha
    exact attributeEntry.toAttribute_built
  have hstart := (Entity.Built.new entry.typeId entry.displayName).withAttributes hattributes
  have hroles := of_map_getD entry.roles hstart hstart.withRoles
  exact of_map_getD (entry.filter.filter (! Text.allBlank ·)) hroles hroles.withFilter

/-- The catalog of a document is one that calls can build. -/
theorem CatalogDocument.toCatalog_built (d : CatalogDocument) (readers : LiteralReaders) :
    (d.toCatalog readers).Built := by
  intro e he
  obtain ⟨entry, -, rfl⟩ := List.mem_map.mp he
  exact entry.toEntity_built

end GuardedQuery
