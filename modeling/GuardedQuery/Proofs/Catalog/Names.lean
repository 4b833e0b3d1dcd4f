import GuardedQuery.Proofs.Catalog.Building
import GuardedQuery.Proofs.Catalog.Violations
import Mathlib.Data.List.Nodup

/-! # Names in a valid catalog

No two entities of a valid catalog have one display name, and no two attributes of an entity. What is
found under a name is therefore the only thing of this name. -/

namespace GuardedQuery

/-- The only element of a name is found under it. -/
theorem find?_eq_some_iff_of_nodup {α : Type} {name : α → String} {xs : List α}
    (h : (xs.map name).Nodup) {wanted : String} {x : α} :
    xs.find? (name · = wanted) = some x ↔ x ∈ xs ∧ name x = wanted := by
  constructor
  · intro hfind
    exact ⟨List.mem_of_find?_eq_some hfind, by simpa using List.find?_some hfind⟩
  · rintro ⟨hx, rfl⟩
    cases hfind : xs.find? (name · = name x) with
    | none => simpa using List.find?_eq_none.mp hfind x hx
    | some y =>
        have hname : name y = name x := by simpa using List.find?_some hfind
        rw [List.inj_on_of_nodup_map h (List.mem_of_find?_eq_some hfind) hx hname]

namespace Catalog

variable {e : Entity} {c : Catalog}

theorem nodup_entityNames (hvalid : c.validate = .ok ()) :
    (c.entities.map (·.displayName)).Nodup :=
  (validate_eq_ok.mp hvalid).entityNames

theorem nodup_attributeNames (hvalid : c.validate = .ok ()) (he : e ∈ c.entities) :
    (e.attributes.map (·.displayName)).Nodup :=
  (validate_eq_ok.mp hvalid).attributeNames e he

theorem entity?_eq_some_iff (hvalid : c.validate = .ok ()) {name : String} :
    c.entity? name = some e ↔ e ∈ c.entities ∧ e.displayName = name :=
  find?_eq_some_iff_of_nodup (nodup_entityNames hvalid)

theorem attribute?_eq_some_iff (hvalid : c.validate = .ok ()) (he : e ∈ c.entities) {name : String}
    {purpose : Purpose} {a : Attribute} :
    e.attribute? name purpose = some a ↔ a ∈ e.attributesFor purpose ∧ a.displayName = name := by
  have hsublist : (e.attributesFor purpose).Sublist e.attributes := List.filter_sublist
  have hnodup : ((e.attributesFor purpose).map (·.displayName)).Nodup :=
    (nodup_attributeNames hvalid he).sublist (hsublist.map _)
  exact find?_eq_some_iff_of_nodup hnodup

end Catalog

end GuardedQuery
