import GuardedQuery.Proofs.Results.Reach

/-! # Labels with and without lists

Hops that meet no list lead from field to field, and the label is the value at their end. Hops that
meet a list lead to any number of leaves, and the label is one text of all of them, however deep the
lists are nested. -/

namespace GuardedQuery

namespace Field

/-- Hops that lead through records alone, from one field to another. -/
inductive Leads : Field → List String → Field → Prop
  | here (f : Field) : Leads f [] f
  | field {fields : List (String × Field)} {hop : String} {f : Field} {hops : List String}
      {g : Field} (hlookup : fields.lookup hop = some f) (h : Leads f hops g) :
      Leads (.record fields) (hop :: hops) g

/-- On the way along hops or at their end there is a list. -/
def MeetsList (f : Field) (hops : List String) : Prop :=
  ∃ front rest items, hops = front ++ rest ∧ f.Leads front (.list items)

/-- The way along hops ends at a null, before or after the last hop. -/
def MeetsNull (f : Field) (hops : List String) : Prop :=
  ∃ front rest, hops = front ++ rest ∧ f.Leads front (.scalar .null)

theorem meetsList_list (items : List Field) (hops : List String) : (list items).MeetsList hops :=
  ⟨[], hops, items, rfl, .here (.list items)⟩

theorem not_meetsList_scalar (v : Value) (hops : List String) : ¬ (scalar v).MeetsList hops := by
  rintro ⟨front, rest, items, -, hleads⟩
  cases hleads

variable {fields : List (String × Field)} {hop : String} {hops : List String} {f : Field}

theorem meetsList_record_cons (hlookup : fields.lookup hop = some f) :
    (record fields).MeetsList (hop :: hops) ↔ f.MeetsList hops := by
  constructor
  · rintro ⟨front, rest, items, hhops, hleads⟩
    cases hleads with
    | field hlookup' hleads =>
        obtain ⟨rfl, rfl⟩ := List.cons.inj hhops
        obtain rfl := Option.some.inj (hlookup.symm.trans hlookup')
        exact ⟨_, rest, items, rfl, hleads⟩
  · rintro ⟨front, rest, items, rfl, hleads⟩
    exact ⟨hop :: front, rest, items, rfl, .field hlookup hleads⟩

theorem MeetsNull.record_cons (hlookup : fields.lookup hop = some f) (h : f.MeetsNull hops) :
    (record fields).MeetsNull (hop :: hops) := by
  obtain ⟨front, rest, rfl, hleads⟩ := h
  exact ⟨hop :: front, rest, rfl, .field hlookup hleads⟩

end Field

namespace Label

/-- A label is found in a record if it is found in the field of the first hop. -/
theorem resolve_record_eq_ok {hops : List String} {fields : List (String × Field)} {value : Value} :
    resolve hops (.record fields) = .ok value ↔
      ∃ hop rest f, hops = hop :: rest ∧ fields.lookup hop = some f ∧ resolve rest f = .ok value := by
  cases hops with
  | nil =>
      rw [resolve]
      simp
  | cons hop hops =>
      rw [resolve_record_cons]
      cases hlookup : fields.lookup hop with
      | none => simp [hlookup]
      | some f => simp [hlookup]

variable {hops : List String} {f : Field} {value : Value}

/-- Where there is no list, the label is the scalar at the end of the hops, or the null that ends the
way. -/
theorem leads_of_resolve (h : resolve hops f = .ok value) (hlist : ¬ f.MeetsList hops) :
    f.Leads hops (.scalar value) ∨ f.MeetsNull hops ∧ value = .null := by
  induction f using Field.induction generalizing hops with
  | scalar v =>
      rw [resolve_scalar] at h
      split at h
      · rename_i hends
        cases h
        rcases hends with rfl | rfl
        · exact .inr ⟨⟨[], hops, rfl, .here _⟩, rfl⟩
        · exact .inl (.here _)
      · cases h
  | record fields ih =>
      obtain ⟨hop, rest, f, rfl, hlookup, hvalue⟩ := resolve_record_eq_ok.mp h
      rw [Field.meetsList_record_cons hlookup] at hlist
      rcases ih hop f hlookup hvalue hlist with hleads | ⟨hnull, rfl⟩
      · exact .inl (.field hlookup hleads)
      · exact .inr ⟨hnull.record_cons hlookup, rfl⟩
  | list items _ => exact absurd (Field.meetsList_list items hops) hlist

/-- Where there is a list, the label is a text. -/
theorem eq_string_of_resolve (h : resolve hops f = .ok value) (hlist : f.MeetsList hops) :
    value = .string value.text := by
  induction f using Field.induction generalizing hops with
  | scalar v => exact absurd hlist (Field.not_meetsList_scalar v hops)
  | record fields ih =>
      obtain ⟨hop, rest, f, rfl, hlookup, hvalue⟩ := resolve_record_eq_ok.mp h
      exact ih hop f hlookup hvalue ((Field.meetsList_record_cons hlookup).mp hlist)
  | list items _ =>
      rw [resolve_list] at h
      obtain ⟨values, -, rfl⟩ := except_map_eq_ok.mp h
      rw [Value.text, Value.chars, String.ofList_toList]

/-- The hops of a label lead to nothing but scalars. -/
theorem scalar_of_mem_reached (h : resolve hops f = .ok value) {g : Field}
    (hg : g ∈ f.reached hops) : ∃ v, g = .scalar v := by
  induction f using Field.induction generalizing hops value with
  | scalar v =>
      cases hops with
      | nil => exact ⟨v, by simpa [Field.reached] using hg⟩
      | cons hop hops => simp [Field.reached_scalar_cons] at hg
  | record fields ih =>
      obtain ⟨hop, rest, f, rfl, hlookup, hvalue⟩ := resolve_record_eq_ok.mp h
      have hrest : g ∈ f.reached rest := by
        simpa [Field.reached_record_cons, hlookup] using hg
      exact ih hop f hlookup hvalue hrest
  | list items ih =>
      rw [Field.reached_list] at hg
      obtain ⟨f, hf, hg⟩ := List.mem_flatMap.mp hg
      rw [resolve_list] at h
      obtain ⟨values, hvalues, -⟩ := except_map_eq_ok.mp h
      obtain ⟨v, hv⟩ := exists_except_mapM_eq_ok.mp ⟨values, hvalues⟩ f hf
      exact ih f hf hv hg

/-- A label that is found without a list is the scalar itself, or a null that was met on the way. A
label that is found through lists is the text of all leaves that the hops lead to: their texts from
left to right, each once, without the empty ones, and nothing between two of them but the
separator. -/
theorem resolve_collects_leaves (h : resolve hops f = .ok value) :
    (¬ f.MeetsList hops →
      f.Leads hops (.scalar value) ∨ f.MeetsNull hops ∧ value = .null) ∧
    (f.MeetsList hops →
      (∀ g ∈ f.reached hops, ∃ v, g = .scalar v) ∧
      value = .string (String.intercalate separator (scalarTexts (f.reached hops)))) := by
  refine ⟨leads_of_resolve h, ?_⟩
  intro hlist
  refine ⟨fun g hg => scalar_of_mem_reached h hg, ?_⟩
  rw [← text_of_resolve h]
  exact eq_string_of_resolve h hlist

/-! ### Projects of a team

A list of projects with a list in it. One project has no owner, and one owner has no name. -/

namespace Team

def ownedBy (owner : Field) : Field := .record [("owner", owner)]

def named (name : Value) : Field := .record [("name", .scalar name)]

def projects : Field :=
  .list [ownedBy (named (.string "Ann")), ownedBy (.scalar .null),
    .list [ownedBy (named (.string "")),
      ownedBy (.list [named (.int32 7), .list [], named (.string "Ann")])],
    ownedBy (named .null), ownedBy (named (.string "Bo; Cy"))]

end Team

/-- The names of all owners are one text. The name of one owner, who is found without a list, keeps
its type. -/
theorem resolve_projects :
    resolve ["owner", "name"] Team.projects = .ok (.string "Ann; 7; Ann; Bo; Cy") ∧
      Team.projects.MeetsList ["owner", "name"] ∧
      (∀ g ∈ Team.projects.reached ["owner", "name"], ∃ v, g = .scalar v) ∧
      scalarTexts (Team.projects.reached ["owner", "name"]) = ["Ann", "7", "Ann", "Bo; Cy"] ∧
      resolve ["owner", "name"] (Team.ownedBy (Team.named (.int32 7))) = .ok (.int32 7) ∧
      (Team.ownedBy (Team.named (.int32 7))).Leads ["owner", "name"] (.scalar (.int32 7)) := by
  have hall : resolve ["owner", "name"] Team.projects = .ok (.string "Ann; 7; Ann; Bo; Cy") := by
    decide +kernel
  have hone : resolve ["owner", "name"] (Team.ownedBy (Team.named (.int32 7))) =
      .ok (.int32 7) := rfl
  have hlist : Team.projects.MeetsList ["owner", "name"] := Field.meetsList_list _ _
  obtain ⟨-, hleaves⟩ := resolve_collects_leaves hall
  obtain ⟨hleads, -⟩ := resolve_collects_leaves hone
  refine ⟨hall, hlist, (hleaves hlist).1, by decide +kernel, hone, ?_⟩
  have hnone : ¬ (Team.ownedBy (Team.named (.int32 7))).MeetsList ["owner", "name"] := by
    rw [Team.ownedBy, Team.named, Field.meetsList_record_cons (List.lookup_cons_self),
      Field.meetsList_record_cons (List.lookup_cons_self)]
    exact Field.not_meetsList_scalar _ _
  rcases hleads hnone with hleads | ⟨-, hnull⟩
  · exact hleads
  · cases hnull

end Label

end GuardedQuery
