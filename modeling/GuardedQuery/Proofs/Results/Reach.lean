import GuardedQuery.Proofs.Results.Fields
import Mathlib.Data.List.Flatten

/-! # Fields that a path leads to

Hops lead from a field to any number of fields, one after another: a record leads on to one of its
fields, and a list to all of its elements. A label is the texts of all that its hops lead to. -/

namespace GuardedQuery

namespace Field

mutual

/-- The fields in a list, and in the lists in it; a field that is no list is its only one. -/
def elements : Field → List Field
  | .scalar v => [.scalar v]
  | .record fields => [.record fields]
  | .list items => elementsOfAll items

def elementsOfAll : List Field → List Field
  | [] => []
  | f :: fs => f.elements ++ elementsOfAll fs

end

@[simp] theorem elements_scalar (v : Value) : (scalar v).elements = [scalar v] := by
  rw [elements]

@[simp] theorem elements_record (fields : List (String × Field)) :
    (record fields).elements = [record fields] := by
  rw [elements]

@[simp] theorem elements_list (items : List Field) :
    (list items).elements = items.flatMap elements := by
  rw [elements]
  induction items with
  | nil => rw [elementsOfAll, List.flatMap_nil]
  | cons f fs ih => rw [elementsOfAll, List.flatMap_cons, ih]

/-- The field of a record under a name, if there is one. -/
def named (name : String) : Field → List Field
  | .record fields => (fields.lookup name).toList
  | _ => []

/-- The fields that hops lead to, from left to right. -/
def reached : List String → Field → List Field
  | [], f => f.elements
  | hop :: hops, f => f.elements.flatMap fun g => (g.named hop).flatMap (reached hops)

theorem reached_list (hops : List String) (items : List Field) :
    (list items).reached hops = items.flatMap (reached hops) := by
  cases hops with
  | nil => rw [reached, elements_list]; rfl
  | cons hop hops =>
      rw [reached, elements_list, List.flatMap_assoc]
      rfl

theorem reached_scalar_cons (hop : String) (hops : List String) (v : Value) :
    (scalar v).reached (hop :: hops) = [] := by
  simp [reached, named]

theorem reached_record_cons (hop : String) (hops : List String) (fields : List (String × Field)) :
    (record fields).reached (hop :: hops) = (fields.lookup hop).toList.flatMap (reached hops) := by
  simp [reached, named]

/-- Lists are passed through at the end of a path as they are on the way. -/
theorem flatMap_reached_elements (hops : List String) (f : Field) :
    f.elements.flatMap (reached hops) = f.reached hops := by
  induction f using Field.induction with
  | scalar v => simp
  | record fields _ => simp
  | list items ih =>
      rw [elements_list, List.flatMap_assoc, reached_list]
      exact List.flatMap_congr ih

/-- A path leads where its end leads from where its start does. -/
theorem reached_append (hops rest : List String) (f : Field) :
    f.reached (hops ++ rest) = (f.reached hops).flatMap (reached rest) := by
  induction hops generalizing f with
  | nil => exact (flatMap_reached_elements rest f).symm
  | cons hop hops ih =>
      rw [List.cons_append, reached, reached, List.flatMap_assoc]
      apply List.flatMap_congr
      intro g _
      rw [List.flatMap_assoc]
      exact List.flatMap_congr fun h _ => ih h

end Field

namespace Label

theorem intercalate_eq_empty {texts : List String} (h : "" ∉ texts) :
    String.intercalate separator texts = "" ↔ texts = [] := by
  cases texts with
  | nil => simp
  | cons text texts =>
      have htext : text ≠ "" := by
        rintro rfl
        simp at h
      cases texts with
      | nil => simpa using htext
      | cons next texts => simp [htext]

/-- Texts that were joined group by group are joined as one list, if no text is empty. -/
theorem intercalate_groups {α : Type} (xs : List α) {group : α → List String}
    (hgroup : ∀ x ∈ xs, "" ∉ group x) :
    String.intercalate separator
        ((xs.map fun x => String.intercalate separator (group x)).filter (· ≠ "")) =
      String.intercalate separator (xs.flatMap group) := by
  induction xs with
  | nil => rfl
  | cons x xs ih =>
      have hxs : ∀ y ∈ xs, "" ∉ group y := fun y hy => hgroup y (by simp [hy])
      specialize ih hxs
      have hx := hgroup x (by simp)
      rw [List.map_cons, List.flatMap_cons]
      by_cases hnil : group x = []
      · simpa [hnil] using ih
      · have hjoined : String.intercalate separator (group x) ≠ "" :=
          mt (intercalate_eq_empty hx).mp hnil
        have hflat : "" ∉ xs.flatMap group := by simpa using hxs
        have hempty : ∀ {texts : List String}, "" ∉ texts.filter (· ≠ "") := by simp
        rw [List.filter_cons_of_pos (by simpa using hjoined)]
        -- the separator behind the first group depends on whether there is another text
        by_cases hrest : xs.flatMap group = []
        · rw [hrest, String.intercalate_nil, intercalate_eq_empty hempty] at ih
          rw [ih, hrest, String.intercalate_singleton, List.append_nil]
        · have hothers := mt (intercalate_eq_empty hflat).mp hrest
          rw [← ih, intercalate_eq_empty hempty] at hothers
          rw [String.intercalate_cons_of_ne_nil hothers, ih,
            String.intercalate_append_of_ne_nil hnil hrest]

/-- The texts of the scalars among fields, without the empty ones. -/
def scalarTexts (fs : List Field) : List String :=
  texts (fs.filterMap Field.asScalar?)

theorem scalarTexts_flatMap {α : Type} (xs : List α) (g : α → List Field) :
    scalarTexts (xs.flatMap g) = xs.flatMap fun x => scalarTexts (g x) := by
  simp only [scalarTexts, texts, List.filterMap_flatMap, List.map_flatMap, List.filter_flatMap]

theorem empty_notMem_scalarTexts (fs : List Field) : "" ∉ scalarTexts fs := by
  simp [scalarTexts, texts]

/-- A label is the texts of all the scalars that its hops lead to. -/
theorem text_of_resolve {hops : List String} {f : Field} {value : Value}
    (h : resolve hops f = .ok value) :
    value.text = String.intercalate separator (scalarTexts (f.reached hops)) := by
  induction f using Field.induction generalizing hops value with
  | scalar v =>
      rw [resolve_scalar] at h
      split at h
      · rename_i hends
        cases h
        cases hops with
        | nil =>
            by_cases htext : v.text = ""
            · simp [Field.reached, scalarTexts, texts, Field.asScalar?, htext]
            · simp [Field.reached, scalarTexts, texts, Field.asScalar?, htext]
        | cons hop hops =>
            obtain rfl : v = .null := by simpa using hends
            rw [Field.reached_scalar_cons]
            rfl
      · cases h
  | record fields ih =>
      cases hops with
      | nil =>
          rw [resolve] at h
          cases h
      | cons hop hops =>
          rw [resolve_record_cons] at h
          cases hlookup : fields.lookup hop with
          | none =>
              rw [hlookup] at h
              cases h
          | some f =>
              rw [hlookup] at h
              rw [Field.reached_record_cons, hlookup, ih hop f hlookup h]
              simp
  | list items ih =>
      rw [resolve_list] at h
      obtain ⟨values, hvalues, rfl⟩ := except_map_eq_ok.mp h
      have htexts : values.map Value.text = items.map fun f =>
          String.intercalate separator (scalarTexts (f.reached hops)) := by
        apply map_eq_of_except_mapM hvalues
        intro f hf value hvalue
        exact ih f hf hvalue
      rw [Field.reached_list, scalarTexts_flatMap,
        ← intercalate_groups items fun f _ => empty_notMem_scalarTexts (f.reached hops), ← htexts]
      exact String.ofList_toList

end Label

end GuardedQuery
