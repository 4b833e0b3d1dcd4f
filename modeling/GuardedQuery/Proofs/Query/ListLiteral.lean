import GuardedQuery.Proofs.Query.Arity
import GuardedQuery.Proofs.Text.Splitting
import Mathlib.Data.List.DropRight

/-! # Lists in literals

A literal of a relationship lists texts with commas between them. Nothing of the texts is lost:
joined again they are the literal without the commas at its end. Commas alone list nothing. -/

namespace GuardedQuery

namespace Literal

variable {literal : String} {parts : List String}

/-- One or more commas and nothing else. -/
def IsCommas (literal : String) : Prop :=
  literal ≠ "" ∧ ∀ c ∈ literal.toList, c = ','

-- the characters of the literal are looked at, and not all that there are
instance (literal : String) : Decidable (IsCommas literal) :=
  @instDecidableAnd _ _ _ (List.decidableBAll (· = ',') literal.toList)

/-! ## Items and their join -/

/-- A literal without a comma is one item, also if it is empty. -/
theorem items_eq (literal : String) :
    items literal =
      if ',' ∈ literal.toList then dropEmptyEnd (Text.split ',' literal) else [literal] := by
  rw [items]
  split
  · rename_i item hsplit
    have hitem : item = literal := by
      have hjoin := Text.intercalate_split ',' literal
      rwa [hsplit, String.intercalate_singleton] at hjoin
    have hfree : ',' ∉ item.toList :=
      Text.notMem_of_mem_split (hsplit ▸ List.mem_singleton_self item)
    rw [← hitem, if_neg hfree]
  · rename_i hmany
    have hcomma : ',' ∈ literal.toList := by
      by_contra hfree
      apply hmany literal
      rw [Text.split, Text.cut_of_notMem hfree, List.map_singleton, String.ofList_toList]
    rw [if_pos hcomma]

theorem dropEmptyEnd_concat_empty (parts : List String) :
    dropEmptyEnd (parts ++ [""]) = dropEmptyEnd parts :=
  List.rdropWhile_concat_pos _ _ "" rfl

theorem dropEmptyEnd_of_getLast? (h : parts.getLast? ≠ some "") : dropEmptyEnd parts = parts := by
  refine List.rdropWhile_eq_self_iff.mpr fun hne => ?_
  rw [List.getLast?_eq_some_getLast hne, Ne, Option.some.injEq] at h
  simpa using h

theorem dropEmptyEnd_eq_nil : dropEmptyEnd parts = [] ↔ ∀ part ∈ parts, part = "" := by
  rw [dropEmptyEnd]
  simp

/-- With every empty part at its end the join loses a comma at its end. -/
theorem toList_intercalate_dropEmptyEnd (h : ∀ part ∈ parts, ',' ∉ part.toList) :
    (String.intercalate "," (dropEmptyEnd parts)).toList =
      (String.intercalate "," parts).toList.rdropWhile (· = ',') := by
  induction parts using List.reverseRecOn with
  | nil => rfl
  | append_singleton parts part ih =>
      obtain ⟨hparts, hpart⟩ := List.forall_mem_append.mp h
      by_cases hempty : part = ""
      · rw [hempty, dropEmptyEnd_concat_empty, ih hparts]
        by_cases hnil : parts = []
        · rw [hnil]
          rfl
        · have hjoin : (String.intercalate "," (parts ++ [""])).toList =
              (String.intercalate "," parts).toList ++ [','] := by
            rw [String.intercalate_append_of_ne_nil hnil (List.cons_ne_nil _ _)]
            simp
          rw [hjoin, List.rdropWhile_concat_pos _ _ ',' (by simp)]
      · -- the join ends with the last character of a part, which is no comma
        have hlast : (parts ++ [part]).getLast? ≠ some "" := by simpa using hempty
        have hchars : part.toList ≠ [] := mt String.toList_eq_nil_iff.mp hempty
        have hsuffix : part.toList <:+ (String.intercalate "," (parts ++ [part])).toList := by
          by_cases hnil : parts = []
          · simp [hnil]
          · rw [String.intercalate_append_of_ne_nil hnil (List.cons_ne_nil _ _),
              String.intercalate_singleton, String.toList_append]
            exact List.suffix_append _ _
        rw [dropEmptyEnd_of_getLast? hlast, eq_comm, List.rdropWhile_eq_self_iff]
        intro hne hcomma
        rw [← hsuffix.getLast hchars, decide_eq_true_iff] at hcomma
        exact hpart part (List.mem_singleton_self part) (hcomma ▸ List.getLast_mem hchars)

theorem notMem_of_mem_items {item : String} (h : item ∈ items literal) : ',' ∉ item.toList := by
  rw [items_eq] at h
  split at h
  · exact Text.notMem_of_mem_split ((List.rdropWhile_prefix _ _).subset h)
  · rename_i hfree
    rwa [List.mem_singleton.mp h]

/-- The items joined again are the literal without the commas at its end. -/
theorem toList_intercalate_items (literal : String) :
    (String.intercalate "," (items literal)).toList = literal.toList.rdropWhile (· = ',') := by
  rw [items_eq]
  split
  · have hjoin : String.intercalate "," (Text.split ',' literal) = literal :=
      Text.intercalate_split ',' literal
    rw [toList_intercalate_dropEmptyEnd fun _ => Text.notMem_of_mem_split, hjoin]
  · rename_i hfree
    rw [String.intercalate_singleton, eq_comm, List.rdropWhile_eq_self_iff]
    intro hne hcomma
    exact hfree (of_decide_eq_true hcomma ▸ List.getLast_mem hne)

theorem items_eq_nil : items literal = [] ↔ IsCommas literal := by
  constructor
  · intro hnil
    have hjoin := toList_intercalate_items literal
    rw [hnil, String.intercalate_nil, String.toList_empty, eq_comm,
      List.rdropWhile_eq_nil_iff] at hjoin
    refine ⟨?_, fun c hc => of_decide_eq_true (hjoin c hc)⟩
    rintro rfl
    cases hnil
  · rintro ⟨hne, hcommas⟩
    obtain ⟨c, hc⟩ := List.exists_mem_of_ne_nil _ (mt String.toList_eq_nil_iff.mp hne)
    rw [items_eq, if_pos (hcommas c hc ▸ hc), dropEmptyEnd_eq_nil]
    intro part hpart
    obtain ⟨chars, hchars, rfl⟩ := List.mem_map.mp hpart
    have hnil : chars = [] := by
      refine List.eq_nil_iff_forall_not_mem.mpr fun d hd => ?_
      obtain rfl := hcommas d (Text.mem_of_mem_cut hchars hd)
      exact Text.notMem_of_mem_cut hchars hd
    rw [hnil, String.ofList_nil]

/-- Parts that can be written as a list come back from their join. -/
theorem items_intercalate (hne : parts ≠ []) (h : ∀ part ∈ parts, ',' ∉ part.toList)
    (hend : parts.length = 1 ∨ parts.getLast? ≠ some "") :
    items (String.intercalate "," parts) = parts := by
  have hsplit : Text.split ',' (String.intercalate "," parts) = parts :=
    Text.split_intercalate hne h
  rw [items, hsplit]
  split
  · rfl
  · rename_i hmany
    apply dropEmptyEnd_of_getLast?
    refine hend.resolve_left fun hone => ?_
    obtain ⟨part, rfl⟩ := List.length_eq_one_iff.mp hone
    exact hmany part rfl

/-! ## Reading a list -/

/-- The literal is read as these texts, each as it is and under a placeholder of its own. -/
def ListsAs (a : Attribute) (readers : LiteralReaders) (literal : String) (parts : List String) :
    Prop :=
  ∃ l, read a literal readers = .ok l ∧ l.IsList ∧ l.values = parts.map .string

theorem listsAs_items {a : Attribute} (hrel : a.type.isRelationship = true)
    (readers : LiteralReaders) (h : items literal ≠ []) :
    ListsAs a readers literal (items literal) := by
  refine ⟨.list ((items literal).map .string), ?_, ?_, rfl⟩
  · rw [read_of_relationship hrel, if_neg h]
  · exact ParsedLiteral.isList_list (mt List.map_eq_nil_iff.mp h)

/-- A literal of a relationship is malformed if and only if it is made of commas alone. Any other is
read as one or more texts without a comma, whose join is the literal without the commas at its end.
Such texts are read from their join, if there is one of them or the last is not empty. -/
theorem list_literal_splits {a : Attribute} (hrel : a.type.isRelationship = true)
    (readers : LiteralReaders) :
    (∀ literal, read a literal readers =
        .error (.malformedLiteral a.displayName a.type.describe literal
          "expected at least one value") ↔ IsCommas literal) ∧
      (∀ literal, ¬IsCommas literal → ∃ parts, ListsAs a readers literal parts ∧ parts ≠ [] ∧
        (∀ part ∈ parts, ',' ∉ part.toList) ∧
        (String.intercalate "," parts).toList = literal.toList.rdropWhile (· = ',')) ∧
      ∀ parts, parts ≠ [] → (∀ part ∈ parts, ',' ∉ part.toList) →
        (parts.length = 1 ∨ parts.getLast? ≠ some "") →
        ListsAs a readers (String.intercalate "," parts) parts := by
  refine ⟨?_, ?_, ?_⟩
  · intro literal
    rw [← items_eq_nil, read_of_relationship hrel]
    split
    · rename_i hnil
      exact iff_of_true rfl hnil
    · rename_i hitems
      exact iff_of_false nofun hitems
  · intro literal hcommas
    have hitems : items literal ≠ [] := mt items_eq_nil.mp hcommas
    exact ⟨items literal, listsAs_items hrel readers hitems, hitems, fun _ => notMem_of_mem_items,
      toList_intercalate_items literal⟩
  · intro parts hne hfree hend
    have hitems : items (String.intercalate "," parts) = parts := items_intercalate hne hfree hend
    have hlists : ListsAs a readers (String.intercalate "," parts)
        (items (String.intercalate "," parts)) := by
      apply listsAs_items hrel
      rwa [hitems]
    rwa [hitems] at hlists

/-- Blanks and empty texts in front of others are kept. -/
theorem authors_listed :
    Books.authors.type.isRelationship = true ∧
      read Books.authors ",," .builtin =
        .error (.malformedLiteral "Authors" "collection<Person>" ",,"
          "expected at least one value") ∧
      (∃ parts, ListsAs Books.authors .builtin ",Austen,," parts ∧ parts ≠ [] ∧
        (∀ part ∈ parts, ',' ∉ part.toList) ∧
        (String.intercalate "," parts).toList = ",Austen".toList) ∧
      ListsAs Books.authors .builtin "Austen, Eliot,,Woolf" ["Austen", " Eliot", "", "Woolf"] := by
  have hrel : Books.authors.type.isRelationship = true := by decide
  obtain ⟨hcommas, hsplits, hlists⟩ := list_literal_splits hrel .builtin
  exact ⟨hrel, (hcommas ",,").mpr (by decide), hsplits ",Austen,," (by decide),
    hlists ["Austen", " Eliot", "", "Woolf"] (by decide) (by decide) (.inr (by decide))⟩

end Literal

end GuardedQuery
