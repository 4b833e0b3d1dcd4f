import GuardedQuery.Proofs.Earlier
import GuardedQuery.Proofs.Results.Projection
import Mathlib.Data.List.Induction

/-! # Records in the order of insertion

A record is changed by calls that insert a value under a name and by calls that remove a name. What
it holds under a name is decided by the last call about the name. The names stand in the order in
which they came in, where a name that was removed comes in anew. -/

namespace GuardedQuery

/-- A call that changes a record. -/
inductive ItemCall
  | insert (name : String) (value : Value)
  | remove (name : String)

namespace ItemCall

/-- The name that the call is about. -/
def name : ItemCall → String
  | .insert name _ => name
  | .remove name => name

/-- What the call leaves under its name. -/
def value? : ItemCall → Option Value
  | .insert _ value => some value
  | .remove _ => none

/-- The last call about the name inserts the value. -/
def Leaves (calls : List ItemCall) (name : String) (value : Value) : Prop :=
  ∃ front back, calls = front ++ .insert name value :: back ∧ ∀ call ∈ back, call.name ≠ name

/-- Every insertion of the name is followed by a removal. -/
def Clears (calls : List ItemCall) (name : String) : Prop :=
  ∀ front value back, calls = front ++ .insert name value :: back → .remove name ∈ back

/-- The call at the place is the first insertion of the name since its last removal. -/
def Enters (calls : List ItemCall) (name : String) (place : Nat) : Prop :=
  ∃ front value back, calls = front ++ .insert name value :: back ∧ front.length = place ∧
    Clears front name ∧ .remove name ∉ back

/-- The first name came in before the second. -/
def EntersBefore (calls : List ItemCall) (first second : String) : Prop :=
  ∀ place later, Enters calls first place → Enters calls second later → place < later

variable {calls : List ItemCall} {call : ItemCall} {name : String} {value : Value} {place : Nat}

/-! ## One more call -/

theorem leaves_concat :
    Leaves (calls ++ [call]) name value ↔
      if call.name = name then call.value? = some value else Leaves calls name value := by
  simp only [Leaves, concat_eq_append_cons]
  split
  · rename_i hname
    constructor
    · rintro ⟨front, back, ⟨-, rfl, -⟩ | ⟨rest, -, rfl⟩, hlast⟩
      · rfl
      · exact absurd hname (hlast call (by simp))
    · intro hvalue
      refine ⟨calls, [], .inl ⟨rfl, ?_, rfl⟩, by simp⟩
      cases call with
      | insert _ _ =>
          obtain rfl := hname
          exact congrArg _ (Option.some.inj hvalue)
      | remove _ => cases hvalue
  · rename_i hname
    constructor
    · rintro ⟨front, back, ⟨-, rfl, -⟩ | ⟨rest, hcalls, rfl⟩, hlast⟩
      · exact absurd rfl hname
      · exact ⟨front, rest, hcalls, fun other hother => hlast other (by simp [hother])⟩
    · rintro ⟨front, back, hcalls, hlast⟩
      refine ⟨front, back ++ [call], .inr ⟨back, hcalls, rfl⟩, ?_⟩
      exact List.forall_mem_append.mpr ⟨hlast, by simpa using hname⟩

theorem clears_concat :
    Clears (calls ++ [call]) name ↔
      if call.name = name then call.value? = none else Clears calls name := by
  simp only [Clears, concat_eq_append_cons]
  split
  · rename_i hname
    cases call with
    | insert _ value =>
        obtain rfl := hname
        refine iff_of_false (fun h => ?_) nofun
        exact List.not_mem_nil (h calls value [] (.inl ⟨rfl, rfl, rfl⟩))
    | remove _ =>
        obtain rfl := hname
        refine iff_of_true ?_ rfl
        rintro front value back (⟨-, hcall, -⟩ | ⟨rest, -, rfl⟩)
        · cases hcall
        · exact List.mem_append_right rest (List.mem_singleton_self _)
  · rename_i hname
    constructor
    · intro h front value back hcalls
      have hremoved := h front value (back ++ [call]) (.inr ⟨back, hcalls, rfl⟩)
      rcases List.mem_append.mp hremoved with hback | hlast
      · exact hback
      · exact absurd (congrArg ItemCall.name (List.mem_singleton.mp hlast)).symm hname
    · rintro h front value back (⟨-, rfl, -⟩ | ⟨rest, hcalls, rfl⟩)
      · exact absurd rfl hname
      · exact List.mem_append_left _ (h front value rest hcalls)

theorem enters_concat :
    Enters (calls ++ [call]) name place ↔
      Enters calls name place ∧ call ≠ .remove name ∨
        (∃ value, call = .insert name value) ∧ place = calls.length ∧ Clears calls name := by
  simp only [Enters, concat_eq_append_cons]
  constructor
  · rintro ⟨front, value, back, ⟨rfl, rfl, rfl⟩ | ⟨rest, hcalls, rfl⟩, hplace, hclears, hkept⟩
    · exact .inr ⟨⟨value, rfl⟩, hplace.symm, hclears⟩
    · rw [List.mem_append, not_or, List.mem_singleton] at hkept
      exact .inl ⟨⟨front, value, rest, hcalls, hplace, hclears, hkept.1⟩, Ne.symm hkept.2⟩
  · rintro (⟨⟨front, value, back, hcalls, hplace, hclears, hkept⟩, hcall⟩ |
      ⟨⟨value, rfl⟩, rfl, hclears⟩)
    · refine ⟨front, value, back ++ [call], .inr ⟨back, hcalls, rfl⟩, hplace, hclears, ?_⟩
      rw [List.mem_append, not_or, List.mem_singleton]
      exact ⟨hkept, Ne.symm hcall⟩
    · exact ⟨calls, value, [], .inl ⟨rfl, rfl, rfl⟩, rfl, hclears, List.not_mem_nil⟩

theorem Enters.lt_length (h : Enters calls name place) : place < calls.length := by
  obtain ⟨front, value, back, rfl, rfl, -, -⟩ := h
  simp

/-- Either all insertions of a name are removed later, or one call brought it in. -/
theorem exists_enters_iff : (∃ place, Enters calls name place) ↔ ¬Clears calls name := by
  induction calls using List.reverseRecOn with
  | nil => simp [Enters, Clears]
  | append_singleton calls call ih =>
      simp only [enters_concat, clears_concat, exists_or, exists_and_right, ih]
      cases call with
      | insert other value =>
          by_cases hname : other = name
          · simp [ItemCall.name, value?, hname, em']
          · simp [ItemCall.name, hname]
      | remove other =>
          by_cases hname : other = name
          · simp [ItemCall.name, value?, hname]
          · simp [ItemCall.name, hname]

end ItemCall

namespace Item

variable {item : Item} {name other : String} {value : Value}

/-! ## One call -/

/-- In a record of distinct names the value of a name is replaced where it stands. -/
theorem insert_of_mem (hnodup : item.names.Nodup) (h : name ∈ item.names) (value : Value) :
    item.insert name value =
      ⟨item.entries.map fun entry => if entry.1 = name then (name, value) else entry⟩ := by
  obtain ⟨entries⟩ := item
  simp only [insert, names, mk.injEq] at hnodup h ⊢
  induction entries with
  | nil => cases h
  | cons entry entries ih =>
      rw [List.map_cons, List.nodup_cons] at hnodup
      rw [List.map_cons, List.mem_cons] at h
      rw [insertEntry, List.map_cons]
      by_cases hname : entry.1 = name
      · have hothers : ∀ other ∈ entries,
            (if other.1 = name then (name, value) else other) = other := by
          intro other hother
          refine if_neg fun hsame => hnodup.1 ?_
          exact List.mem_map.mpr ⟨other, hother, hsame.trans hname.symm⟩
        rw [if_pos hname, if_pos hname, List.map_congr_left hothers, List.map_id']
      · rw [if_neg hname, if_neg hname, ih hnodup.2 (h.resolve_left (Ne.symm hname))]

theorem get?_insert (item : Item) (name : String) (value : Value) (other : String) :
    (item.insert name value).get? other = if name = other then some value else item.get? other := by
  obtain ⟨entries⟩ := item
  rw [insert]
  induction entries with
  | nil => exact get?_cons (name, value) [] other
  | cons entry entries ih =>
      rw [insertEntry]
      by_cases hname : entry.1 = name
      · rw [if_pos hname, get?_cons, get?_cons, hname]
        split
        · rfl
        · rfl
      · rw [if_neg hname, get?_cons, get?_cons, ih]
        exact ite_ite_comm _ _ _ _ fun hentry hother => hname (hentry.trans hother.symm)

theorem names_without (item : Item) (removed : List String) :
    (item.without removed).names = item.names.filter (· ∉ removed) := by
  rw [names, without, names, List.filter_map]
  rfl

theorem get?_without (item : Item) (name other : String) :
    (item.without [name]).get? other = if name = other then none else item.get? other := by
  obtain ⟨entries⟩ := item
  simp only [without]
  induction entries with
  | nil => simp [get?]
  | cons entry entries ih =>
      by_cases hname : entry.1 = name
      · rw [List.filter_cons_of_neg (by simpa using hname), ih, get?_cons, hname]
        split
        · rfl
        · rfl
      · rw [List.filter_cons_of_pos (by simpa using hname), get?_cons, get?_cons, ih]
        exact ite_ite_comm _ _ _ _ fun hentry hother => hname (hentry.trans hother.symm)

/-- A name that is removed takes its value along, and nothing else. -/
theorem remove_eq (hnodup : item.names.Nodup) (name : String) :
    item.remove name = (item.get? name, item.without [name]) := by
  obtain ⟨entries⟩ := item
  simp only [remove, without, names] at hnodup ⊢
  induction entries with
  | nil => rfl
  | cons entry entries ih =>
      rw [List.map_cons, List.nodup_cons] at hnodup
      rw [List.findIdx?_cons, get?_cons]
      by_cases hname : entry.1 = name
      · have hothers : entries.filter (·.1 ∉ [name]) = entries := by
          refine List.filter_eq_self.mpr fun other hother => decide_eq_true fun hsame => hnodup.1 ?_
          rw [hname, ← List.mem_singleton.mp hsame]
          exact List.mem_map.mpr ⟨other, hother, rfl⟩
        rw [if_pos (decide_eq_true hname), if_pos hname,
          List.filter_cons_of_neg (by simpa using hname), hothers]
        rfl
      · have hih := ih hnodup.2
        rw [if_neg (mt of_decide_eq_true hname), if_neg hname,
          List.filter_cons_of_pos (by simpa using hname)]
        -- a place among the other entries is one further here
        cases hplace : entries.findIdx? (·.1 = name) with
        | none | some place =>
            rw [hplace] at hih
            obtain ⟨hvalue, hothers⟩ := Prod.mk.inj hih
            rw [← hvalue, ← mk.inj hothers]
            rfl

/-- The record behind a call. -/
def after (item : Item) : ItemCall → Item
  | .insert name value => item.insert name value
  | .remove name => (item.remove name).2

theorem after_remove (hnodup : item.names.Nodup) (name : String) :
    item.after (.remove name) = item.without [name] := by
  rw [after, remove_eq hnodup]

/-- A call decides what stands under its name, and leaves the other names alone. -/
theorem get?_after (hnodup : item.names.Nodup) (call : ItemCall) (name : String) :
    (item.after call).get? name = if call.name = name then call.value? else item.get? name := by
  cases call with
  | insert _ _ => exact get?_insert item _ _ name
  | remove _ =>
      rw [after_remove hnodup]
      exact get?_without item _ name

theorem names_insert_of_mem (hnodup : item.names.Nodup) (h : name ∈ item.names) (value : Value) :
    (item.insert name value).names = item.names := by
  rw [insert_of_mem hnodup h, names, names, List.map_map]
  apply List.map_congr_left
  intro entry _
  by_cases hname : entry.1 = name
  · simp [hname]
  · simp [hname]

theorem names_insert_of_notMem (h : name ∉ item.names) (value : Value) :
    (item.insert name value).names = item.names ++ [name] := by
  rw [names, entries_insert_of_notMem value h, List.map_append]
  rfl

theorem nodup_after (hnodup : item.names.Nodup) (call : ItemCall) :
    (item.after call).names.Nodup := by
  cases call with
  | insert name value =>
      by_cases hname : name ∈ item.names
      · rwa [after, names_insert_of_mem hnodup hname]
      · rw [after, names_insert_of_notMem hname, ← List.concat_eq_append]
        exact hnodup.concat hname
  | remove name =>
      rw [after_remove hnodup, names_without]
      exact hnodup.filter _

/-! ## Calls one after another -/

def afterAll (item : Item) (calls : List ItemCall) : Item :=
  calls.foldl after item

theorem afterAll_concat (item : Item) (calls : List ItemCall) (call : ItemCall) :
    item.afterAll (calls ++ [call]) = (item.afterAll calls).after call := by
  rw [afterAll, List.foldl_append]
  rfl

theorem nodup_afterAll (calls : List ItemCall) : (empty.afterAll calls).names.Nodup := by
  induction calls using List.reverseRecOn with
  | nil => exact List.nodup_nil
  | append_singleton calls call ih =>
      rw [afterAll_concat]
      exact nodup_after ih call

theorem get?_afterAll_eq_some {calls : List ItemCall} :
    (empty.afterAll calls).get? name = some value ↔ ItemCall.Leaves calls name value := by
  induction calls using List.reverseRecOn with
  | nil => simp [afterAll, empty, get?, ItemCall.Leaves]
  | append_singleton calls call ih =>
      rw [afterAll_concat, get?_after (nodup_afterAll calls), ItemCall.leaves_concat]
      split
      · rfl
      · exact ih

theorem get?_afterAll_eq_none {calls : List ItemCall} :
    (empty.afterAll calls).get? name = none ↔ ItemCall.Clears calls name := by
  induction calls using List.reverseRecOn with
  | nil => simp [afterAll, empty, get?, ItemCall.Clears]
  | append_singleton calls call ih =>
      rw [afterAll_concat, get?_after (nodup_afterAll calls), ItemCall.clears_concat]
      split
      · rfl
      · exact ih

theorem get?_eq_none : item.get? name = none ↔ name ∉ item.names := by
  rw [get?, List.lookup_eq_none_iff, names, List.mem_map]
  simp only [bne_iff_ne, ne_eq, not_exists, not_and]
  exact forall₂_congr fun _ _ => not_congr eq_comm

theorem mem_names_afterAll {calls : List ItemCall} :
    name ∈ (empty.afterAll calls).names ↔ ∃ place, ItemCall.Enters calls name place := by
  rw [ItemCall.exists_enters_iff, ← get?_afterAll_eq_none, get?_eq_none, not_not]

/-- A name that is there has come in already, so that one more call does not bring it in. -/
theorem enters_of_mem_names {calls : List ItemCall} {call : ItemCall} {place : Nat}
    (hname : name ∈ (empty.afterAll calls).names)
    (h : ItemCall.Enters (calls ++ [call]) name place) : ItemCall.Enters calls name place := by
  rcases ItemCall.enters_concat.mp h with ⟨h, -⟩ | ⟨-, -, hclears⟩
  · exact h
  · exact absurd hname (get?_eq_none.mp (get?_afterAll_eq_none.mpr hclears))

/-- The names stand in the order of the calls that brought them in. -/
theorem ordered_afterAll (calls : List ItemCall) :
    (empty.afterAll calls).names.Pairwise (ItemCall.EntersBefore calls) := by
  induction calls using List.reverseRecOn with
  | nil => exact List.Pairwise.nil
  | append_singleton calls call ih =>
      have hkept : (empty.afterAll calls).names.Pairwise
          (ItemCall.EntersBefore (calls ++ [call])) := by
        refine ih.imp_of_mem fun hfirst hsecond hbefore place later hplace hlater => ?_
        exact hbefore place later (enters_of_mem_names hfirst hplace)
          (enters_of_mem_names hsecond hlater)
      rw [afterAll_concat]
      cases call with
      | insert name value =>
          by_cases hname : name ∈ (empty.afterAll calls).names
          · rwa [after, names_insert_of_mem (nodup_afterAll calls) hname]
          · rw [after, names_insert_of_notMem hname, List.pairwise_append]
            refine ⟨hkept, List.pairwise_singleton _ _, ?_⟩
            intro first hfirst second hsecond place later hplace hlater
            obtain rfl := List.mem_singleton.mp hsecond
            -- the name comes in with the last call, behind the places of all others
            have hlast : later = calls.length := by
              rcases ItemCall.enters_concat.mp hlater with ⟨hearlier, -⟩ | ⟨-, hlast, -⟩
              · exact absurd (mem_names_afterAll.mpr ⟨later, hearlier⟩) hname
              · exact hlast
            rw [hlast]
            exact (enters_of_mem_names hfirst hplace).lt_length
      | remove name =>
          rw [after_remove (nodup_afterAll calls), names_without]
          exact hkept.filter _

/-- What a record is behind calls on an empty record, and what the next call does to it. -/
structure Follows (calls : List ItemCall) (item : Item) : Prop where
  nodup : item.names.Nodup
  size_eq : item.size = item.names.length
  get_some_iff : ∀ name value, item.get? name = some value ↔ ItemCall.Leaves calls name value
  get_none_iff : ∀ name, item.get? name = none ↔ ItemCall.Clears calls name
  mem_names_iff : ∀ name, name ∈ item.names ↔ ∃ place, ItemCall.Enters calls name place
  ordered : item.names.Pairwise (ItemCall.EntersBefore calls)
  removes : ∀ name, item.remove name = (item.get? name, item.without [name])
  replaces : ∀ name ∈ item.names, ∀ value, item.insert name value =
    ⟨item.entries.map fun entry => if entry.1 = name then (name, value) else entry⟩
  appends : ∀ name ∉ item.names, ∀ value, item.insert name value =
    ⟨item.entries ++ [(name, value)]⟩

end Item

/-- Behind any calls on an empty record, a record holds under every name what the last call about it
left, and the names in the order in which they came in. To insert a name that is there changes its
value and not its place, and to remove a name gives its value and leaves the other entries as they
are. -/
theorem record_follows_calls (calls : List ItemCall) :
    (Item.empty.afterAll calls).Follows calls where
  nodup := Item.nodup_afterAll calls
  size_eq := by rw [Item.size, Item.names, List.length_map]
  get_some_iff _ _ := Item.get?_afterAll_eq_some
  get_none_iff _ := Item.get?_afterAll_eq_none
  mem_names_iff _ := Item.mem_names_afterAll
  ordered := Item.ordered_afterAll calls
  removes := Item.remove_eq (Item.nodup_afterAll calls)
  replaces _ hname := Item.insert_of_mem (Item.nodup_afterAll calls) hname
  appends name hname value := congrArg Item.mk (Item.entries_insert_of_notMem value hname)

/-- A name that was removed comes in anew, behind the others. -/
example :
    (Item.empty.afterAll [.insert "Name" (.string "Alice"), .insert "Age" (.int32 30),
        .insert "Name" (.string "Bob"), .remove "Name", .insert "Name" (.string "Eve")]).entries =
      [("Age", .int32 30), ("Name", .string "Eve")] := by
  decide

end GuardedQuery
