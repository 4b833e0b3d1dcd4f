import GuardedQuery.Caller
import GuardedQuery.Proofs.Roles
import GuardedQuery.Proofs.Text.Trimming
import Mathlib.Logic.Relation

/-! # Lists of roles

A guard and the roles of a caller are both written as names with commas between them. Who passes is
decided by the names alone, and not by how often, in which order and with which blanks they are
written. -/

namespace GuardedQuery

/-! ## Items -/

/-- The items of a role list: what stands between the commas, without blanks around it and in upper
case. What is empty then is no item. -/
def roleItems (list : String) : List String :=
  ((Text.split ',' list).map fun part => Text.upperCase (Text.trim part)).filter (· ≠ "")

theorem mem_normalRoles {parts : List String} {item : String} :
    item ∈ normalRoles parts ↔ (∃ part ∈ parts, normalRole part = item) ∧ item ≠ "" := by
  simp [normalRoles]

theorem RoleSet.parse_eq (list : String) :
    parse list = if roleItems list = [] ∨ wildcard ∈ roleItems list then .unrestricted
      else .restricted (.ofList (roleItems list)) := rfl

theorem Caller.mem_roles_ofRoleList {list role : String} :
    role ∈ (ofRoleList list).roles.names ↔ role ∈ roleItems list :=
  Names.mem_ofList

/-- A guard lets pass everyone if it has no item or the wildcard among its items, and otherwise those
who have one of its items. -/
theorem RoleSet.admits_parse {list : String} {roles : Names} :
    (parse list).admits roles = true ↔
      roleItems list = [] ∨ wildcard ∈ roleItems list ∨
        ∃ item ∈ roleItems list, item ∈ roles.names := by
  rw [parse_eq]
  split
  · rename_i hopen
    simp only [admits, true_iff]
    exact hopen.imp_right .inl
  · rename_i hclosed
    obtain ⟨hnil, hwildcard⟩ := not_or.mp hclosed
    simp only [admits, Names.meets_eq_true, Names.mem_ofList, hnil, hwildcard, false_or]
    constructor
    · rintro ⟨role, hrole, hitem⟩
      exact ⟨role, hitem, hrole⟩
    · rintro ⟨role, hitem, hrole⟩
      exact ⟨role, hrole, hitem⟩

/-! ## Ways to write a list -/

/-- A change of the pieces between the commas that is no change of the items: another order, a piece
that is an item already, a blank piece, or blanks around a piece. -/
inductive RoleEdit : List String → List String → Prop
  | reorder {parts others : List String} (h : parts.Perm others) : RoleEdit parts others
  | again {parts : List String} {part other : String} (hother : other ∈ parts)
      (hsame : Text.upperCase (Text.trim part) = Text.upperCase (Text.trim other)) :
      RoleEdit parts (part :: parts)
  | blank {part : String} (h : Text.allBlank part = true) (parts : List String) :
      RoleEdit parts (part :: parts)
  | pad {front back : String} (hfront : Text.allBlank front = true)
      (hback : Text.allBlank back = true) (part : String) (parts : List String) :
      RoleEdit (part :: parts) ((front ++ part ++ back) :: parts)

/-- Two lists differ by such changes, in either direction and any number of them. -/
def SameRoleList : String → String → Prop :=
  Relation.EqvGen fun list other => RoleEdit (Text.split ',' list) (Text.split ',' other)

theorem normalRole_of_allBlank {part : String} (h : Text.allBlank part = true) :
    normalRole part = "" := by
  have hdrop : Text.dropBlank part.toList = [] := (Text.dropBlank_eq_nil_iff _).mpr h
  rw [normalRole, Text.upperCase, Text.toList_trim, Text.trimChars, hdrop]
  rfl

theorem normalRole_append_append {front back : String} (hfront : Text.allBlank front = true)
    (hback : Text.allBlank back = true) (part : String) :
    normalRole (front ++ part ++ back) = normalRole part := by
  have htrim : Text.trimChars (front ++ part ++ back).toList = Text.trimChars part.toList := by
    rw [String.toList_append, String.toList_append]
    exact Text.trimChars_of_blank_around (List.all_eq_true.mp hfront) (List.all_eq_true.mp hback) _
  rw [normalRole, normalRole, Text.trim, Text.trim, htrim]

theorem RoleEdit.mem_iff {parts others : List String} (h : RoleEdit parts others) (item : String) :
    item ∈ normalRoles parts ↔ item ∈ normalRoles others := by
  simp only [mem_normalRoles]
  cases h with
  | reorder h => simp only [h.mem_iff]
  | again hother hsame =>
      refine and_congr_left fun _ => ⟨?_, ?_⟩
      · rintro ⟨p, hp, hitem⟩
        exact ⟨p, List.mem_cons_of_mem _ hp, hitem⟩
      · rintro ⟨p, hp, hitem⟩
        rcases List.mem_cons.mp hp with rfl | hp
        · exact ⟨_, hother, hsame.symm.trans hitem⟩
        · exact ⟨p, hp, hitem⟩
  | blank hblank =>
      refine and_congr_left fun hne => ?_
      simp only [List.exists_mem_cons_iff, normalRole_of_allBlank hblank, Ne.symm hne, false_or]
  | pad hfront hback =>
      simp only [List.exists_mem_cons_iff, normalRole_append_append hfront hback]

theorem SameRoleList.mem_iff {list other : String} (h : SameRoleList list other) (item : String) :
    item ∈ roleItems list ↔ item ∈ roleItems other := by
  induction h with
  | rel list other hedit => exact hedit.mem_iff item
  | refl list => exact Iff.rfl
  | symm list other _ ih => exact ih.symm
  | trans list mid other _ _ ih ih' => exact ih.trans ih'

/-- Of the items of a guard only those count that are there at all. -/
theorem RoleSet.admits_parse_congr {list other : String} {roles others : Names}
    (hlist : ∀ item, item ∈ roleItems list ↔ item ∈ roleItems other)
    (hroles : ∀ role, role ∈ roles.names ↔ role ∈ others.names) :
    (parse list).admits roles = (parse other).admits others := by
  have hnil : roleItems list = [] ↔ roleItems other = [] := by
    simp only [List.eq_nil_iff_forall_not_mem, hlist]
  rw [Bool.eq_iff_iff, admits_parse, admits_parse, hnil]
  simp only [hlist, hroles]

/-- A caller passes a guard exactly if the guard has no item, or the wildcard among its items, or an
item in common with the roles of the caller. It does not matter how the two lists are written. -/
theorem parse_admits_ofRoleList_iff (list roles : String) :
    ((RoleSet.parse list).admits (Caller.ofRoleList roles).roles = true ↔
      roleItems list = [] ∨ "ALL" ∈ roleItems list ∨
        ∃ item, item ∈ roleItems list ∧ item ∈ roleItems roles) ∧
    ∀ list' roles', SameRoleList list list' → SameRoleList roles roles' →
      (RoleSet.parse list').admits (Caller.ofRoleList roles').roles =
        (RoleSet.parse list).admits (Caller.ofRoleList roles).roles := by
  refine ⟨?_, ?_⟩
  · simp only [RoleSet.admits_parse, Caller.mem_roles_ofRoleList]
    rfl
  · intro list' roles' hlist hroles
    apply RoleSet.admits_parse_congr
    · exact fun item => (hlist.mem_iff item).symm
    · intro role
      simp only [Caller.mem_roles_ofRoleList]
      exact (hroles.mem_iff role).symm

/-- Who is in `hr` passes a guard for `admin` and `hr`, in whatever order and however often the two
are written, with an empty item in front and with blanks around one of them. -/
theorem hr_passes_however_written :
    SameRoleList "admin,hr" ", HR\t,hr,admin" ∧
      (RoleSet.parse ", HR\t,hr,admin").admits (Caller.ofRoleList "guest, Hr").roles = true := by
  have hsplit : Text.split ',' "admin,hr" = ["admin", "hr"] ∧
      Text.split ',' "hr,admin" = ["hr", "admin"] ∧
      Text.split ',' "HR,hr,admin" = ["HR", "hr", "admin"] ∧
      Text.split ',' " HR\t,hr,admin" = [" HR\t", "hr", "admin"] ∧
      Text.split ',' ", HR\t,hr,admin" = ["", " HR\t", "hr", "admin"] := by decide +kernel
  obtain ⟨hfirst, horder, hagain, hpad, hblank⟩ := hsplit
  have hsame : SameRoleList "admin,hr" ", HR\t,hr,admin" := by
    refine .trans _ "hr,admin" _ (.rel _ _ ?_) (.trans _ "HR,hr,admin" _ (.rel _ _ ?_)
      (.trans _ " HR\t,hr,admin" _ (.rel _ _ ?_) (.rel _ _ ?_)))
    · rw [hfirst, horder]
      exact .reorder (.swap _ _ _)
    · rw [horder, hagain]
      exact .again List.mem_cons_self (by decide +kernel)
    · rw [hagain, hpad]
      exact @RoleEdit.pad " " "\t" (by decide) (by decide) "HR" _
    · rw [hpad, hblank]
      exact .blank (by decide) _
  obtain ⟨hpasses, hrewritten⟩ := parse_admits_ofRoleList_iff "admin,hr" "guest, Hr"
  refine ⟨hsame, ?_⟩
  rw [hrewritten _ _ hsame (.refl _)]
  exact hpasses.mpr (.inr (.inr ⟨"HR", by decide +kernel, by decide +kernel⟩))

end GuardedQuery
