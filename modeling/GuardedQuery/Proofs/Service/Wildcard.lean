import GuardedQuery.Proofs.Catalog.Inheritance
import GuardedQuery.Proofs.Service.WiderAccess
import GuardedQuery.Proofs.Text.Trimming
import Mathlib.Data.List.Sort

/-! # The wildcard as a role

The wildcard lifts a restriction when a guard is made of role names. It is never kept among the roles
of a restriction, so a caller who has it as a role gains nothing by it. -/

namespace GuardedQuery

/-! ## Sets of names -/

theorem Names.mem_insert {s : Names} {new name : String} :
    name ∈ (s.insert new).names ↔ name = new ∨ name ∈ s.names :=
  mem_insertName

/-- A set is determined by its members, because they are listed in increasing order. -/
theorem Names.eq_of_mem_iff {s t : Names} (h : ∀ name, name ∈ s.names ↔ name ∈ t.names) : s = t := by
  obtain ⟨names, hnames⟩ := s
  obtain ⟨others, hothers⟩ := t
  obtain rfl : names = others := hnames.eq_of_mem_iff hothers h
  rfl

/-! ## Guards -/

namespace RoleSet

/-- The wildcard is among the roles of a restriction. -/
def HoldsWildcard : RoleSet → Prop
  | .unrestricted => False
  | .restricted allowed => wildcard ∈ allowed.names

theorem not_holdsWildcard_ofRoles (roles : List String) : ¬ (ofRoles roles).HoldsWildcard := by
  simp only [ofRoles]
  split
  · exact id
  · rename_i hnames
    intro hwildcard
    exact hnames (.inr (Names.mem_ofList.mp hwildcard))

theorem not_holdsWildcard_parse (roles : String) : ¬ (parse roles).HoldsWildcard :=
  not_holdsWildcard_ofRoles _

theorem not_holdsWildcard_restrictedBy {own owner : RoleSet} (hown : ¬ own.HoldsWildcard)
    (howner : ¬ owner.HoldsWildcard) : ¬ (own.restrictedBy owner).HoldsWildcard := by
  cases own with
  | unrestricted => exact howner
  | restricted mine =>
      cases owner with
      | unrestricted => exact hown
      | restricted theirs =>
          intro hwildcard
          exact hown (Names.mem_inter.mp hwildcard).1

/-- The wildcard as a role is no reason to pass. -/
theorem admits_insert_wildcard {s : RoleSet} (h : ¬ s.HoldsWildcard) (roles : Names) :
    s.admits (roles.insert wildcard) = true ↔ s.admits roles = true := by
  cases s with
  | unrestricted => exact Iff.rfl
  | restricted allowed =>
      rw [admits, admits, Names.meets_eq_true, Names.meets_eq_true]
      constructor
      · rintro ⟨role, hrole, hallowed⟩
        rcases Names.mem_insert.mp hrole with rfl | hrole
        · exact absurd hallowed h
        · exact ⟨role, hrole, hallowed⟩
      · rintro ⟨role, hrole, hallowed⟩
        exact ⟨role, Names.mem_insert.mpr (.inr hrole), hallowed⟩

end RoleSet

/-! ## Built guards -/

theorem Attribute.Built.not_holdsWildcard {a : Attribute} (h : a.Built) :
    ¬ a.roles.HoldsWildcard := by
  induction h with
  | new name displayName type => exact id
  | withRoles _ roles _ => exact RoleSet.not_holdsWildcard_parse roles
  | withScope _ scope ih => exact ih
  | withValuesQuery _ query ih => exact ih
  | withLabel _ label ih => exact ih
  | withLabelPath _ path ih => exact ih
  -- the roles of an owner may be any, but they go into the effective roles alone
  | ownedBy _ owner roles ih => exact ih

theorem Entity.Built.not_holdsWildcard {e : Entity} (h : e.Built) : ¬ e.roles.HoldsWildcard := by
  induction h with
  | new typeId displayName => exact id
  | withRoles _ roles _ => exact RoleSet.not_holdsWildcard_parse roles
  | withFilter _ filter ih => exact ih
  | withAttribute _ _ ih => exact ih

/-- Whatever an attribute was bound to before, its effective roles now are those of two guards
without the wildcard. -/
theorem Entity.Built.not_holdsWildcard_effectiveRoles {e : Entity} (h : e.Built) {a : Attribute}
    (ha : a ∈ e.attributes) : ¬ a.effectiveRoles.HoldsWildcard := by
  rw [(h.binds a ha).effectiveRoles]
  exact RoleSet.not_holdsWildcard_restrictedBy (h.attribute_built a ha).not_holdsWildcard
    h.not_holdsWildcard

/-! ## The wildcard among the roles of a caller -/

/-- The caller with one more role. -/
def Caller.withRole (caller : Caller) (role : String) : Caller :=
  { caller with roles := caller.roles.insert (normalRole role) }

/-- One more role name in a list, at whatever place, makes a caller with one more role. -/
theorem Caller.ofRoles_insert {role : String} (hrole : normalRole role ≠ "")
    (front back : List String) :
    ofRoles (front ++ role :: back) = (ofRoles (front ++ back)).withRole role := by
  have hroles : Names.ofList (normalRoles (front ++ role :: back)) =
      (Names.ofList (normalRoles (front ++ back))).insert (normalRole role) := by
    apply Names.eq_of_mem_iff
    intro name
    simp only [Names.mem_insert, Names.mem_ofList, normalRoles, List.map_append, List.map_cons,
      List.mem_filter, List.mem_append, List.mem_cons, decide_eq_true_eq]
    constructor
    · rintro ⟨hfront | rfl | hback, hname⟩
      · exact .inr ⟨.inl hfront, hname⟩
      · exact .inl rfl
      · exact .inr ⟨.inr hback, hname⟩
    · rintro (rfl | ⟨hfront | hback, hname⟩)
      · exact ⟨.inr (.inl rfl), hrole⟩
      · exact ⟨.inl hfront, hname⟩
      · exact ⟨.inr (.inr hback), hname⟩
  rw [ofRoles, hroles]
  rfl

/-! ## Spellings of the wildcard -/

namespace Text

/-- A word has the given capital letters, each of them in upper or lower case. -/
def Spells (word letters : List Char) : Prop :=
  List.Forall₂ (fun c letter => c = letter ∨ c = letter.toLower) word letters

theorem Spells.mem {word letters : List Char} (h : Spells word letters) :
    ∀ c ∈ word, c ∈ letters ∨ c ∈ letters.map Char.toLower := by
  induction h with
  | nil => simp
  | @cons c letter word letters hc _ ih =>
      intro d hd
      rcases List.mem_cons.mp hd with rfl | hd
      · rcases hc with rfl | rfl
        · simp
        · simp
      · rcases ih d hd with hd | hd
        · exact .inl (List.mem_cons_of_mem _ hd)
        · exact .inr (List.mem_cons_of_mem _ hd)

theorem upperCaseChar_of_ascii {c : Char} (h : c.toNat < 0x80) : upperCaseChar c = [c.toUpper] :=
  if_pos h

/-- The upper case of a word is the capital letters that it has. -/
theorem Spells.flatMap_upperCaseChar {word letters : List Char} (h : Spells word letters)
    (hletters : ∀ letter ∈ letters, ∀ c ∈ [letter, letter.toLower],
      c.toNat < 0x80 ∧ c.toUpper = letter) : word.flatMap upperCaseChar = letters := by
  induction h with
  | nil => rfl
  | @cons c letter word letters hc _ ih =>
      rw [List.forall_mem_cons] at hletters
      obtain ⟨hascii, hupper⟩ := hletters.1 c (by simpa using hc)
      rw [List.flatMap_cons, upperCaseChar_of_ascii hascii, hupper, ih hletters.2,
        List.singleton_append]

end Text

namespace RoleSet

/-- The wildcard in any letter case, with any blanks around it. -/
def SpellsWildcard (role : String) : Prop :=
  ∃ front word back, role.toList = front ++ word ++ back ∧
    (∀ c ∈ front, Text.isBlank c = true) ∧ (∀ c ∈ back, Text.isBlank c = true) ∧
    Text.Spells word wildcard.toList

/-- However the wildcard is spelled, it is the wildcard in normal form. -/
theorem SpellsWildcard.normalRole_eq {role : String} (h : SpellsWildcard role) :
    normalRole role = wildcard := by
  obtain ⟨front, word, back, hrole, hfront, hback, hword⟩ := h
  -- no letter of the word is blank, so trimming stops at the word
  have hletters : wildcard.toList = ['A', 'L', 'L'] := rfl
  rw [hletters] at hword
  have hblank : ∀ c ∈ word, Text.isBlank c = false := by
    have hnone : ∀ c ∈ ['A', 'L', 'L'] ++ ['A', 'L', 'L'].map Char.toLower,
        Text.isBlank c = false := by simp [Text.isBlank]
    intro c hc
    exact hnone c (List.mem_append.mpr (hword.mem c hc))
  have hupper : word.flatMap Text.upperCaseChar = ['A', 'L', 'L'] :=
    hword.flatMap_upperCaseChar (by simp)
  have htrim : (Text.trim role).toList = word := by
    rw [Text.toList_trim, hrole,
      Text.trimChars_append_append (Text.bare_of_no_blank hblank) hfront hback]
  rw [normalRole, Text.upperCase, htrim, hupper]
  rfl

end RoleSet

/-! ## Callers with the wildcard -/

/-- One more role does not take anything away. -/
theorem Caller.mem_withRole {caller : Caller} {role name : String} (h : name ∈ caller.roles.names) :
    name ∈ (caller.withRole role).roles.names :=
  Names.mem_insert.mpr (.inr h)

/-- Over a catalog of built entities, one more role that is the wildcard opens nothing. -/
theorem Catalog.Built.allowsAlso_of_wildcard {c : Catalog} (h : c.Built) {role : String}
    (hrole : normalRole role = RoleSet.wildcard) (caller : Caller) :
    c.AllowsAlso (caller.withRole role) caller where
  entity e he := by
    rw [Access.checkEntity_eq_ok, Access.checkEntity_eq_ok, Caller.withRole, hrole,
      RoleSet.admits_insert_wildcard (h e he).not_holdsWildcard]
    exact id
  attr e he a ha := by
    rw [Access.checkAttribute_eq_ok, Access.checkAttribute_eq_ok, Caller.withRole, hrole,
      RoleSet.admits_insert_wildcard ((h e he).not_holdsWildcard_effectiveRoles ha)]
    exact id

/-- In a catalog that was built by calls or loaded from a document, no guard is a restriction to the
wildcard. A caller who is given the wildcard as a role, however it is spelled, passes the same checks
as before and is listed the same. -/
theorem wildcard_role_opens_nothing {c : Catalog}
    (h : c.Built ∨ ∃ (document : CatalogDocument) (readers : LiteralReaders),
      c = document.toCatalog readers) :
    (∀ e ∈ c.entities, ¬ e.roles.HoldsWildcard ∧
      ∀ a ∈ e.attributes, ¬ a.roles.HoldsWildcard ∧ ¬ a.effectiveRoles.HoldsWildcard) ∧
    ∀ role, RoleSet.SpellsWildcard role →
      (∀ front back, Caller.ofRoles (front ++ role :: back) =
        (Caller.ofRoles (front ++ back)).withRole role) ∧
      ∀ caller : Caller, c.ChecksAlike (caller.withRole role) caller ∧
        ∀ s : Service, s.catalog = .ok c → s.ListsAlike (caller.withRole role) caller := by
  have hbuilt : c.Built := by
    rcases h with hbuilt | ⟨document, readers, rfl⟩
    · exact hbuilt
    · exact document.toCatalog_built readers
  refine ⟨?_, ?_⟩
  · intro e he
    refine ⟨(hbuilt e he).not_holdsWildcard, ?_⟩
    intro a ha
    exact ⟨((hbuilt e he).attribute_built a ha).not_holdsWildcard,
      (hbuilt e he).not_holdsWildcard_effectiveRoles ha⟩
  · intro role hspells
    have hrole : normalRole role = RoleSet.wildcard := hspells.normalRole_eq
    have hne : normalRole role ≠ "" := by
      rw [hrole]
      decide
    refine ⟨Caller.ofRoles_insert hne, ?_⟩
    intro caller
    have hless := hbuilt.allowsAlso_of_wildcard hrole caller
    have hmore : c.AllowsAlso caller (caller.withRole role) :=
      c.allowsAlso_of_roles fun _ => Caller.mem_withRole
    exact ⟨hless.checksAlike hmore, fun s hcatalog => hless.listsAlike hmore hcatalog⟩

/-! ### The wildcard and the payroll -/

namespace Payroll

def catalog : Catalog := (Catalog.new "find").withEntities [employee]

def service : Service := ⟨⟨.ready catalog, 1⟩, .declared⟩

theorem catalog_built : catalog.Built := by
  intro e he
  rw [List.mem_singleton.mp he]
  exact employee_built

theorem spells_wildcard : RoleSet.SpellsWildcard " aLl\t" := by
  refine ⟨[' '], ['a', 'L', 'l'], ['\t'], rfl, by simp [Text.isBlank], by simp [Text.isBlank], ?_⟩
  exact .cons (.inr rfl) (.cons (.inl rfl) (.cons (.inr rfl) .nil))

end Payroll

/-- Who is in `hr` may not use employees, and may not with the wildcard as a second role either. -/
theorem employee_closed_to_wildcard :
    Payroll.catalog.Built ∧ RoleSet.SpellsWildcard " aLl\t" ∧
      (Caller.ofRoles ["hr", " aLl\t"]).roles.names = ["ALL", "HR"] ∧
      Access.checkEntity Payroll.employee (.ofRoles ["hr", " aLl\t"]) ≠ .ok () ∧
      (Payroll.service.entityNames (.ofRoles ["hr", " aLl\t"])).toOption = some [] := by
  obtain ⟨-, hopens⟩ := wildcard_role_opens_nothing (.inl Payroll.catalog_built)
  obtain ⟨hinsert, hsame⟩ := hopens _ Payroll.spells_wildcard
  have hcaller := hinsert ["hr"] []
  obtain ⟨hchecks, hlists⟩ := hsame (.ofRoles ["hr"])
  have hdenied : Access.checkEntity Payroll.employee (.ofRoles ["hr"]) ≠ .ok () := by
    decide +kernel
  have hnames : (Payroll.service.entityNames (.ofRoles ["hr"])).toOption = some [] := by
    decide +kernel
  simp only [List.singleton_append, List.append_nil] at hcaller
  refine ⟨Payroll.catalog_built, Payroll.spells_wildcard, by decide +kernel, ?_, ?_⟩
  · rw [hcaller]
    exact fun hcheck => hdenied ((hchecks.entity _ (List.mem_singleton_self _)).mp hcheck)
  · rw [hcaller, (hlists Payroll.service rfl).entityNames]
    exact hnames

end GuardedQuery
