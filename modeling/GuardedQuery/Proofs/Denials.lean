import GuardedQuery.Proofs.Catalog.Building
import GuardedQuery.Proofs.References
import GuardedQuery.Proofs.Service.Authorization
import Mathlib.Data.Nat.Find

/-! # Denials of a query

The check of a query goes through its tokens and remembers the entity that was named last. It stops
at the first token that refers to something the caller may not use. Neither the tokens behind that one
nor those that name nothing have a say. -/

namespace GuardedQuery

/-! ## Denied tokens -/

namespace Catalog

variable (c : Catalog) (caller : Caller) (tokens : List Token)

/-- The last entity token before an index names the entity. If the name of that token is not in the
catalog, or there is no such token, nothing is named. -/
def NamedBefore (i : Nat) (e : Entity) : Prop :=
  ∃ k t, k < i ∧ tokens[k]? = some t ∧ t.kind = .entity ∧ c.entity? t.text = some e ∧
    ∀ j u, k < j → j < i → tokens[j]? = some u → u.kind ≠ .entity

/-- The token at an index refers to an entity, or to an attribute of the entity named last, whose
guard the caller does not pass. The roles in the denial are those of the caller in order. -/
inductive Denies (i : Nat) : AccessDenied → Prop
  | entity {t : Token} {e : Entity} (ht : tokens[i]? = some t) (hkind : t.kind = .entity)
      (he : c.entity? t.text = some e) (hroles : e.roles.admits caller.roles = false) :
      Denies i ⟨.entity, e.displayName, String.intercalate ", " caller.roles.names⟩
  | attr {t : Token} {e : Entity} {a : Attribute} (ht : tokens[i]? = some t) (hkind : t.kind = .attr)
      (he : c.NamedBefore tokens i e) (ha : e.attribute? t.text .query = some a)
      (hroles : a.effectiveRoles.admits caller.roles = false) :
      Denies i ⟨.attr, Access.qualifiedName a, String.intercalate ", " caller.roles.names⟩

/-- The token at an index is denied, and no token before it is. -/
def DeniesFirst (i : Nat) (d : AccessDenied) : Prop :=
  c.Denies caller tokens i d ∧ ∀ j < i, ∀ other, ¬ c.Denies caller tokens j other

variable {c caller tokens}

theorem namedBefore_succ {i : Nat} {t : Token} (ht : tokens[i]? = some t) {e : Entity} :
    c.NamedBefore tokens (i + 1) e ↔
      if t.kind = .entity then c.entity? t.text = some e else c.NamedBefore tokens i e := by
  split
  · rename_i hkind
    constructor
    · rintro ⟨k, u, hk, hu, -, he, hlast⟩
      obtain rfl : k = i := by
        by_contra hne
        exact hlast i t (by omega) (by omega) ht hkind
      rw [ht] at hu
      cases hu
      exact he
    · intro he
      exact ⟨i, t, by omega, ht, hkind, he, fun j u _ _ => by omega⟩
  · rename_i hkind
    constructor
    · rintro ⟨k, u, hk, hu, hentity, he, hlast⟩
      have hne : k ≠ i := by
        rintro rfl
        rw [ht] at hu
        cases hu
        exact hkind hentity
      exact ⟨k, u, by omega, hu, hentity, he, fun j v hkj hj => hlast j v hkj (by omega)⟩
    · rintro ⟨k, u, hk, hu, hentity, he, hlast⟩
      refine ⟨k, u, by omega, hu, hentity, he, ?_⟩
      intro j v hkj hj hv
      by_cases hji : j = i
      · subst hji
        rw [ht] at hv
        cases hv
        exact hkind
      · exact hlast j v hkj (by omega) hv

/-- The entity named before an index is the one that the check remembers there. -/
theorem namedBefore_append (front rest : List Token) {e : Entity} :
    c.NamedBefore (front ++ rest) front.length e ↔ c.entityBehind? front = some e := by
  induction front using List.reverseRecOn generalizing rest with
  | nil => simp [NamedBefore, entityBehind?]
  | append_singleton front t ih =>
      have ht : (front ++ [t] ++ rest)[front.length]? = some t := by simp
      rw [List.length_append, List.length_singleton, namedBefore_succ ht, entityBehind?_concat]
      split
      · rfl
      · rw [List.append_assoc]
        exact ih _

end Catalog

namespace Access

variable {caller : Caller} {d : AccessDenied}

theorem checkEntity_eq_error {e : Entity} :
    checkEntity e caller = .error d ↔
      e.roles.admits caller.roles = false ∧ ⟨.entity, e.displayName, caller.roleList⟩ = d := by
  rw [checkEntity, allowsEntity]
  split <;> simp_all

theorem checkAttribute_eq_error {a : Attribute} :
    checkAttribute a caller = .error d ↔
      a.effectiveRoles.admits caller.roles = false ∧
        ⟨.attr, qualifiedName a, caller.roleList⟩ = d := by
  rw [checkAttribute, allowsAttribute]
  split <;> simp_all

end Access

namespace Catalog

variable {c : Catalog} {caller : Caller} {tokens : List Token} {d : AccessDenied}

/-- A token is denied exactly if the check of what it refers to fails, with the same denial. -/
theorem denies_append {front : List Token} {t : Token} {rest : List Token} :
    c.Denies caller (front ++ t :: rest) front.length d ↔
      c.checkReference caller front t = .error d := by
  have ht : (front ++ t :: rest)[front.length]? = some t := by simp
  constructor
  · intro h
    cases h with
    | @entity u e hu hkind he hroles =>
        rw [ht] at hu
        cases hu
        have hreference : c.reference? front t = some (.entity e) := by
          rw [reference?, hkind]
          exact congrArg (Option.map Reference.entity) he
        rw [checkReference, hreference]
        exact Access.checkEntity_eq_error.mpr ⟨hroles, rfl⟩
    | @attr u e a hu hkind he ha hroles =>
        rw [ht] at hu
        cases hu
        have hreference : c.reference? front t = some (.attr a) := by
          rw [reference?, hkind]
          simp only [(namedBefore_append front (t :: rest)).mp he, Option.bind_some, ha,
            Option.map_some]
        rw [checkReference, hreference]
        exact Access.checkAttribute_eq_error.mpr ⟨hroles, rfl⟩
  · intro h
    rw [checkReference, reference?] at h
    cases hkind : t.kind with
    | entity =>
        cases he : c.entity? t.text with
        | none => simp [hkind, he] at h
        | some e =>
            simp only [hkind, he, Option.map_some] at h
            obtain ⟨hroles, rfl⟩ := Access.checkEntity_eq_error.mp h
            exact .entity ht hkind he hroles
    | attr =>
        cases he : c.entityBehind? front with
        | none => simp [hkind, he] at h
        | some e =>
            cases ha : e.attribute? t.text .query with
            | none => simp [hkind, he, ha] at h
            | some a =>
                simp only [hkind, he, Option.bind_some, ha, Option.map_some] at h
                obtain ⟨hroles, rfl⟩ := Access.checkAttribute_eq_error.mp h
                exact .attr ht hkind ((namedBefore_append front (t :: rest)).mpr he) ha hroles
    | _ => simp [hkind] at h

/-- Only a token can be denied. -/
theorem Denies.exists_append {i : Nat} (h : c.Denies caller tokens i d) :
    ∃ front t rest, tokens = front ++ t :: rest ∧ front.length = i := by
  obtain ⟨t, ht⟩ : ∃ t, tokens[i]? = some t := by
    cases h with
    | entity ht _ _ _ => exact ⟨_, ht⟩
    | attr ht _ _ _ _ => exact ⟨_, ht⟩
  obtain ⟨hi, rfl⟩ := List.getElem?_eq_some_iff.mp ht
  refine ⟨tokens.take i, tokens[i], tokens.drop (i + 1), ?_, ?_⟩
  · rw [← List.drop_eq_getElem_cons hi, List.take_append_drop]
  · exact List.length_take_of_le (Nat.le_of_lt hi)

end Catalog

/-! ## The check of a query -/

namespace Access

variable {c : Catalog} {caller : Caller} {tokens : List Token} {d : AccessDenied}

theorem checkTokensFrom_append (front mid rest : List Token) :
    checkTokensFrom c caller (c.entityBehind? front) (mid ++ rest) =
      checkTokensFrom c caller (c.entityBehind? front) mid >>= fun _ =>
        checkTokensFrom c caller (c.entityBehind? (front ++ mid)) rest := by
  induction mid generalizing front with
  | nil => simp [checkTokensFrom]
  | cons t mid ih =>
      rw [List.cons_append, checkTokensFrom_cons, checkTokensFrom_cons, ih, bind_assoc,
        List.append_assoc, List.singleton_append]

/-- Tokens that pass are passed over, and the denial of the next one is the answer, whatever stands
behind it. -/
theorem checkTokens_append_cons {front : List Token} {t : Token}
    (hfront : checkTokens c caller front = .ok ()) (ht : c.checkReference caller front t = .error d)
    (rest : List Token) : checkTokens c caller (front ++ t :: rest) = .error d := by
  have happend : checkTokens c caller (front ++ t :: rest) =
      checkTokens c caller front >>= fun _ =>
        checkTokensFrom c caller (c.entityBehind? front) (t :: rest) :=
    checkTokensFrom_append [] front (t :: rest)
  rw [happend, hfront, except_ok_bind, checkTokensFrom_cons, ht, except_error_bind]

/-- Tokens pass exactly if none of them is denied. -/
theorem checkTokens_eq_ok_iff_not_denies :
    checkTokens c caller tokens = .ok () ↔ ¬ ∃ i d, c.Denies caller tokens i d := by
  rw [checkTokens_eq_ok]
  constructor
  · rintro h ⟨i, d, hdenies⟩
    obtain ⟨front, t, rest, rfl, rfl⟩ := hdenies.exists_append
    have hpass := h front t rest rfl
    rw [Catalog.denies_append.mp hdenies] at hpass
    cases hpass
  · rintro h front t rest rfl
    cases hcheck : c.checkReference caller front t with
    | error d => exact absurd ⟨front.length, d, Catalog.denies_append.mpr hcheck⟩ h
    | ok _ => rfl

/-- The first denial is the answer to the tokens up to it, followed by any others. -/
theorem checkTokens_of_deniesFirst {i : Nat} (h : c.DeniesFirst caller tokens i d)
    (others : List Token) : checkTokens c caller (tokens.take (i + 1) ++ others) = .error d := by
  obtain ⟨hdenies, hearlier⟩ := h
  obtain ⟨front, t, rest, rfl, rfl⟩ := hdenies.exists_append
  have hfront : checkTokens c caller front = .ok () := by
    rw [checkTokens_eq_ok]
    rintro mid u back rfl
    cases hcheck : c.checkReference caller mid u with
    | ok _ => rfl
    | error other =>
        rw [List.append_assoc, List.cons_append] at hearlier
        exact absurd (Catalog.denies_append.mpr hcheck) (hearlier mid.length (by simp) other)
  have htake : (front ++ t :: rest).take (front.length + 1) ++ others = front ++ t :: others := by
    simp [List.take_append, List.take_of_length_le]
  rw [htake]
  exact checkTokens_append_cons hfront (Catalog.denies_append.mp hdenies) others

theorem checkTokens_eq_error_iff_deniesFirst :
    checkTokens c caller tokens = .error d ↔ ∃ i, c.DeniesFirst caller tokens i d := by
  -- where a token is denied at all, one of them is the first
  have hfirst : ∀ {i d}, c.DeniesFirst caller tokens i d →
      checkTokens c caller tokens = .error d := by
    intro i d h
    have htokens := checkTokens_of_deniesFirst h (tokens.drop (i + 1))
    rwa [List.take_append_drop] at htokens
  constructor
  · intro h
    have hsome : ∃ i d, c.Denies caller tokens i d := by
      by_contra hnone
      rw [checkTokens_eq_ok_iff_not_denies.mpr hnone] at h
      cases h
    classical
    obtain ⟨other, hother⟩ := Nat.find_spec hsome
    have hleast : c.DeniesFirst caller tokens (Nat.find hsome) other :=
      ⟨hother, fun j hj d hd => Nat.find_min hsome hj ⟨d, hd⟩⟩
    rw [hfirst hleast] at h
    cases h
    exact ⟨_, hleast⟩
  · rintro ⟨i, h⟩
    exact hfirst h

end Access

/-! ## Tokens that name nothing -/

/-- A token stands for an entity or an attribute. -/
def Token.isName (t : Token) : Bool :=
  t.kind = .entity || t.kind = .attr

theorem Access.checkTokensFrom_filter (c : Catalog) (caller : Caller) (current : Option Entity)
    (tokens : List Token) :
    checkTokensFrom c caller current (tokens.filter Token.isName) =
      checkTokensFrom c caller current tokens := by
  induction tokens generalizing current with
  | nil => rfl
  | cons t tokens ih =>
      cases hkind : t.kind with
      | entity =>
          rw [List.filter_cons_of_pos (by simp [Token.isName, hkind]), checkTokensFrom,
            checkTokensFrom]
          simp only [hkind, ih]
      | attr =>
          rw [List.filter_cons_of_pos (by simp [Token.isName, hkind]), checkTokensFrom,
            checkTokensFrom]
          simp only [hkind, ih]
      | _ =>
          rw [List.filter_cons_of_neg (by simp [Token.isName, hkind]), ih, checkTokensFrom]
          simp only [hkind]

/-! ## Names of denied attributes -/

/-- In a catalog of built entities, a denied attribute is shown after its entity. -/
theorem Catalog.Built.qualifiedName_eq {c : Catalog} (h : c.Built) {e : Entity}
    {name : String} (he : c.entity? name = some e) {a : Attribute} (ha : a ∈ e.attributes) :
    Access.qualifiedName a = e.displayName ++ "." ++ a.displayName := by
  rw [Access.qualifiedName, ((h e (List.mem_of_find?_eq_some he)).binds a ha).owner]

/-- The check of a query passes exactly if no token is denied, and otherwise answers with the denial
of the first token that is. Tokens behind that one may be any, and tokens that name neither an entity
nor an attribute may be left out. In a catalog of built entities, a denied attribute is shown after
the entity named last. -/
theorem checkTokens_denies_first (c : Catalog) (caller : Caller) (tokens : List Token) :
    (Access.checkTokens c caller tokens = .ok () ↔ ¬ ∃ i d, c.Denies caller tokens i d) ∧
    (∀ d, Access.checkTokens c caller tokens = .error d ↔ ∃ i, c.DeniesFirst caller tokens i d) ∧
    (∀ i d, c.DeniesFirst caller tokens i d → ∀ others,
      Access.checkTokens c caller (tokens.take (i + 1) ++ others) = .error d) ∧
    Access.checkTokens c caller (tokens.filter Token.isName) =
      Access.checkTokens c caller tokens ∧
    (c.Built → ∀ i name roles, c.Denies caller tokens i ⟨.attr, name, roles⟩ →
      ∃ e, c.NamedBefore tokens i e ∧ ∃ a ∈ e.attributes,
        name = e.displayName ++ "." ++ a.displayName) := by
  refine ⟨Access.checkTokens_eq_ok_iff_not_denies,
    fun _ => Access.checkTokens_eq_error_iff_deniesFirst,
    fun _ _ => Access.checkTokens_of_deniesFirst,
    Access.checkTokensFrom_filter c caller none tokens, ?_⟩
  rintro hbuilt i name roles h
  cases h with
  | @attr t e a _ _ he ha _ =>
      have hmem : a ∈ e.attributes :=
        Entity.mem_of_mem_attributesFor (List.mem_of_find?_eq_some ha)
      obtain ⟨-, u, -, -, -, hu, -⟩ := id he
      exact ⟨e, he, a, hmem, hbuilt.qualifiedName_eq hu hmem⟩

/-! ### Salaries -/

namespace Staff

/-- Behind an unknown entity the salary is not looked at; behind employees it is. -/
def asking : List Token :=
  [⟨.find, "find"⟩, ⟨.entity, "Employee"⟩, ⟨.attr, "Name"⟩, ⟨.entity, "Nobody"⟩, ⟨.attr, "Salary"⟩,
    ⟨.entity, "Employee"⟩, ⟨.attr, "Name"⟩, ⟨.attr, "Salary"⟩, ⟨.attr, "Salary"⟩]

end Staff

/-- A guest who asks for salaries is denied at the first of them that belongs to employees. -/
theorem guest_denied_first_salary :
    ∃ i, Staff.catalog.DeniesFirst (.ofRoleList "guest") Staff.asking i
      ⟨.attr, "Employee.Salary", "GUEST"⟩ ∧
      Access.checkTokens Staff.catalog (.ofRoleList "guest") (Staff.asking.take (i + 1)) =
        .error ⟨.attr, "Employee.Salary", "GUEST"⟩ := by
  obtain ⟨-, herror, hrest, -⟩ :=
    checkTokens_denies_first Staff.catalog (.ofRoleList "guest") Staff.asking
  obtain ⟨i, hfirst⟩ := (herror ⟨.attr, "Employee.Salary", "GUEST"⟩).mp (by decide +kernel)
  have hup := hrest i _ hfirst []
  rw [List.append_nil] at hup
  exact ⟨i, hfirst, hup⟩

end GuardedQuery
