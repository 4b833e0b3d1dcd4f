import GuardedQuery.Access
import GuardedQuery.Proofs.Query.Part
import Mathlib.Data.List.Induction

/-! # References of a query

A token refers to an entity of the catalog, or to an attribute of the entity that was named last.
The check of a query passes exactly if the caller may use everything that its tokens refer to. -/

namespace GuardedQuery

/-- What a token can refer to. -/
inductive Reference
  | entity (e : Entity)
  | attr (a : Attribute)

/-- A caller may use what is referred to. -/
def Reference.check (caller : Caller) : Reference → Except AccessDenied Unit
  | .entity e => Access.checkEntity e caller
  | .attr a => Access.checkAttribute a caller

namespace Catalog

def entityBehind? (c : Catalog) (front : List Token) : Option Entity :=
  (front.reverse.find? (·.kind = .entity)).bind fun t => c.entity? t.text

/-- What a token behind `front` refers to. -/
def reference? (c : Catalog) (front : List Token) (t : Token) : Option Reference :=
  match t.kind with
  | .entity => (c.entity? t.text).map .entity
  | .attr => ((c.entityBehind? front).bind (·.attribute? t.text .query)).map .attr
  | _ => none

def checkReference (c : Catalog) (caller : Caller) (front : List Token) (t : Token) :
    Except AccessDenied Unit :=
  match c.reference? front t with
  | some r => r.check caller
  | none => .ok ()

/-- Every entity token and every attribute token refers to something that the caller may use. -/
def Admits (c : Catalog) (caller : Caller) (tokens : List Token) : Prop :=
  ∀ front t rest, tokens = front ++ t :: rest → t.kind = .entity ∨ t.kind = .attr →
    ∃ r, c.reference? front t = some r ∧ r.check caller = .ok ()

/-- Some token refers to something that the caller may not use. -/
def Forbids (c : Catalog) (caller : Caller) (tokens : List Token) : Prop :=
  ∃ front t rest r, tokens = front ++ t :: rest ∧ c.reference? front t = some r ∧
    r.check caller ≠ .ok ()

variable (c : Catalog) (caller : Caller)

theorem entityBehind?_concat (front : List Token) (t : Token) :
    c.entityBehind? (front ++ [t]) =
      if t.kind = .entity then c.entity? t.text else c.entityBehind? front := by
  rw [entityBehind?, List.reverse_append, List.reverse_singleton, List.singleton_append,
    List.find?_cons]
  by_cases h : t.kind = .entity
  · simp [h]
  · simp [h, entityBehind?]

/-- The entity of a context is the one that was named last. -/
theorem entity_of_eq_entityBehind? (front : List Token) :
    (Context.of c front).entity = c.entityBehind? front := by
  induction front using List.reverseRecOn with
  | nil => rfl
  | append_singleton front t ih =>
      rw [entityBehind?_concat, Context.of, List.foldl_append, ← ih]
      simp only [List.foldl_cons, List.foldl_nil, Context.after]
      cases t.kind <;> simp [Context.of]

end Catalog

namespace Access

variable (c : Catalog) (caller : Caller)

theorem checkTokensFrom_cons (front : List Token) (t : Token) (rest : List Token) :
    checkTokensFrom c caller (c.entityBehind? front) (t :: rest) =
      c.checkReference caller front t >>= fun _ =>
        checkTokensFrom c caller (c.entityBehind? (front ++ [t])) rest := by
  rw [checkTokensFrom, Catalog.entityBehind?_concat, Catalog.checkReference, Catalog.reference?]
  cases t.kind with
  | entity =>
      simp only [if_true]
      cases c.entity? t.text with
      | none => rfl
      | some e => rfl
  | attr =>
      simp only [reduceCtorEq, if_false]
      cases (c.entityBehind? front).bind (·.attribute? t.text .query) with
      | none => rfl
      | some a => rfl
  | _ => simp only [reduceCtorEq, if_false, except_ok_bind]

theorem checkTokensFrom_eq_ok {front tokens : List Token} :
    checkTokensFrom c caller (c.entityBehind? front) tokens = .ok () ↔
      ∀ mid t rest, tokens = mid ++ t :: rest →
        c.checkReference caller (front ++ mid) t = .ok () := by
  induction tokens generalizing front with
  | nil => simp [checkTokensFrom]
  | cons token tokens ih =>
      rw [checkTokensFrom_cons, except_bind_eq_ok]
      constructor
      · rintro ⟨⟨⟩, htoken, htokens⟩ mid t rest heq
        cases mid with
        | nil =>
            obtain ⟨rfl, rfl⟩ := List.cons.inj heq
            rw [List.append_nil]
            exact htoken
        | cons first mid =>
            obtain ⟨rfl, rfl⟩ := List.cons.inj heq
            have hmid := ih.mp htokens mid t rest rfl
            rwa [List.append_assoc, List.singleton_append] at hmid
      · intro h
        refine ⟨(), ?_, ih.mpr ?_⟩
        · have htoken := h [] token tokens rfl
          rwa [List.append_nil] at htoken
        · intro mid t rest heq
          have hmid := h (token :: mid) t rest (by rw [heq]; rfl)
          rwa [List.append_assoc, List.singleton_append]

/-- A query passes the check exactly if each of its tokens does. -/
theorem checkTokens_eq_ok {tokens : List Token} :
    checkTokens c caller tokens = .ok () ↔
      ∀ front t rest, tokens = front ++ t :: rest → c.checkReference caller front t = .ok () :=
  @checkTokensFrom_eq_ok c caller [] tokens

end Access

namespace Catalog

variable {c : Catalog} {caller : Caller} {tokens : List Token}

/-- A token that has a part has a reference, if it is one that names something. -/
theorem reference?_of_reads {front : List Token} {t : Token} {p : Part}
    (h : Reads c (Context.of c front) t p) (hkind : t.kind = .entity ∨ t.kind = .attr) :
    ∃ r, c.reference? front t = some r := by
  rw [reference?]
  cases h with
  | @entity hentity e he => exact ⟨.entity e, by simp [hentity, he]⟩
  | @field hattr e a he ha =>
      rw [entity_of_eq_entityBehind?] at he
      exact ⟨.attr a, by simp [hattr, he, ha]⟩
  | @label hattr e a he ha =>
      rw [entity_of_eq_entityBehind?] at he
      exact ⟨.attr a, by simp [hattr, he, ha]⟩
  | _ => simp_all

/-- The check passes over names that are not in the catalog, but such names have no parts: a query
that passes the check and has parts only refers to what the caller may use. -/
theorem admits_of_checkTokens {ps : List Part} (hcheck : Access.checkTokens c caller tokens = .ok ())
    (hreads : ReadsAll c .empty tokens ps) : c.Admits caller tokens := by
  rintro front t rest rfl hkind
  obtain ⟨-, back, -, -, hback⟩ := ReadsAll.append_iff.mp hreads
  cases hback with
  | cons ht _ =>
      obtain ⟨r, hr⟩ := reference?_of_reads ht hkind
      have hpass := (Access.checkTokens_eq_ok c caller).mp hcheck front t rest rfl
      rw [checkReference, hr] at hpass
      exact ⟨r, hr, hpass⟩

theorem exists_denial_of_forbids (h : c.Forbids caller tokens) :
    ∃ denial, Access.checkTokens c caller tokens = .error denial := by
  obtain ⟨front, t, rest, r, htokens, hr, hdenied⟩ := h
  cases hcheck : Access.checkTokens c caller tokens with
  | error denial => exact ⟨denial, rfl⟩
  | ok _ =>
      have hpass := (Access.checkTokens_eq_ok c caller).mp hcheck front t rest htokens
      rw [checkReference, hr] at hpass
      exact absurd hpass hdenied

end Catalog

end GuardedQuery
