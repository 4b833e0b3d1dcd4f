import GuardedQuery.Proofs.Query.Part
import Mathlib.Data.List.Basic

/-! # Layout of parts

The text of a query in two passes over its parts: one writes joins, the other writes everything
else. Aliases are numbered through all parts, and the joins of an entity stand directly behind the
clause that names it. -/

namespace GuardedQuery.Layout

open Draft (rootAlias joinAlias joinClause fieldOf entityClause)

/-! ## Single parts -/

/-- The joins along hops, numbered from `number`. Each join but the first starts from the one before
it. -/
def chain (number : Nat) (hops : List String) : List Char :=
  (hops.zipIdx number).flatMap fun (hop, k) =>
    joinClause (if k = number then rootAlias else joinAlias (k - 1)) hop.toList (joinAlias k)

private theorem joinChain_cons (source : List Char) (number : Nat) (hop : String)
    (hops : List String) :
    Draft.joinChain source number (hop :: hops) =
      (joinClause source hop.toList (joinAlias number) ++
        (hops.zipIdx (number + 1)).flatMap fun (hop, k) =>
          joinClause (joinAlias (k - 1)) hop.toList (joinAlias k),
        joinAlias (number + hops.length)) := by
  induction hops generalizing source number hop with
  | nil => simp [Draft.joinChain]
  | cons next hops ih =>
      rw [Draft.joinChain, ih]
      simp [Nat.add_assoc, Nat.add_comm 1]

/-- A chain that is built hop by hop, together with the alias at its end. -/
theorem joinChain_eq (number : Nat) (hop : String) (hops : List String) :
    Draft.joinChain rootAlias number (hop :: hops) =
      (chain number (hop :: hops), joinAlias (number + hops.length)) := by
  rw [joinChain_cons, Prod.mk.injEq]
  refine ⟨?_, rfl⟩
  simp only [chain, List.zipIdx_cons, List.flatMap_cons, if_true]
  congr 1
  apply List.flatMap_congr
  rintro ⟨hop, k⟩ hk
  have hlater : k ≠ number := by
    have := (List.mem_zipIdx hk).1
    omega
  simp [hlater]

theorem chain_ne_nil (number : Nat) (hop : String) (hops : List String) :
    chain number (hop :: hops) ≠ [] := by
  intro h
  rw [chain, List.zipIdx_cons, List.flatMap_cons, List.append_eq_nil_iff] at h
  exact List.cons_ne_nil _ _ (List.append_eq_nil_iff.mp h.1).2

/-- The joins of a part. -/
def joinText (number : Nat) : Part → List Char
  | .label hop hops _ => chain number (hop :: hops)
  | _ => []

/-- What a part writes in the place of its token. -/
def bodyText (number : Nat) : Part → List Char
  | .text chars => chars
  | .having => " WHERE".toList
  | .entity e => entityClause e
  | .label _ hops field => fieldOf (joinAlias (number + hops.length)) field.toList
  | .literal l => l.fragment.toList

/-! ## Lists of parts -/

/-- The number of joins of parts. -/
def joinCount : List Part → Nat
  | [] => 0
  | p :: ps => p.joinCount + joinCount ps

/-- The values of parts. -/
def values (parts : List Part) : List Value :=
  parts.flatMap Part.values

/-- The joins of parts. -/
def joins (number : Nat) : List Part → List Char
  | [] => []
  | p :: ps => joinText number p ++ joins (number + p.joinCount) ps

/-- What parts write in the places of their tokens. -/
def body (number : Nat) : List Part → List Char
  | [] => []
  | p :: ps => bodyText number p ++ body (number + p.joinCount) ps

/-- The joins of parts up to the next entity, and those of `more` if there is none. -/
def nearJoins (more : List Char) (number : Nat) : List Part → List Char
  | [] => more
  | p :: ps =>
    if p.isEntity then [] else joinText number p ++ nearJoins more (number + p.joinCount) ps

/-- The joins of parts behind the next entity. -/
def farJoins (number : Nat) : List Part → List Char
  | [] => []
  | p :: ps =>
    if p.isEntity then joins number ps else farJoins (number + p.joinCount) ps

/-- The text of parts with the joins behind their entities, of which `more` belong to the last
one. -/
def text (more : List Char) (number : Nat) : List Part → List Char
  | [] => []
  | p :: ps =>
    bodyText number p ++ (if p.isEntity then nearJoins more number ps else []) ++
      text more (number + p.joinCount) ps

@[simp] theorem joinCount_nil : joinCount [] = 0 := rfl

@[simp] theorem joinCount_cons (p : Part) (ps : List Part) :
    joinCount (p :: ps) = p.joinCount + joinCount ps := rfl

@[simp] theorem joinCount_append (ps qs : List Part) :
    joinCount (ps ++ qs) = joinCount ps + joinCount qs := by
  induction ps with
  | nil => simp
  | cons p ps ih => simp [ih, Nat.add_assoc]

@[simp] theorem values_nil : values [] = [] := rfl

@[simp] theorem values_cons (p : Part) (ps : List Part) :
    values (p :: ps) = p.values ++ values ps := rfl

@[simp] theorem values_append (ps qs : List Part) : values (ps ++ qs) = values ps ++ values qs :=
  List.flatMap_append

theorem joins_append (number : Nat) (ps qs : List Part) :
    joins number (ps ++ qs) = joins number ps ++ joins (number + joinCount ps) qs := by
  induction ps generalizing number with
  | nil => simp [joins]
  | cons p ps ih => simp [joins, ih, Nat.add_assoc]

theorem body_append (number : Nat) (ps qs : List Part) :
    body number (ps ++ qs) = body number ps ++ body (number + joinCount ps) qs := by
  induction ps generalizing number with
  | nil => simp [body]
  | cons p ps ih => simp [body, ih, Nat.add_assoc]

theorem nearJoins_append (more : List Char) (number : Nat) (ps qs : List Part) :
    nearJoins more number (ps ++ qs) =
      nearJoins (nearJoins more (number + joinCount ps) qs) number ps := by
  induction ps generalizing number with
  | nil => simp [nearJoins]
  | cons p ps ih => simp [nearJoins, ih, Nat.add_assoc]

theorem joinCount_of_isEntity {p : Part} (h : p.isEntity = true) : p.joinCount = 0 := by
  cases p <;> simp_all [Part.isEntity, Part.joinCount]

theorem text_append (more : List Char) (number : Nat) (ps qs : List Part) :
    text more number (ps ++ qs) =
      text (nearJoins more (number + joinCount ps) qs) number ps ++
        text more (number + joinCount ps) qs := by
  induction ps generalizing number with
  | nil => simp [text]
  | cons p ps ih =>
      by_cases h : p.isEntity
      · simp [text, ih, h, joinCount_of_isEntity h, nearJoins_append]
      · simp [text, ih, h, Nat.add_assoc]

/-- The joins of parts stand before or behind the next entity. -/
theorem joins_eq_nearJoins_append_farJoins (number : Nat) (ps : List Part) :
    joins number ps = nearJoins [] number ps ++ farJoins number ps := by
  induction ps generalizing number with
  | nil => rfl
  | cons p ps ih =>
      cases p <;> simp [joins, nearJoins, farJoins, Part.isEntity, joinText, Part.joinCount, ih]

/-! ## Parts without an entity -/

section NoEntity

variable {ps : List Part} (h : ∀ p ∈ ps, p.isEntity = false)

include h

theorem nearJoins_of_no_entity (more : List Char) (number : Nat) :
    nearJoins more number ps = joins number ps ++ more := by
  induction ps generalizing number with
  | nil => rfl
  | cons p ps ih =>
      have hp := h p (by simp)
      simp [nearJoins, joins, hp, ih fun p hp => h p (by simp [hp])]

theorem farJoins_of_no_entity (number : Nat) : farJoins number ps = [] := by
  induction ps generalizing number with
  | nil => rfl
  | cons p ps ih =>
      have hp := h p (by simp)
      simp [farJoins, hp, ih fun p hp => h p (by simp [hp])]

theorem text_of_no_entity (more : List Char) (number : Nat) :
    text more number ps = body number ps := by
  induction ps generalizing number with
  | nil => rfl
  | cons p ps ih =>
      have hp := h p (by simp)
      simp [text, body, hp, ih fun p hp => h p (by simp [hp])]

end NoEntity

end GuardedQuery.Layout
