import GuardedQuery.Proofs.Condition.Grammar
import Mathlib.Algebra.GroupWithZero.Nat

/-! # Leaves of a condition

What is done to the leaves of a condition can be done to them where it is written. Either every leaf
is replaced by itself, if it can be, or the leaves are numbered from left to right, where a leaf may
take several numbers. -/

namespace GuardedQuery

variable {α β : Type}

namespace Condition

/-- The leaves from left to right. -/
def leaves : Condition α → List α
  | .leaf a => [a]
  | .and s t | .or s t => s.leaves ++ t.leaves

/-- Replace every leaf, if each has a replacement. -/
def replace? (f : α → Option β) : Condition α → Option (Condition β)
  | .leaf a => (f a).map .leaf
  | .and s t => do some (.and (← s.replace? f) (← t.replace? f))
  | .or s t => do some (.or (← s.replace? f) (← t.replace? f))

theorem replace?_and {f : α → Option β} {s t : Condition α} {u : Condition β} :
    (s.and t).replace? f = some u ↔
      ∃ v w, s.replace? f = some v ∧ t.replace? f = some w ∧ u = .and v w := by
  rw [replace?]
  cases s.replace? f <;> cases t.replace? f <;> simp [eq_comm]

theorem replace?_or {f : α → Option β} {s t : Condition α} {u : Condition β} :
    (s.or t).replace? f = some u ↔
      ∃ v w, s.replace? f = some v ∧ t.replace? f = some w ∧ u = .or v w := by
  rw [replace?]
  cases s.replace? f <;> cases t.replace? f <;> simp [eq_comm]

/-- The numbers that all leaves take. -/
def total (width : α → Nat) (t : Condition α) : Nat :=
  (t.leaves.map width).sum

/-- Replace every leaf by what it is under its number. -/
def number (width : α → Nat) (f : Nat → α → β) (n : Nat) : Condition α → Condition β
  | .leaf a => .leaf (f n a)
  | .and s t => .and (s.number width f n) (t.number width f (n + s.total width))
  | .or s t => .or (s.number width f n) (t.number width f (n + s.total width))

theorem mem_leaves_number {width : α → Nat} {f : Nat → α → β} {n : Nat} {t : Condition α} {b : β}
    (h : b ∈ (t.number width f n).leaves) : ∃ a ∈ t.leaves, ∃ m, b = f m a := by
  induction t generalizing n with
  | leaf a => exact ⟨a, List.mem_singleton_self a, n, List.mem_singleton.mp h⟩
  | and s t ihs iht | or s t ihs iht =>
      rcases List.mem_append.mp h with h | h
      · obtain ⟨a, ha, m, hm⟩ := ihs h
        exact ⟨a, List.mem_append_left _ ha, m, hm⟩
      · obtain ⟨a, ha, m, hm⟩ := iht h
        exact ⟨a, List.mem_append_right _ ha, m, hm⟩

end Condition

namespace Lexeme

def leaf? : Lexeme α → Option α
  | .leaf a => some a
  | _ => none

/-- The leaves from left to right. -/
def leaves (L : List (Lexeme α)) : List α :=
  L.filterMap leaf?

def replace? (f : α → Option β) : Lexeme α → Option (Lexeme β)
  | .opening => some .opening
  | .closing => some .closing
  | .separator s => some (.separator s)
  | .leaf a => (f a).map .leaf

/-- The numbers that all leaves take. -/
def total (width : α → Nat) (L : List (Lexeme α)) : Nat :=
  ((leaves L).map width).sum

/-- Replace every leaf by what it is under its number. -/
def number (width : α → Nat) (f : Nat → α → β) : Nat → List (Lexeme α) → List (Lexeme β)
  | _, [] => []
  | n, .opening :: L => .opening :: number width f n L
  | n, .closing :: L => .closing :: number width f n L
  | n, .separator s :: L => .separator s :: number width f n L
  | n, .leaf a :: L => .leaf (f n a) :: number width f (n + width a) L

@[simp] theorem leaves_nil : leaves ([] : List (Lexeme α)) = [] := rfl

@[simp] theorem leaves_opening (L : List (Lexeme α)) : leaves (.opening :: L) = leaves L := rfl

@[simp] theorem leaves_closing (L : List (Lexeme α)) : leaves (.closing :: L) = leaves L := rfl

@[simp] theorem leaves_separator (s : Separator) (L : List (Lexeme α)) :
    leaves (.separator s :: L) = leaves L := rfl

@[simp] theorem leaves_leaf (a : α) (L : List (Lexeme α)) :
    leaves (.leaf a :: L) = a :: leaves L := rfl

@[simp] theorem leaves_append (K L : List (Lexeme α)) : leaves (K ++ L) = leaves K ++ leaves L :=
  List.filterMap_append

theorem number_append (width : α → Nat) (f : Nat → α → β) (n : Nat) (K L : List (Lexeme α)) :
    number width f n (K ++ L) = number width f n K ++ number width f (n + total width K) L := by
  induction K generalizing n with
  | nil => simp [number, total, leaves]
  | cons l K ih =>
      cases l with
      | leaf a => simp [number, ih, total, Nat.add_assoc]
      | _ => simp [number, ih, total]

end Lexeme

theorem mapM_cons_eq_some {f : α → Option β} {x : α} {xs : List α} {ys : List β} :
    (x :: xs).mapM f = some ys ↔
      ∃ y rest, f x = some y ∧ xs.mapM f = some rest ∧ ys = y :: rest := by
  rw [List.mapM_cons]
  cases f x <;> cases xs.mapM f <;> simp [eq_comm]

namespace Condition.Written

variable {level : Level} {L : List (Lexeme α)} {t : Condition α}

theorem leaves_eq (h : Written level L t) : Lexeme.leaves L = t.leaves := by
  induction h with
  | leaf a => rfl
  | bracket _ ih => simpa using ih
  | operand _ ih => exact ih
  | conjunction _ ih => exact ih
  | and _ _ ihs iht => simp [ihs, iht, leaves]
  | or _ _ ihs iht => simp [ihs, iht, leaves]

theorem total_eq (h : Written level L t) (width : α → Nat) :
    Lexeme.total width L = t.total width := by
  rw [Lexeme.total, total, h.leaves_eq]

theorem number (h : Written level L t) (width : α → Nat) (f : Nat → α → β) (n : Nat) :
    Written level (Lexeme.number width f n L) (t.number width f n) := by
  induction h generalizing n with
  | leaf a => exact .leaf (f n a)
  | bracket _ ih =>
      rw [Lexeme.number, Lexeme.number_append]
      exact .bracket (ih n)
  | operand _ ih => exact .operand (ih n)
  | conjunction _ ih => exact .conjunction (ih n)
  | and hs _ ihs iht =>
      rw [Lexeme.number_append, hs.total_eq]
      exact .and (ihs n) (iht _)
  | or hs _ ihs iht =>
      rw [Lexeme.number_append, hs.total_eq]
      exact .or (ihs n) (iht _)

/-- Where the leaves of a condition can be replaced, so can those of its lexemes. -/
theorem replace? (h : Written level L t) {f : α → Option β} {u : Condition β}
    (hu : t.replace? f = some u) :
    ∃ M, L.mapM (Lexeme.replace? f) = some M ∧ Written level M u := by
  induction h generalizing u with
  | leaf a =>
      obtain ⟨b, hb, rfl⟩ := Option.map_eq_some_iff.mp hu
      exact ⟨[.leaf b], by simp [Lexeme.replace?, hb], .leaf b⟩
  | bracket _ ih =>
      obtain ⟨M, hM, hwritten⟩ := ih hu
      refine ⟨_, ?_, .bracket hwritten⟩
      simp [Lexeme.replace?, hM]
  | operand _ ih =>
      obtain ⟨M, hM, hwritten⟩ := ih hu
      exact ⟨M, hM, .operand hwritten⟩
  | conjunction _ ih =>
      obtain ⟨M, hM, hwritten⟩ := ih hu
      exact ⟨M, hM, .conjunction hwritten⟩
  | and _ _ ihs iht =>
      obtain ⟨v, w, hv, hw, rfl⟩ := replace?_and.mp hu
      obtain ⟨K, hK, hs⟩ := ihs hv
      obtain ⟨M, hM, ht⟩ := iht hw
      refine ⟨_, ?_, .and hs ht⟩
      simp [Lexeme.replace?, hK, hM]
  | or _ _ ihs iht =>
      obtain ⟨v, w, hv, hw, rfl⟩ := replace?_or.mp hu
      obtain ⟨K, hK, hs⟩ := ihs hv
      obtain ⟨M, hM, ht⟩ := iht hw
      refine ⟨_, ?_, .or hs ht⟩
      simp [Lexeme.replace?, hK, hM]

end Condition.Written

end GuardedQuery
