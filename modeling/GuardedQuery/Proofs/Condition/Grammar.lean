import GuardedQuery.Operator

/-! # Conditions

A condition is a tree of comparisons. It is written as a row of lexemes, in which a bracket holds a
whole condition and AND binds tighter than OR. One pass over the row reads the tree back. -/

namespace GuardedQuery

/-- A condition over comparisons of any kind. -/
inductive Condition (α : Type)
  | leaf (a : α)
  | and (s t : Condition α)
  | or (s t : Condition α)
  deriving DecidableEq

/-- What a written condition is made of. -/
inductive Lexeme (α : Type)
  | opening
  | closing
  | separator (s : Separator)
  | leaf (a : α)
  deriving DecidableEq

namespace Condition

variable {α : Type}

/-! ## Grammar -/

/-- What may stand between an OR and the next, between an AND and the next, and as a whole. -/
inductive Level
  | operand
  | conjunction
  | whole
  deriving DecidableEq

/-- How conditions are written. Operators of one kind group to the left. -/
inductive Written : Level → List (Lexeme α) → Condition α → Prop
  | leaf (a : α) : Written .operand [.leaf a] (.leaf a)
  | bracket {L t} (h : Written .whole L t) : Written .operand (.opening :: (L ++ [.closing])) t
  | operand {L t} (h : Written .operand L t) : Written .conjunction L t
  | and {K L s t} (hs : Written .conjunction K s) (ht : Written .operand L t) :
      Written .conjunction (K ++ .separator .and :: L) (.and s t)
  | conjunction {L t} (h : Written .conjunction L t) : Written .whole L t
  | or {K L s t} (hs : Written .whole K s) (ht : Written .conjunction L t) :
      Written .whole (K ++ .separator .or :: L) (.or s t)

/-! ## Reading -/

/-- What stands to the left of an operand inside its bracket: a condition before an OR, and a
conjunction before an AND. -/
structure Frame (α : Type) where
  disjunction : Option (Condition α)
  conjunction : Option (Condition α)

namespace Frame

/-- Nothing stands to the left. -/
def empty : Frame α := ⟨none, none⟩

/-- The conjunction up to an operand. -/
def joined (f : Frame α) (t : Condition α) : Condition α :=
  match f.conjunction with
  | none => t
  | some s => .and s t

/-- The condition up to an operand. -/
def closed (f : Frame α) (t : Condition α) : Condition α :=
  match f.disjunction with
  | none => f.joined t
  | some s => .or s (f.joined t)

/-- The frame of the operand behind an AND. -/
def afterAnd (f : Frame α) (t : Condition α) : Frame α :=
  { f with conjunction := some (f.joined t) }

/-- The frame of the operand behind an OR. -/
def afterOr (f : Frame α) (t : Condition α) : Frame α :=
  ⟨some (f.closed t), none⟩

end Frame

mutual

/-- Read on where an operand is due. The frames are those of the open brackets, inner ones first. -/
def operand? (frames : List (Frame α)) (f : Frame α) : List (Lexeme α) → Option (Condition α)
  | .leaf a :: L => next? frames f (.leaf a) L
  | .opening :: L => operand? (f :: frames) .empty L
  | _ => none

/-- Read on behind an operand. -/
def next? (frames : List (Frame α)) (f : Frame α) (t : Condition α) :
    List (Lexeme α) → Option (Condition α)
  | [] => if frames.isEmpty then some (f.closed t) else none
  | .separator .and :: L => operand? frames (f.afterAnd t) L
  | .separator .or :: L => operand? frames (f.afterOr t) L
  | .closing :: L =>
    match frames with
    | [] => none
    | g :: frames => next? frames g (f.closed t) L
  | _ => none

end

/-- The condition that lexemes are read as. -/
def read? (L : List (Lexeme α)) : Option (Condition α) :=
  operand? [] .empty L

/-! ### A written condition is read back -/

/-- A conjunction up to an operand counts as one operand. -/
theorem next?_joined (frames : List (Frame α)) (d : Option (Condition α)) (s t : Condition α)
    (L : List (Lexeme α)) :
    next? frames ⟨d, some s⟩ t L = next? frames ⟨d, none⟩ (.and s t) L := by
  match L with
  | [] | .separator .and :: L | .separator .or :: L => rw [next?, next?]; rfl
  | .closing :: L => cases frames <;> rw [next?, next?]; rfl
  | .opening :: L | .leaf a :: L => rw [next?, next?] <;> simp

/-- So does a condition up to an operand, unless an AND follows. -/
theorem next?_closed (frames : List (Frame α)) (s t : Condition α) {L : List (Lexeme α)}
    (h : L.head? ≠ some (.separator .and)) :
    next? frames ⟨some s, none⟩ t L = next? frames .empty (.or s t) L := by
  match L with
  | .separator .and :: L => exact absurd rfl h
  | [] | .separator .or :: L => rw [next?, next?]; rfl
  | .closing :: L => cases frames <;> rw [next?, next?]; rfl
  | .opening :: L | .leaf a :: L => rw [next?, next?] <;> simp

/-- The reader passes lexemes as one operand. A conjunction has to be the first in its frame, and a
whole condition has to fill the frame. -/
def Passes : Level → List (Lexeme α) → Condition α → Prop
  | .operand, L, t => ∀ frames f rest, operand? frames f (L ++ rest) = next? frames f t rest
  | .conjunction, L, t => ∀ frames d rest,
      operand? frames ⟨d, none⟩ (L ++ rest) = next? frames ⟨d, none⟩ t rest
  | .whole, L, t => ∀ frames rest, rest.head? ≠ some (.separator .and) →
      operand? frames .empty (L ++ rest) = next? frames .empty t rest

theorem Written.passes {level : Level} {L : List (Lexeme α)} {t : Condition α}
    (h : Written level L t) : Passes level L t := by
  induction h with
  | leaf a =>
      intro frames f rest
      rw [List.singleton_append, operand?]
  | @bracket L t _ ih =>
      intro frames f rest
      rw [List.cons_append, List.append_assoc, List.singleton_append, operand?,
        ih (f :: frames) (.closing :: rest) (by simp), next?]
      rfl
  | operand _ ih =>
      intro frames d rest
      exact ih frames ⟨d, none⟩ rest
  | @and K L s t _ _ ihs iht =>
      intro frames d rest
      rw [List.append_assoc, List.cons_append, ihs, next?, iht, Frame.afterAnd, next?_joined]
      rfl
  | conjunction _ ih =>
      intro frames rest _
      exact ih frames none rest
  | @or K L s t _ _ ihs iht =>
      intro frames rest hrest
      rw [List.append_assoc, List.cons_append, ihs frames _ (by simp), next?]
      exact (iht frames (some s) rest).trans (next?_closed frames s t hrest)

/-! ### What is read was written -/

/-- A condition that may stand before a separator, as it was written. -/
inductive Before (level : Level) (separator : Separator) :
    Option (Condition α) → List (Lexeme α) → Prop
  | none : Before level separator none []
  | some {L s} (h : Written level L s) :
      Before level separator (some s) (L ++ [.separator separator])

namespace Frame

variable {f : Frame α} {A : List (Lexeme α)} {t : Condition α}

/-- A frame holds what was written to the left of an operand. -/
structure Covers (f : Frame α) (D C : List (Lexeme α)) : Prop where
  disjunction : Before .whole .or f.disjunction D
  conjunction : Before .conjunction .and f.conjunction C

namespace Covers

variable {D C : List (Lexeme α)}

theorem empty : Covers (.empty : Frame α) [] [] :=
  ⟨.none, .none⟩

theorem written_joined (h : Covers f D C) (ht : Written .operand A t) :
    Written .conjunction (C ++ A) (f.joined t) := by
  obtain ⟨d, c⟩ := f
  obtain ⟨-, hconjunction⟩ := h
  cases hconjunction with
  | none => exact .operand ht
  | some hs =>
      rw [List.append_assoc, List.singleton_append]
      exact .and hs ht

theorem written_closed (h : Covers f D C) (ht : Written .operand A t) :
    Written .whole (D ++ (C ++ A)) (f.closed t) := by
  have hjoined := h.written_joined ht
  obtain ⟨d, c⟩ := f
  obtain ⟨hdisjunction, -⟩ := h
  cases hdisjunction with
  | none => exact .conjunction hjoined
  | some hs =>
      rw [List.append_assoc, List.singleton_append]
      exact .or hs hjoined

theorem afterAnd (h : Covers f D C) (ht : Written .operand A t) :
    Covers (f.afterAnd t) D (C ++ A ++ [.separator .and]) :=
  ⟨h.disjunction, .some (h.written_joined ht)⟩

theorem afterOr (h : Covers f D C) (ht : Written .operand A t) :
    Covers (f.afterOr t) (D ++ (C ++ A) ++ [.separator .or]) [] :=
  ⟨.some (h.written_closed ht), .none⟩

end Covers

/-- The frames of open brackets hold what was written up to the innermost bracket. -/
inductive CoverAll : List (Frame α) → List (Lexeme α) → Prop
  | nil : CoverAll [] []
  | cons {f D C frames Q} (h : Covers f D C) (hframes : CoverAll frames Q) :
      CoverAll (f :: frames) (Q ++ (D ++ C) ++ [.opening])

end Frame

open GuardedQuery.Condition.Frame (Covers CoverAll)

/-- What the reader makes of lexemes was written, together with what its frames hold and the operand
it has read last. -/
theorem written_of_read {T : Condition α} (L : List (Lexeme α)) :
    (∀ {frames f Q D C}, CoverAll frames Q → Covers f D C → operand? frames f L = some T →
      Written .whole (Q ++ (D ++ C) ++ L) T) ∧
    ∀ {frames f Q D C A t}, CoverAll frames Q → Covers f D C → Written .operand A t →
      next? frames f t L = some T → Written .whole (Q ++ (D ++ (C ++ A)) ++ L) T := by
  induction L with
  | nil =>
      refine ⟨?_, ?_⟩
      · intro frames f Q D C _ _ h
        rw [operand?] at h
        · cases h
        · simp
        · simp
      · intro frames f Q D C A t hframes hf ht h
        rw [next?] at h
        cases hframes with
        | nil =>
            simp only [List.isEmpty_nil, if_true, Option.some.injEq] at h
            subst h
            simpa using hf.written_closed ht
        | cons _ _ => cases h
  | cons l L ih =>
      obtain ⟨ihoperand, ihnext⟩ := ih
      refine ⟨?_, ?_⟩
      · intro frames f Q D C hframes hf h
        cases l with
        | leaf a =>
            rw [operand?] at h
            have hwritten := ihnext hframes hf (.leaf a) h
            simpa using hwritten
        | opening =>
            rw [operand?] at h
            have hwritten := ihoperand (.cons hf hframes) .empty h
            simpa using hwritten
        | closing => cases h
        | separator s => cases h
      · intro frames f Q D C A t hframes hf ht h
        cases l with
        | separator s =>
            cases s with
            | and =>
                rw [next?] at h
                have hwritten := ihoperand hframes (hf.afterAnd ht) h
                simpa using hwritten
            | or =>
                rw [next?] at h
                have hwritten := ihoperand hframes (hf.afterOr ht) h
                simpa using hwritten
        | closing =>
            cases hframes with
            | nil => cases h
            | @cons g D' C' frames Q hg hframes =>
                rw [next?] at h
                have hwritten := ihnext hframes hg (.bracket (hf.written_closed ht)) h
                simpa using hwritten
        | opening => cases h
        | leaf a => cases h

/-- The reader finds the one way in which lexemes can have been written. -/
theorem read?_eq_some {L : List (Lexeme α)} {t : Condition α} :
    read? L = some t ↔ Written .whole L t := by
  constructor
  · intro h
    have hwritten := (written_of_read L).1 .nil .empty h
    simpa using hwritten
  · intro h
    have hpasses := h.passes [] [] (by simp)
    rw [List.append_nil, next?] at hpasses
    exact hpasses

end Condition

end GuardedQuery
