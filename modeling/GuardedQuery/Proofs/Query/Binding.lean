import GuardedQuery.Proofs.Except
import GuardedQuery.Query.Compile

/-! # Binding a filter

A bound filter is the filter with a placeholder for every name. Binding succeeds if the caller has a
value for every name, and the first name without one is reported. -/

namespace GuardedQuery

namespace Placeholder

/-- The character that stands for a piece in a bound filter. -/
def Piece.mark : Piece → Char
  | .char c => c
  | .name _ => '?'

def Piece.name? : Piece → Option String
  | .char _ => none
  | .name chars => some (String.ofList chars)

@[simp] theorem filterMap_name?_char (c : Char) (ps : List Piece) :
    (.char c :: ps).filterMap Piece.name? = ps.filterMap Piece.name? := rfl

@[simp] theorem filterMap_name?_name (chars : List Char) (ps : List Piece) :
    (.name chars :: ps).filterMap Piece.name? =
      String.ofList chars :: ps.filterMap Piece.name? := rfl

/-- The text of a bound filter. -/
def marked (filter : String) : List Char :=
  (pieces filter.toList).map Piece.mark

/-- The names in a filter from left to right. -/
def names (filter : String) : List String :=
  (pieces filter.toList).filterMap Piece.name?

/-- The characters of pieces are those of the filter. -/
theorem mem_of_char_mem_piecesFrom {quoted : Bool} {pending : Option (List Char)} {cs : List Char}
    {c : Char} (h : .char c ∈ piecesFrom quoted pending cs) : c ∈ cs := by
  induction cs generalizing quoted pending with
  | nil => cases pending <;> simp [piecesFrom] at h
  | cons d cs ih =>
      have hkeep {quoted : Bool} (h : .char c ∈ .char d :: piecesFrom quoted none cs) :
          c ∈ d :: cs := by
        rcases List.mem_cons.mp h with hd | h
        · rw [Piece.char.inj hd]
          exact List.mem_cons_self
        · exact List.mem_cons_of_mem d (ih h)
      have hat (h : .char c ∈ piecesFrom.piecesAt quoted d cs) : c ∈ d :: cs := by
        rw [piecesFrom.piecesAt] at h
        split at h
        · exact hkeep h
        · split at h
          · exact List.mem_cons_of_mem d (ih h)
          · exact hkeep h
      cases pending with
      | none =>
          rw [piecesFrom] at h
          exact hat h
      | some pending =>
          rw [piecesFrom] at h
          split at h
          · exact List.mem_cons_of_mem d (ih h)
          · rcases List.mem_cons.mp h with hd | h
            · cases hd
            · exact hat h

variable {ε : Type} {resolve : String → Except ε Value}

/-- A binding looks up the values of the names from left to right. -/
theorem bindPieces_eq_mapM (resolve : String → Except ε Value) (ps : List Piece) :
    bindPieces resolve ps =
      ((ps.filterMap Piece.name?).mapM resolve).map fun values => (ps.map Piece.mark, values) := by
  induction ps with
  | nil => rfl
  | cons p ps ih =>
      cases p with
      | char c =>
          rw [bindPieces, ih, filterMap_name?_char]
          cases (ps.filterMap Piece.name?).mapM resolve <;> rfl
      | name chars =>
          rw [bindPieces, ih, filterMap_name?_name, List.mapM_cons]
          cases resolve (String.ofList chars) with
          | error e => rfl
          | ok value => cases (ps.filterMap Piece.name?).mapM resolve <;> rfl

theorem bindPieces_eq_ok {ps : List Piece} {text : List Char} {values : List Value} :
    bindPieces resolve ps = .ok (text, values) ↔
      text = ps.map Piece.mark ∧
        (ps.filterMap Piece.name?).map resolve = values.map .ok := by
  have hmap : (ps.filterMap Piece.name?).map resolve = values.map .ok ↔
      List.Forall₂ (fun name value => resolve name = .ok value)
        (ps.filterMap Piece.name?) values := by
    rw [← List.forall₂_eq_eq_eq, List.forall₂_map_left_iff, List.forall₂_map_right_iff]
  rw [bindPieces_eq_mapM, except_map_eq_ok, hmap]
  simp only [except_mapM_eq_ok, Prod.mk.injEq]
  constructor
  · rintro ⟨values, hvalues, rfl, rfl⟩
    exact ⟨rfl, hvalues⟩
  · rintro ⟨rfl, hvalues⟩
    exact ⟨values, hvalues, rfl, rfl⟩

/-- A failure of a binding is that of one of the names. -/
theorem bindPieces_eq_error {ps : List Piece} {e : ε} (h : bindPieces resolve ps = .error e) :
    ∃ name, resolve name = .error e := by
  rw [bindPieces_eq_mapM, except_map_eq_error] at h
  obtain ⟨name, -, hname⟩ := exists_of_except_mapM_eq_error h
  exact ⟨name, hname⟩

end Placeholder

namespace Draft

/-- A filter is bound exactly by the values that a caller has for its names. -/
theorem bindFilter_eq_ok {e : Entity} {filter : String} {caller : Caller} {condition : List Char}
    {values : List Value} :
    bindFilter e filter caller = .ok (condition, values) ↔
      condition = Placeholder.marked filter ∧
        (Placeholder.names filter).map caller.scope? = values.map some := by
  rw [bindFilter, Placeholder.bind, Placeholder.bindPieces_eq_ok]
  refine and_congr_right fun _ => ?_
  change (Placeholder.names filter).map _ = _ ↔ _
  generalize Placeholder.names filter = names
  induction names generalizing values with
  | nil => cases values <;> simp
  | cons name names ih =>
      cases values with
      | nil => simp
      | cons value values =>
          simp only [List.map_cons, List.cons.injEq, ih]
          cases caller.scope? name <;> simp

/-- A filter that cannot be bound lacks a value. -/
theorem bindFilter_eq_error {e : Entity} {filter : String} {caller : Caller} {error : CompileError}
    (h : bindFilter e filter caller = .error error) :
    ∃ name, error = .missingScope e.displayName name := by
  obtain ⟨name, hname⟩ := Placeholder.bindPieces_eq_error h
  split at hname
  · cases hname
  · cases hname
    exact ⟨name, rfl⟩

end Draft

end GuardedQuery
