import GuardedQuery.Catalog.Validation
import GuardedQuery.Proofs.Query.Failure

/-! # The place of the bracket

A filter puts a bracket before the conditions of a query. The place of the bracket is recorded where
the conditions start, and every join moves it on, also one that is inserted behind it. So the
bracket is where it should be exactly if the conditions join nothing behind an entity that they
name. -/

namespace GuardedQuery

/-! ## The drift -/

namespace Layout

/-- The parts join nothing behind an entity. -/
def JoinsBeforeEntities (ps : List Part) : Prop :=
  ∀ near e far, ps = near ++ .entity e :: far → joinCount far = 0

theorem joins_eq_nil (number : Nat) (ps : List Part) :
    joins number ps = [] ↔ joinCount ps = 0 := by
  induction ps generalizing number with
  | nil => simp [joins]
  | cons p ps ih =>
      rw [joins, List.append_eq_nil_iff, ih, joinCount_cons, Nat.add_eq_zero_iff]
      cases p with
      | label hop hops field => simp [joinText, chain_ne_nil, Part.joinCount]
      | _ => simp [joinText, Part.joinCount]

theorem joinsBeforeEntities_cons (p : Part) (ps : List Part) :
    JoinsBeforeEntities (p :: ps) ↔
      if p.isEntity then joinCount ps = 0 else JoinsBeforeEntities ps := by
  split
  · rename_i hp
    constructor
    · intro h
      cases p with
      | entity e => exact h [] e ps rfl
      | _ => cases hp
    · intro h near e far heq
      cases near with
      | nil =>
          cases heq
          exact h
      | cons _ near =>
          rw [List.cons_append, List.cons.injEq] at heq
          obtain ⟨rfl, rfl⟩ := heq
          rw [joinCount_append, joinCount_cons] at h
          omega
  · rename_i hp
    constructor
    · intro h near e far heq
      exact h (p :: near) e far (by rw [heq]; rfl)
    · intro h near e far heq
      cases near with
      | nil =>
          cases heq
          exact absurd rfl hp
      | cons _ near =>
          rw [List.cons_append, List.cons.injEq] at heq
          obtain ⟨rfl, rfl⟩ := heq
          exact h near e far rfl

theorem farJoins_eq_nil (number : Nat) (ps : List Part) :
    farJoins number ps = [] ↔ JoinsBeforeEntities ps := by
  induction ps generalizing number with
  | nil => simp [farJoins, JoinsBeforeEntities]
  | cons p ps ih =>
      rw [farJoins, joinsBeforeEntities_cons]
      split
      · exact joins_eq_nil number ps
      · exact ih _

theorem drift_eq_zero {front conditions : List Part} :
    drift front conditions = 0 ↔ JoinsBeforeEntities conditions := by
  rw [drift, Text.byteLength_eq_zero, farJoins_eq_nil]

/-- The joins behind an entity are part of the text. -/
theorem byteLength_farJoins_le (number : Nat) (ps : List Part) :
    Text.byteLength (farJoins number ps) ≤ Text.byteLength (text [] number ps) := by
  induction ps generalizing number with
  | nil => exact Nat.le_refl _
  | cons p ps ih =>
      have hps := ih (number + p.joinCount)
      rw [farJoins, text]
      split
      · rename_i hp
        rw [joinCount_of_isEntity hp, Nat.add_zero] at hps ⊢
        rw [joins_eq_nearJoins_append_farJoins]
        simp only [Text.byteLength_append]
        omega
      · simp only [Text.byteLength_append]
        omega

/-- A bracket that drifts stays within the conditions. -/
theorem drift_le (front conditions : List Part) :
    drift front conditions ≤ Text.byteLength (conditionText front conditions) :=
  byteLength_farJoins_le _ conditions

end Layout

/-! ## Conditions in brackets -/

/-- Tokens whose conditions go into brackets: their parts around the last start of conditions, and
the bound filter of their last entity. -/
structure Bracketed (c : Catalog) (caller : Caller) (tokens : List Token)
    (front conditions : List Part) (condition : List Char) (filterValues : List Value) : Prop where
  reads : ReadsAll c .empty tokens (front ++ .having :: conditions)
  last_having : ∀ p ∈ conditions, p.isHaving = false
  bound : ∃ e filter, (Context.of c tokens).entity = some e ∧ e.filter = some filter ∧
    Draft.bindFilter e filter caller = .ok (condition, filterValues)

namespace Bracketed

variable {c : Catalog} {caller : Caller} {tokens : List Token} {front conditions : List Part}
  {condition : List Char} {filterValues : List Value}

/-- Only the bracket can be misplaced, and nothing else can go wrong. -/
theorem compile_eq (h : Bracketed c caller tokens front conditions condition filterValues) :
    c.compile caller tokens =
      match Text.insertAt (Layout.drift front conditions) " (".toList
          (Layout.conditionText front conditions) with
      | some text => .ok
        ⟨String.ofList (Layout.opening front conditions ++ text ++
            (" ) AND ( ".toList ++ condition ++ " )".toList)),
          Layout.values (front ++ .having :: conditions) ++ filterValues⟩
      | none => .error (.misplacedSplice
          (Text.byteLength (Layout.opening front conditions) + Layout.drift front conditions)) := by
  obtain ⟨e, filter, he, hfilter, hbind⟩ := h.bound
  have hnear := h.reads.nearJoins_eq_nil rfl 1
  have hsplit := Layout.splitHaving_append front h.last_having
  have hplace := Sheet.filterAt_of_splitHaving_eq_some hnear hsplit
  have hparts : c.parts tokens = .ok _ := Catalog.partsFrom_eq_ok.mpr h.reads
  rw [Catalog.compile_eq_finish, hparts, except_ok_bind, Draft.finish, Sheet.draft_entity, he]
  simp only [hfilter, Sheet.addFilter_draft hnear, hbind, except_ok_bind, hplace, Option.getD_some,
    Layout.bracketed?, hsplit, Layout.closing_of_splitHaving_eq_some hsplit]
  cases Text.insertAt (Layout.drift front conditions) " (".toList
      (Layout.conditionText front conditions) with
  | none => rfl
  | some text => rfl

end Bracketed

/-- A misplaced bracket has conditions that it belongs to. -/
theorem Catalog.bracketed_of_compile_eq_misplaced {c : Catalog} {caller : Caller}
    {tokens : List Token} {offset : Nat}
    (h : c.compile caller tokens = .error (.misplacedSplice offset)) :
    ∃ front conditions condition filterValues,
      Bracketed c caller tokens front conditions condition filterValues := by
  rcases error_of_compile h with ⟨_, _, _, -, -, hfails⟩ | ⟨ps, hreads, hfinish⟩
  · exact absurd rfl (hfails.ne_misplaced offset)
  · rcases Sheet.error_of_finish (hreads.nearJoins_eq_nil rfl 1) hfinish with
      ⟨-, hmissing⟩ | ⟨e, filter, he, hfilter, ⟨name, hscope⟩ | ⟨-, hsplit, bound, hbind⟩⟩
    · cases hmissing
    · cases hscope
    · obtain ⟨⟨front, conditions⟩, hsplit⟩ := Option.isSome_iff_exists.mp hsplit
      obtain ⟨rfl, hlast⟩ := Layout.splitHaving_spec hsplit
      exact ⟨front, conditions, bound.1, bound.2, hreads, hlast, e, filter, he, hfilter, hbind⟩

/-- Compilation fails on a place exactly if the drift of the bracket ends inside a character; it
never ends behind the conditions. If it ends between characters, the bracket stands there, and this
is directly behind the start of the conditions exactly if they join nothing behind an entity. -/
theorem compile_bracket_place (c : Catalog) (caller : Caller) (tokens : List Token) :
    (∀ offset, c.compile caller tokens = .error (.misplacedSplice offset) ↔
      ∃ front conditions condition filterValues,
        Bracketed c caller tokens front conditions condition filterValues ∧
        ¬ Text.CutsAt (Layout.drift front conditions) (Layout.conditionText front conditions) ∧
        offset = Text.byteLength (Layout.opening front conditions) +
          Layout.drift front conditions) ∧
    (∀ front conditions condition filterValues q,
      Bracketed c caller tokens front conditions condition filterValues →
      c.compile caller tokens = .ok q →
      ∃ skipped rest, Layout.conditionText front conditions = skipped ++ rest ∧
        q.text.toList = Layout.opening front conditions ++ skipped ++ " (".toList ++ rest ++
          (" ) AND ( ".toList ++ condition ++ " )".toList) ∧
        (skipped = [] ↔ Layout.JoinsBeforeEntities conditions)) ∧
    (∀ front conditions, Layout.drift front conditions ≤
      Text.byteLength (Layout.conditionText front conditions)) := by
  refine ⟨?_, ?_, Layout.drift_le⟩
  · intro offset
    constructor
    · intro h
      obtain ⟨front, conditions, condition, filterValues, hbracketed⟩ :=
        Catalog.bracketed_of_compile_eq_misplaced h
      rw [hbracketed.compile_eq] at h
      split at h
      · cases h
      · rename_i hinsert
        cases h
        exact ⟨_, _, _, _, hbracketed, Text.insertAt_eq_none.mp hinsert, rfl⟩
    · rintro ⟨front, conditions, condition, filterValues, hbracketed, hcuts, rfl⟩
      rw [hbracketed.compile_eq, Text.insertAt_eq_none.mpr hcuts]
  · intro front conditions condition filterValues q hbracketed hq
    rw [hbracketed.compile_eq] at hq
    split at hq
    · rename_i text hinsert
      cases hq
      obtain ⟨skipped, rest, hcut, hlength, rfl⟩ := Text.insertAt_eq_some.mp hinsert
      refine ⟨skipped, rest, hcut, ?_, ?_⟩
      · simp only [String.toList_ofList, List.append_assoc]
      · rw [← Text.byteLength_eq_zero, hlength, Layout.drift_eq_zero]
    · cases hq

/-! ### Conditions that name an entity -/

namespace Documents

/-- Conditions that name the documents they are about. -/
def tilted : List Token :=
  [⟨.find, "find"⟩, ⟨.having, "having"⟩, ⟨.entity, "Document"⟩, ⟨.attr, "Owner"⟩,
    ⟨.operator, "in"⟩, ⟨.value, "Ada"⟩]

def tiltedFront : List Part := [.text "SELECT DISTINCT".toList]

def tiltedConditions (typeId : String) : List Part :=
  [.entity (document typeId), .label "owner" [] "name", .text " IN".toList,
    .literal ⟨" (?)", [.string "Ada"]⟩]

theorem bracketed_tilted (typeId : String) :
    Bracketed (catalog typeId) caller tilted tiltedFront (tiltedConditions typeId)
      "x.tenant = ?".toList [.int64 42] where
  reads := .cons (.find rfl) (.cons (.having rfl) (.cons (.entity rfl rfl)
    (reads_owner_in typeId rfl)))
  last_having := by simp [tiltedConditions, Part.isHaving]
  bound := ⟨document typeId, "x.tenant = :tenant", rfl, rfl, bindFilter_document typeId⟩

theorem drift_tilted (typeId : String) :
    Layout.drift tiltedFront (tiltedConditions typeId) = 21 := by
  change Text.byteLength (Layout.chain 1 ["owner"] ++ []) = 21
  rw [chain_owner]
  decide +kernel

theorem conditionText_tilted (typeId : String) :
    Layout.conditionText tiltedFront (tiltedConditions typeId) =
      " x FROM ".toList ++ (typeId.toList ++ " x LEFT JOIN x.owner x1 x1.name IN (?)".toList) := by
  have hclause : Draft.entityClause (document typeId) =
      " x FROM ".toList ++ (typeId.toList ++ " x".toList) := by
    have hfrom : " x FROM ".toList = ' ' :: (Draft.rootAlias ++ " FROM ".toList) := by
      decide +kernel
    simp only [Draft.entityClause, hfrom, List.cons_append, List.append_assoc]
    rfl
  have hrest : " x LEFT JOIN x.owner x1 x1.name IN (?)".toList =
      " x".toList ++ (" LEFT JOIN x.owner x1".toList ++ " x1.name IN (?)".toList) := by
    decide +kernel
  change Draft.entityClause (document typeId) ++ (Layout.chain 1 ["owner"] ++ []) ++
    (Draft.fieldOf (Draft.joinAlias 1) "name".toList ++ [] ++
      (" IN".toList ++ [] ++ (" (?)".toList ++ [] ++ []))) = _
  rw [hrest, ← chain_owner, hclause, joinAlias_one]
  simp only [List.append_assoc, List.append_nil]
  rfl

end Documents

/-- The bracket lands inside the name of a type. -/
theorem compile_tilted_misplaced :
    (Documents.catalog "ééééééé").isValid = true ∧
      (Documents.catalog "ééééééé").compile Documents.caller Documents.tilted =
        .error (.misplacedSplice 42) := by
  refine ⟨by decide +kernel, ?_⟩
  apply ((compile_bracket_place _ _ _).1 42).mpr
  refine ⟨_, _, _, _, Documents.bracketed_tilted "ééééééé", ?_, ?_⟩
  · rw [← @Text.insertAt_eq_none _ [] _, Documents.drift_tilted,
      Documents.conditionText_tilted]
    decide +kernel
  · rw [Documents.drift_tilted]
    decide +kernel

/-- The bracket lands inside a join. -/
theorem compile_tilted :
    (Documents.catalog "Document").isValid = true ∧
      (Documents.catalog "Document").compile Documents.caller Documents.tilted =
        .ok ⟨"SELECT DISTINCT WHERE x FROM Document x LE (FT JOIN x.owner x1 x1.name IN (?) ) " ++
            "AND ( x.tenant = ? )", [.string "Ada", .int64 42]⟩ := by
  refine ⟨by decide +kernel, ?_⟩
  rw [(Documents.bracketed_tilted "Document").compile_eq, Documents.drift_tilted,
    Documents.conditionText_tilted]
  decide +kernel

end GuardedQuery
