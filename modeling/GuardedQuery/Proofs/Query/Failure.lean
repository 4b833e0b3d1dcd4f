import GuardedQuery.Proofs.Query.Binding
import GuardedQuery.Proofs.Query.Compilation

/-! # Why queries do not compile

A query fails at its first token without a part, or, if every token has one, where the filter of its
entity is added. -/

namespace GuardedQuery

/-! ## Tokens without a part -/

/-- The rules by which a token has no part, each with the error it leads to. -/
inductive Fails (c : Catalog) (context : Context) (position : Nat) (token : Token) :
    CompileError → Prop
  | entity (h : token.kind = .entity) (he : c.entity? token.text = none) :
      Fails c context position token (.unknownEntity token.text position)
  | missingEntity (h : token.kind = .attr) (he : context.entity = none) :
      Fails c context position token .missingEntity
  | attr (h : token.kind = .attr) {e} (he : context.entity = some e)
      (ha : e.attribute? token.text .query = none) :
      Fails c context position token (.unknownAttribute e.displayName token.text position)
  | labelPath (h : token.kind = .attr) {e a} (he : context.entity = some e)
      (ha : e.attribute? token.text .query = some a) (hrelated : a.type.isRelationship = true)
      (hpath : a.labelPath?.bind Draft.joinsOf? = none) :
      Fails c context position token (.invalidLabelPath a.displayName)
  | operator (h : token.kind = .operator) (ho : Operator.resolve? token.text = none) :
      Fails c context position token (.unknownOperator token.text position)
  | missingAttribute (h : token.kind = .value) (ha : context.attr = none) :
      Fails c context position token (.missingAttribute token.text position)
  | literal (h : token.kind = .value) {a error} (ha : context.attr = some a)
      (hl : Literal.read a token.text c.readers = .error error) :
      Fails c context position token error
  | separator (h : token.kind = .separator) (hs : Separator.resolve? token.text = none) :
      Fails c context position token (.unknownSeparator token.text position)

namespace Part

variable {c : Catalog} {context : Context} {position : Nat} {token : Token} {a : Attribute}
  {error : CompileError}

theorem ofAttribute_eq_error :
    ofAttribute a = .error error ↔
      a.type.isRelationship = true ∧ a.labelPath?.bind Draft.joinsOf? = none ∧
        error = .invalidLabelPath a.displayName := by
  rw [ofAttribute]
  cases hrel : a.type.isRelationship with
  | false => simp
  | true =>
      cases hpath : a.labelPath?.bind Draft.joinsOf? with
      | none => simp [eq_comm]
      | some pair =>
          obtain ⟨joins, label⟩ := pair
          obtain ⟨path, -, hjoins⟩ := Option.bind_eq_some_iff.mp hpath
          obtain ⟨hop, hops, rfl⟩ :=
            List.exists_cons_of_ne_nil (Draft.joinsOf?_eq_some.mp hjoins).1
          simp

theorem ofToken_eq_error :
    ofToken c context position token = .error error ↔ Fails c context position token error := by
  constructor
  · intro h
    unfold ofToken at h
    split at h
    case h_5 hk =>
      split at h
      · rename_i he
        cases h
        exact .entity hk he
      · cases h
    case h_6 hk =>
      split at h
      · rename_i he
        cases h
        exact .missingEntity hk he
      · rename_i he
        split at h
        · rename_i ha
          cases h
          exact .attr hk he ha
        · rename_i ha
          obtain ⟨hrelated, hpath, rfl⟩ := ofAttribute_eq_error.mp h
          exact .labelPath hk he ha hrelated hpath
    case h_7 hk =>
      split at h
      · rename_i ho
        cases h
        exact .operator hk ho
      · cases h
    case h_8 hk =>
      split at h
      · rename_i ha
        cases h
        exact .missingAttribute hk ha
      · rename_i ha
        exact .literal hk ha (except_map_eq_error.mp h)
    case h_9 hk =>
      split at h
      · rename_i hs
        cases h
        exact .separator hk hs
      · cases h
    all_goals cases h
  · intro h
    unfold ofToken
    cases h with
    | entity h he | missingEntity h he => simp only [h, he]
    | attr h he ha => simp only [h, he, ha]
    | labelPath h he ha hrelated hpath =>
        simp only [h, he, ha]
        exact ofAttribute_eq_error.mpr ⟨hrelated, hpath, rfl⟩
    | operator h ho => simp only [h, ho]
    | missingAttribute h ha => simp only [h, ha]
    | literal h ha hl => simp only [h, ha, hl, except_map_error]
    | separator h hs => simp only [h, hs]

end Part

/-- The failure of a token is not one of a place. -/
theorem Fails.ne_misplaced {c : Catalog} {context : Context} {position : Nat} {token : Token}
    {error : CompileError} (h : Fails c context position token error) (offset : Nat) :
    error ≠ .misplacedSplice offset := by
  cases h with
  | literal _ _ hl =>
      rintro rfl
      rcases Literal.error_of_read hl with ⟨reason, hreason⟩ | ⟨-, -, htype⟩
      · cases hreason
      · cases htype
  | _ => nofun

namespace Catalog

variable {c : Catalog} {context : Context} {position : Nat} {caller : Caller} {tokens : List Token}
  {error : CompileError}

/-- Tokens fail at the first one that has no part. -/
theorem partsFrom_eq_error :
    c.partsFrom context position tokens = .error error ↔
      ∃ front token rest, tokens = front ++ token :: rest ∧ (∃ ps, ReadsAll c context front ps) ∧
        Fails c (front.foldl (Context.after c) context) (position + front.length) token error := by
  induction tokens generalizing context position with
  | nil => simp [partsFrom]
  | cons first tokens ih =>
      rw [partsFrom]
      cases hfirst : Part.ofToken c context position first with
      | error error' =>
          rw [except_error_bind, Except.error.injEq]
          have hfails := Part.ofToken_eq_error.mp hfirst
          constructor
          · rintro rfl
            exact ⟨[], first, tokens, rfl, ⟨[], .nil context⟩, hfails⟩
          · rintro ⟨_ | ⟨_, front⟩, token, rest, htokens, ⟨ps, hps⟩, htoken⟩
            · cases htokens
              exact Except.error.inj (hfirst.symm.trans (Part.ofToken_eq_error.mpr htoken))
            · -- the first token has no part, so it is not among those that have
              cases htokens
              cases hps with
              | cons hpart _ => simp [Part.ofToken_eq_ok.mpr hpart] at hfirst
      | ok part =>
          have hpart := Part.ofToken_eq_ok.mp hfirst
          rw [except_ok_bind]
          constructor
          · intro h
            cases hrest : c.partsFrom (context.after c first) (position + 1) tokens with
            | ok ps => simp [hrest] at h
            | error error' =>
                rw [hrest] at h
                cases h
                obtain ⟨front, token, rest, rfl, ⟨ps, hps⟩, htoken⟩ := ih.mp hrest
                refine ⟨first :: front, token, rest, rfl, ⟨_, .cons hpart hps⟩, ?_⟩
                rwa [List.length_cons, Nat.add_comm front.length, ← Nat.add_assoc]
          · rintro ⟨_ | ⟨_, front⟩, token, rest, htokens, ⟨ps, hps⟩, htoken⟩
            · cases htokens
              cases hfirst.symm.trans (Part.ofToken_eq_error.mpr htoken)
            · cases htokens
              cases hps with
              | cons _ hps =>
                  rw [List.length_cons, Nat.add_comm front.length, ← Nat.add_assoc] at htoken
                  rw [ih.mpr ⟨front, token, rest, rfl, ⟨_, hps⟩, htoken⟩]
                  rfl

end Catalog

/-! ## Filters that cannot be added -/

/-- A sheet that cannot be completed has no entity, or an entity whose filter needs a value that the
caller does not have, or conditions and a bound filter with a bracket in the wrong place. -/
theorem Sheet.error_of_finish {ps : List Part} (hnear : Layout.nearJoins [] 1 ps = [])
    {context : Context} {caller : Caller} {error : CompileError}
    (h : ((ofParts ps).draft context).finish caller = .error error) :
    context.entity = none ∧ error = .missingEntity ∨
      ∃ e filter, context.entity = some e ∧ e.filter = some filter ∧
        ((∃ name, error = .missingScope e.displayName name) ∨
          (∃ offset, error = .misplacedSplice offset) ∧ (Layout.splitHaving ps).isSome ∧
            ∃ bound, Draft.bindFilter e filter caller = .ok bound) := by
  rw [Draft.finish, draft_entity] at h
  cases he : context.entity with
  | none =>
      rw [he] at h
      exact .inl ⟨rfl, (Except.error.inj h).symm⟩
  | some e =>
      cases hfilter : e.filter with
      | none => simp [he, hfilter] at h
      | some filter =>
          refine .inr ⟨e, filter, rfl, hfilter, ?_⟩
          simp only [he, hfilter, addFilter_draft hnear] at h
          cases hbind : Draft.bindFilter e filter caller with
          | error error' =>
              rw [hbind] at h
              cases h
              exact .inl (Draft.bindFilter_eq_error hbind)
          | ok bound =>
              right
              cases hsplit : Layout.splitHaving ps with
              | none => simp [hbind, Layout.bracketed?, hsplit] at h
              | some pair =>
                  simp only [hbind, except_ok_bind] at h
                  cases htext : Layout.bracketed? ps with
                  | some text => simp [htext] at h
                  | none =>
                      rw [htext] at h
                      cases h
                      exact ⟨⟨_, rfl⟩, rfl, bound, rfl⟩

/-- A query that does not compile has a token without a part, or its filter cannot be added. -/
theorem Catalog.error_of_compile {c : Catalog} {caller : Caller} {tokens : List Token}
    {error : CompileError} (h : c.compile caller tokens = .error error) :
    (∃ front token rest, tokens = front ++ token :: rest ∧ (∃ ps, ReadsAll c .empty front ps) ∧
      Fails c (.of c front) front.length token error) ∨
    ∃ ps, ReadsAll c .empty tokens ps ∧
      ((Sheet.ofParts ps).draft (.of c tokens)).finish caller = .error error := by
  rw [compile_eq_finish] at h
  cases hparts : c.parts tokens with
  | error error' =>
      rw [hparts] at h
      cases h
      obtain ⟨front, token, rest, htokens, hfront, htoken⟩ := partsFrom_eq_error.mp hparts
      rw [Nat.zero_add] at htoken
      exact .inl ⟨front, token, rest, htokens, hfront, htoken⟩
  | ok ps =>
      rw [hparts, except_ok_bind] at h
      exact .inr ⟨ps, partsFrom_eq_ok.mp hparts, h⟩

end GuardedQuery
