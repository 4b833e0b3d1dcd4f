import GuardedQuery.Proofs.Query.Binding
import GuardedQuery.Proofs.Query.Compilation

/-! # Texts do not depend on values

Two queries that differ in nothing but the values they compare with compile to the same text,
whatever the values are and whoever the callers are. Only the number of items of a list can be
seen. -/

namespace GuardedQuery

/-! ## Queries with other values -/

/-- The same token, up to the text of a value. -/
structure Token.SameButValue (t u : Token) : Prop where
  kind : t.kind = u.kind
  text : t.kind ≠ .value → t.text = u.text

/-- Where a relationship is compared with the tokens, they list the same number of items. -/
def Context.SameItemCount (context : Context) (t u : Token) : Prop :=
  t.kind = .value → ∀ a, context.attr = some a → a.type.isRelationship = true →
    (Literal.items t.text).length = (Literal.items u.text).length

/-- Two queries behind a context that are the same up to their values. -/
inductive SameButValues (c : Catalog) : Context → List Token → List Token → Prop
  | nil (context) : SameButValues c context [] []
  | cons {context t u tokens others} (htoken : t.SameButValue u)
      (hitems : context.SameItemCount t u)
      (hrest : SameButValues c (context.after c t) tokens others) :
      SameButValues c context (t :: tokens) (u :: others)

theorem Token.SameButValue.eq_of_ne_value {t u : Token} (h : t.SameButValue u)
    (hkind : t.kind ≠ .value) : t = u := by
  cases t
  cases u
  obtain rfl := h.kind
  obtain rfl := h.text hkind
  rfl

theorem Context.after_eq_of_sameButValue (c : Catalog) (context : Context) {t u : Token}
    (h : t.SameButValue u) : context.after c t = context.after c u := by
  by_cases hkind : t.kind = .value
  · have hother : u.kind = .value := h.kind.symm.trans hkind
    simp only [after, hkind, hother]
  · rw [h.eq_of_ne_value hkind]

theorem SameButValues.foldl_after_eq {c : Catalog} {context : Context} {tokens others : List Token}
    (h : SameButValues c context tokens others) :
    tokens.foldl (Context.after c) context = others.foldl (Context.after c) context := by
  induction h with
  | nil => rfl
  | cons htoken _ _ ih =>
      rw [List.foldl_cons, List.foldl_cons, ih, Context.after_eq_of_sameButValue c _ htoken]

/-! ## Parts with other values -/

namespace Part

/-- A part without the values of its placeholders. -/
def outline : Part → Part
  | .literal l => .literal ⟨l.fragment, []⟩
  | p => p

@[simp] theorem isEntity_outline (p : Part) : p.outline.isEntity = p.isEntity := by
  cases p <;> rfl

@[simp] theorem isHaving_outline (p : Part) : p.outline.isHaving = p.isHaving := by
  cases p <;> rfl

@[simp] theorem joinCount_outline (p : Part) : p.outline.joinCount = p.joinCount := by
  cases p <;> rfl

end Part

/-- What a literal writes depends on the attribute, and for a relationship on the number of
items. -/
theorem Literal.fragment_of_read {a : Attribute} {literal : String} {readers : LiteralReaders}
    {l : ParsedLiteral} (h : Literal.read a literal readers = .ok l) :
    l.fragment =
      if a.type.isRelationship then
        " (" ++ String.intercalate "," (List.replicate (items literal).length "?") ++ ")"
      else " ?" := by
  by_cases hrel : a.type.isRelationship = true
  · rw [if_pos hrel, (Literal.eq_list_of_read hrel h).2]
    simp [ParsedLiteral.list, Function.comp_def, List.map_const']
  · obtain ⟨value, rfl⟩ := Literal.eq_single_of_read (Bool.eq_false_iff.mpr hrel) h
    rw [if_neg hrel]
    rfl

namespace Reads

variable {c : Catalog} {context : Context} {t u : Token} {p r : Part}

theorem unique (hp : Reads c context t p) (hr : Reads c context t r) : p = r :=
  Except.ok.inj
    (((@Part.ofToken_eq_ok c context 0 t p).mpr hp).symm.trans (Part.ofToken_eq_ok.mpr hr))

/-- Tokens that are the same up to a value have the same part up to the values. -/
theorem outline_eq (hp : Reads c context t p) (hr : Reads c context u r)
    (htoken : t.SameButValue u) (hitems : context.SameItemCount t u) : p.outline = r.outline := by
  by_cases hkind : t.kind = .value
  · have hother : u.kind = .value := htoken.kind.symm.trans hkind
    cases hp with
    | @value _ a l ha hl =>
        cases hr with
        | @value _ b m hb hm =>
            -- both values stand in one context, so they are read for the same attribute
            obtain rfl := Option.some.inj (ha.symm.trans hb)
            have hfragment : l.fragment = m.fragment := by
              rw [Literal.fragment_of_read hl, Literal.fragment_of_read hm]
              by_cases hrelated : a.type.isRelationship = true
              · rw [hitems hkind a ha hrelated]
              · rw [if_neg hrelated, if_neg hrelated]
            rw [Part.outline, Part.outline, hfragment]
        | _ => simp_all
    | _ => simp_all
  · obtain rfl := htoken.eq_of_ne_value hkind
    rw [hp.unique hr]

end Reads

theorem ReadsAll.outline_eq {c : Catalog} {context : Context} {tokens others : List Token}
    {ps rs : List Part} (h : SameButValues c context tokens others)
    (hps : ReadsAll c context tokens ps) (hrs : ReadsAll c context others rs) :
    ps.map Part.outline = rs.map Part.outline := by
  induction h generalizing ps rs with
  | nil =>
      cases hps
      cases hrs
      rfl
  | cons htoken hitems _ ih =>
      cases hps with
      | cons hp hps =>
          cases hrs with
          | cons hr hrs =>
              rw [← Context.after_eq_of_sameButValue c _ htoken] at hrs
              rw [List.map_cons, List.map_cons, hp.outline_eq hr htoken hitems, ih hps hrs]

/-! ## Layout without values -/

namespace Layout

@[simp] theorem joinText_outline (number : Nat) (p : Part) :
    joinText number p.outline = joinText number p := by
  cases p <;> rfl

@[simp] theorem bodyText_outline (number : Nat) (p : Part) :
    bodyText number p.outline = bodyText number p := by
  cases p <;> rfl

theorem joinCount_map_outline (ps : List Part) : joinCount (ps.map Part.outline) = joinCount ps := by
  induction ps with
  | nil => rfl
  | cons p ps ih => simp [ih]

theorem joins_map_outline (number : Nat) (ps : List Part) :
    joins number (ps.map Part.outline) = joins number ps := by
  induction ps generalizing number with
  | nil => rfl
  | cons p ps ih => simp [joins, ih]

theorem nearJoins_map_outline (more : List Char) (number : Nat) (ps : List Part) :
    nearJoins more number (ps.map Part.outline) = nearJoins more number ps := by
  induction ps generalizing number with
  | nil => rfl
  | cons p ps ih => simp [nearJoins, ih]

theorem farJoins_map_outline (number : Nat) (ps : List Part) :
    farJoins number (ps.map Part.outline) = farJoins number ps := by
  induction ps generalizing number with
  | nil => rfl
  | cons p ps ih => simp [farJoins, joins_map_outline, ih]

theorem text_map_outline (more : List Char) (number : Nat) (ps : List Part) :
    text more number (ps.map Part.outline) = text more number ps := by
  induction ps generalizing number with
  | nil => rfl
  | cons p ps ih => simp [text, nearJoins_map_outline, ih]

theorem splitHaving_map_outline (ps : List Part) :
    splitHaving (ps.map Part.outline) =
      (splitHaving ps).map fun (front, conditions) =>
        (front.map Part.outline, conditions.map Part.outline) := by
  induction ps with
  | nil => rfl
  | cons p ps ih =>
      rw [List.map_cons, splitHaving, splitHaving, ih, Part.isHaving_outline]
      cases splitHaving ps with
      | some pair => rfl
      | none =>
          cases p.isHaving with
          | true => rfl
          | false => rfl

theorem bracketed?_map_outline (ps : List Part) :
    bracketed? (ps.map Part.outline) = bracketed? ps := by
  rw [bracketed?, bracketed?, splitHaving_map_outline]
  cases splitHaving ps with
  | none => exact congrArg some (text_map_outline [] 1 ps)
  | some pair =>
      simp only [Option.map_some, drift, opening, conditionText, joinCount_map_outline,
        farJoins_map_outline, nearJoins_map_outline, text_map_outline]

theorem closing_map_outline (ps : List Part) (condition : List Char) :
    closing (ps.map Part.outline) condition = closing ps condition := by
  have hhaving : Part.isHaving ∘ Part.outline = Part.isHaving := funext Part.isHaving_outline
  rw [closing, closing, List.any_map, hhaving]

end Layout

theorem Completes.text_eq {caller other : Caller} {ps rs : List Part} {e : Entity}
    {q r : CompiledQuery} (h : ps.map Part.outline = rs.map Part.outline)
    (hq : Completes caller ps e q) (hr : Completes other rs e r) : q.text = r.text := by
  cases hq with
  | plain hfilter =>
      cases hr with
      | plain _ =>
          have htext : Layout.text [] 1 ps = Layout.text [] 1 rs := by
            rw [← Layout.text_map_outline, h, Layout.text_map_outline]
          rw [htext]
      | filtered hsome _ _ => simp [hfilter] at hsome
  | @filtered filter condition _ text hfilter hbind htext =>
      cases hr with
      | plain hnone => simp [hfilter] at hnone
      | @filtered filter' condition' _ text' hfilter' hbind' htext' =>
          obtain rfl := Option.some.inj (hfilter.symm.trans hfilter')
          obtain ⟨rfl, -⟩ := Draft.bindFilter_eq_ok.mp hbind
          obtain ⟨rfl, -⟩ := Draft.bindFilter_eq_ok.mp hbind'
          have hsame : text = text' := by
            rw [← Layout.bracketed?_map_outline, h, Layout.bracketed?_map_outline, htext'] at htext
            exact (Option.some.inj htext).symm
          have hclosing : Layout.closing ps (Placeholder.marked filter) =
              Layout.closing rs (Placeholder.marked filter) := by
            rw [← Layout.closing_map_outline, h, Layout.closing_map_outline]
          rw [hsame, hclosing]

/-- Queries that are the same up to their values compile to the same text, if they compile. Nothing
is asked of the callers, whose values for the names in the filter may differ. -/
theorem compile_text_eq_of_sameButValues {c : Catalog} {caller other : Caller}
    {tokens others : List Token} {q r : CompiledQuery}
    (h : SameButValues c .empty tokens others) (hq : c.compile caller tokens = .ok q)
    (hr : c.compile other others = .ok r) : q.text = r.text := by
  obtain ⟨ps, e, hps, he, hcompletes⟩ := Catalog.compile_eq_ok.mp hq
  obtain ⟨rs, e', hrs, he', hcompletes'⟩ := Catalog.compile_eq_ok.mp hr
  have hcontext : Context.of c tokens = Context.of c others := h.foldl_after_eq
  rw [hcontext, he', Option.some.injEq] at he
  subst he
  exact hcompletes.text_eq (ReadsAll.outline_eq h hps hrs) hcompletes'

/-! ### Text of the store in the places of values -/

namespace Documents

/-- A query whose values try to close quotes and brackets. -/
def injected : List Token :=
  [⟨.find, "find"⟩, ⟨.entity, "Document"⟩, ⟨.having, "having"⟩, ⟨.attr, "Title"⟩, ⟨.operator, "="⟩,
    ⟨.value, "' OR '1' = '1"⟩, ⟨.separator, "and"⟩, ⟨.attr, "Owner"⟩, ⟨.operator, "in"⟩,
    ⟨.value, "Ada) OR (1 = 1,?:tenant"⟩]

def injectedParts : List Part :=
  [.text "SELECT DISTINCT".toList, .entity (document "Document"), .having, .text " x.title".toList,
    .text " =".toList, .literal (.single (.string "' OR '1' = '1")), .text " AND".toList,
    .label "owner" [] "name", .text " IN".toList,
    .literal (.list [.string "Ada) OR (1 = 1", .string "?:tenant"])]

def intruder : Caller := Caller.anonymous.withScope "tenant" (.string "0 OR 1 = 1")

theorem sameButValues_injected :
    SameButValues (catalog "Document") .empty titledAndOwned injected := by
  have hone : (Literal.items "?").length = (Literal.items "' OR '1' = '1").length := by
    decide +kernel
  have htwo : (Literal.items "Ada,Bob").length =
      (Literal.items "Ada) OR (1 = 1,?:tenant").length := by decide +kernel
  refine .cons ⟨rfl, fun _ => rfl⟩ (by rintro ⟨⟩) (.cons ⟨rfl, fun _ => rfl⟩ (by rintro ⟨⟩) ?_)
  refine .cons ⟨rfl, fun _ => rfl⟩ (by rintro ⟨⟩) (.cons ⟨rfl, fun _ => rfl⟩ (by rintro ⟨⟩) ?_)
  refine .cons ⟨rfl, fun _ => rfl⟩ (by rintro ⟨⟩) (.cons ⟨rfl, absurd rfl⟩ (fun _ _ _ _ => hone) ?_)
  refine .cons ⟨rfl, fun _ => rfl⟩ (by rintro ⟨⟩) (.cons ⟨rfl, fun _ => rfl⟩ (by rintro ⟨⟩) ?_)
  refine .cons ⟨rfl, fun _ => rfl⟩ (by rintro ⟨⟩) (.cons ⟨rfl, absurd rfl⟩ (fun _ _ _ _ => htwo) ?_)
  exact .nil _

theorem compile_injected :
    ∃ text, (catalog "Document").compile intruder injected =
      .ok ⟨text, [.string "' OR '1' = '1", .string "Ada) OR (1 = 1", .string "?:tenant",
        .string "0 OR 1 = 1"]⟩ := by
  have hparts : (catalog "Document").parts injected = .ok injectedParts := by decide +kernel
  have hentity : (Context.of (catalog "Document") injected).entity =
      some (document "Document") := by decide +kernel
  have hbind : Draft.bindFilter (document "Document") "x.tenant = :tenant" intruder =
      .ok ("x.tenant = ?".toList, [.string "0 OR 1 = 1"]) := by decide +kernel
  have hbracketed : Layout.bracketed? injectedParts = Layout.bracketed? titledAndOwnedParts := by
    rw [← Layout.bracketed?_map_outline, ← Layout.bracketed?_map_outline titledAndOwnedParts]
    rfl
  have hcompletes := Completes.filtered rfl hbind (hbracketed.trans bracketed_titledAndOwned)
  exact ⟨_, Catalog.compile_eq_ok.mpr
    ⟨_, _, Catalog.partsFrom_eq_ok.mp hparts, hentity, hcompletes⟩⟩

end Documents

/-- Values that look like text of the store stay values. -/
theorem compile_text_eq_injected :
    SameButValues (Documents.catalog "Document") .empty Documents.titledAndOwned
        Documents.injected ∧
      (Documents.catalog "Document").compile Documents.caller Documents.titledAndOwned =
        .ok Documents.titledAndOwnedQuery ∧
      (Documents.catalog "Document").compile Documents.intruder Documents.injected =
        .ok ⟨Documents.titledAndOwnedQuery.text,
          [.string "' OR '1' = '1", .string "Ada) OR (1 = 1", .string "?:tenant",
            .string "0 OR 1 = 1"]⟩ := by
  obtain ⟨text, hinjected⟩ := Documents.compile_injected
  have htext := compile_text_eq_of_sameButValues Documents.sameButValues_injected
    Documents.compile_titledAndOwned hinjected
  rw [htext]
  exact ⟨Documents.sameButValues_injected, Documents.compile_titledAndOwned, hinjected⟩

end GuardedQuery
