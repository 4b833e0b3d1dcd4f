import GuardedQuery.Proofs.Earlier
import GuardedQuery.Proofs.Query.Compilation
import GuardedQuery.Proofs.Query.Mention
import GuardedQuery.Proofs.References

/-! # Aliases of a query

The text of a compiled query declares its aliases one after another, one for each hop that its
attributes join, and uses none before it is declared. -/

namespace GuardedQuery

open Mention (Adds Numbered Quiet root numbered)

/-! ## Joined hops -/

/-- The hops of the label path of a relationship, but for the last. -/
def Attribute.joinedHops (a : Attribute) : List String :=
  if a.type.isRelationship then (a.labelPath?.elim [] (Text.split '.')).dropLast else []

namespace Catalog

/-- The hops that a token behind `front` joins. -/
def hopsOf (c : Catalog) (front : List Token) (t : Token) : List String :=
  match c.reference? front t with
  | some (.attr a) => a.joinedHops
  | _ => []

/-- The hops that tokens join. Those of an attribute are joined as often as it is used. -/
def joinedHops (c : Catalog) (tokens : List Token) : List String :=
  (withEarlier tokens).flatMap fun (front, t) => c.hopsOf front t

end Catalog

theorem Reads.joinCount_eq {c : Catalog} {front : List Token} {t : Token} {p : Part}
    (h : Reads c (.of c front) t p) : p.joinCount = (c.hopsOf front t).length := by
  cases h with
  | @field hattr e a he ha hplain =>
      rw [Catalog.entity_of_eq_entityBehind?] at he
      simp [Catalog.hopsOf, Catalog.reference?, hattr, he, ha, Attribute.joinedHops, hplain,
        Part.joinCount]
  | @label hattr e a he ha hrelated hop hops field hpath =>
      obtain ⟨path, hlabel, hjoins⟩ := Option.bind_eq_some_iff.mp hpath
      rw [Catalog.entity_of_eq_entityBehind?] at he
      simp [Catalog.hopsOf, Catalog.reference?, hattr, he, ha, Attribute.joinedHops, hrelated,
        hlabel, ← (Draft.joinsOf?_eq_some.mp hjoins).2, Part.joinCount]
  | entity hentity he =>
      simp [Catalog.hopsOf, Catalog.reference?, hentity, he, Part.joinCount]
  | _ => simp_all [Catalog.hopsOf, Catalog.reference?, Part.joinCount]

theorem ReadsAll.joinCount_eq {c : Catalog} {front tokens : List Token} {ps : List Part}
    (h : ReadsAll c (.of c front) tokens ps) :
    Layout.joinCount ps =
      ((withEarlier tokens).flatMap fun (mid, t) => c.hopsOf (front ++ mid) t).length := by
  induction tokens generalizing front ps with
  | nil =>
      cases h
      rfl
  | cons t tokens ih =>
      cases h with
      | cons hp hps =>
          have hcontext : (Context.of c front).after c t = .of c (front ++ [t]) := by
            rw [Context.of, Context.of, List.foldl_append]
            rfl
          rw [hcontext] at hps
          simp only [Layout.joinCount_cons, hp.joinCount_eq, ih hps, withEarlier, List.flatMap_cons,
            List.flatMap_map, List.length_append, List.append_nil, List.append_assoc,
            List.singleton_append]

/-! ## Names -/

/-- The names that the catalog writes into a query hold no spaces, and the names of types no dots
either. Plain identifiers are such names. -/
def Catalog.PlainNames (c : Catalog) : Prop :=
  ∀ e ∈ c.entities, ('.' ∉ e.typeId.toList ∧ ' ' ∉ e.typeId.toList) ∧
    ∀ a ∈ e.attributes, ' ' ∉ a.name.toList ∧ ∀ path ∈ a.labelPath?, ' ' ∉ path.toList

instance (c : Catalog) : Decidable c.PlainNames :=
  inferInstanceAs (Decidable (∀ e ∈ c.entities, _))

/-- A part whose text is made of words, each with a space in front. -/
inductive Part.Worded : Part → Prop
  | quiet {word} (h : Quiet word) : Worded (.text (' ' :: word))
  | field {name} (h : ' ' ∉ name) : Worded (.text (Draft.fieldOf Draft.rootAlias name))
  | having : Worded .having
  | entity {e : Entity} (hdot : '.' ∉ e.typeId.toList) (hspace : ' ' ∉ e.typeId.toList) :
      Worded (.entity e)
  | label {hop hops field} (h : ∀ name ∈ field :: hop :: hops, ' ' ∉ name.toList) :
      Worded (.label hop hops field)
  | literal {l word} (h : Quiet word) (hl : l.fragment.toList = ' ' :: word) : Worded (.literal l)

theorem ParsedLiteral.worded_single (value : Value) : (Part.literal (single value)).Worded := by
  have hmark : " ?".toList = [' ', '?'] := by decide
  exact .literal (by decide) hmark

theorem ParsedLiteral.worded_list (values : List Value) : (Part.literal (list values)).Worded := by
  have hchars : ∀ c ∈ '(' :: ([','].intercalate (values.map fun _ => ['?']) ++ [')']),
      c = '(' ∨ c = ',' ∨ c = '?' ∨ c = ')' := by
    intro c hc
    rw [List.mem_cons, List.mem_append, List.mem_singleton] at hc
    rcases hc with rfl | hc | rfl
    · exact .inl rfl
    · exact (mem_placeholders hc).elim (fun h => .inr (.inl h)) (fun h => .inr (.inr (.inl h)))
    · exact .inr (.inr (.inr rfl))
  have hquiet : Quiet ('(' :: ([','].intercalate (values.map fun _ => ['?']) ++ [')'])) := by
    refine ⟨?_, ?_, by simp⟩
    · intro hspace
      simpa using hchars _ hspace
    · intro hdot
      simpa using hchars _ hdot
  have hopening : " (".toList = [' ', '('] := by decide
  have hclosing : ")".toList = [')'] := by decide
  apply Part.Worded.literal hquiet
  rw [toList_fragment_list, hopening, hclosing]
  simp

theorem Reads.worded {c : Catalog} {context : Context} {t : Token} {p : Part}
    (hnames : c.PlainNames) (hcontext : ∀ e, context.entity = some e → e ∈ c.entities)
    (h : Reads c context t p) (hfind : t.kind ≠ .find) : p.Worded := by
  cases h with
  | find h => exact absurd h hfind
  | having h => exact .having
  | openBracket h =>
      have hopening : " (".toList = [' ', '('] := by decide
      rw [hopening]
      exact .quiet (by decide)
  | closeBracket h =>
      have hclosing : " )".toList = [' ', ')'] := by decide
      rw [hclosing]
      exact .quiet (by decide)
  | @entity h e he =>
      have htype := (hnames e (List.mem_of_find?_eq_some he)).1
      exact .entity htype.1 htype.2
  | @field h e a he ha hplain =>
      exact .field ((hnames e (hcontext e he)).2 a (Entity.mem_of_attribute? ha)).1
  | @label h e a he ha hrelated hop hops field hpath =>
      obtain ⟨path, hlabel, hjoins⟩ := Option.bind_eq_some_iff.mp hpath
      have hspace := ((hnames e (hcontext e he)).2 a (Entity.mem_of_attribute? ha)).2 path hlabel
      exact .label fun name hname hmem => hspace (Draft.mem_of_joinsOf? hjoins hname hmem)
  | @operator h operator ho =>
      apply Part.Worded.quiet
      cases operator <;> decide
  | value h ha hl =>
      rcases Literal.shape_of_read hl with ⟨value, rfl⟩ | ⟨values, rfl⟩
      · exact ParsedLiteral.worded_single value
      · exact ParsedLiteral.worded_list values
  | @separator h separator hs =>
      apply Part.Worded.quiet
      cases separator <;> decide

theorem ReadsAll.worded {c : Catalog} {context : Context} {tokens : List Token} {ps : List Part}
    (hnames : c.PlainNames) (hcontext : ∀ e, context.entity = some e → e ∈ c.entities)
    (h : ReadsAll c context tokens ps) (hfind : ∀ t ∈ tokens, t.kind ≠ .find) :
    ∀ p ∈ ps, p.Worded := by
  induction h with
  | nil => simp
  | @cons context t tokens p ps hp _ ih =>
      rw [List.forall_mem_cons] at hfind ⊢
      exact ⟨hp.worded hnames hcontext hfind.1,
        ih (Context.entity_mem_after hcontext t) hfind.2⟩

/-! ## Texts -/

namespace Mention

/-- With the aliases before `n` declared, a text declares those from `n` to before `m`. -/
def Declares (text : List Char) (n m : Nat) : Prop :=
  ∃ ms, Adds text ms ∧ Numbered n ms m

theorem space_notMem_joinAlias (number : Nat) : ' ' ∉ Draft.joinAlias number :=
  Draft.notMem_joinAlias (by decide) (by decide) number

theorem dot_notMem_joinAlias (number : Nat) : '.' ∉ Draft.joinAlias number :=
  Draft.notMem_joinAlias (by decide) (by decide) number

namespace Declares

variable {text text' : List Char} {n m k : Nat}

theorem nil (n : Nat) : Declares [] n n :=
  ⟨[], .nil, .nil n⟩

theorem append (h : Declares text n m) (h' : Declares text' m k) :
    Declares (text ++ text') n k := by
  obtain ⟨ms, hms, hnumbers⟩ := h
  obtain ⟨ms', hms', hnumbers'⟩ := h'
  exact ⟨ms ++ ms', hms.append hms', hnumbers.append hnumbers'⟩

theorem join {source hop : List Char} (hdot : '.' ∉ source) (hspace : ' ' ∉ source)
    (hhop : ' ' ∉ hop)
    (hsource : String.ofList source = root ∨
      ∃ k, 1 ≤ k ∧ k + 1 = n ∧ String.ofList source = numbered k) :
    Declares (Draft.joinClause source hop (Draft.joinAlias n)) n (n + 1) :=
  ⟨_, .join hdot hspace hhop (space_notMem_joinAlias n), .join hsource (.nil _)⟩

end Declares

end Mention

namespace Layout

open Mention (Declares)

/-- The first join of a chain starts from the root, and each other one from the one before it. -/
theorem declares_chain {hops : List String} (h : ∀ hop ∈ hops, ' ' ∉ hop.toList) {number : Nat}
    (hnumber : 1 ≤ number) : Declares (chain number hops) number (number + hops.length) := by
  -- the hops from `k` on are joined in the same way for every `k` behind the first
  suffices hfrom : ∀ k, number ≤ k → Declares ((hops.zipIdx k).flatMap fun join =>
      Draft.joinClause (if join.2 = number then Draft.rootAlias else Draft.joinAlias (join.2 - 1))
        join.1.toList (Draft.joinAlias join.2)) k (k + hops.length) from
    hfrom number (Nat.le_refl number)
  induction hops with
  | nil => exact fun k _ => .nil k
  | cons hop hops ih =>
      intro k hk
      obtain ⟨hhop, hhops⟩ := List.forall_mem_cons.mp h
      rw [List.zipIdx_cons, List.flatMap_cons, List.length_cons, ← Nat.add_assoc,
        Nat.add_right_comm]
      refine .append ?_ (ih hhops (k + 1) (by omega))
      dsimp only
      by_cases hfirst : k = number
      · rw [if_pos hfirst]
        exact .join (by decide) (by decide) hhop (.inl rfl)
      · rw [if_neg hfirst]
        exact .join (Mention.dot_notMem_joinAlias _) (Mention.space_notMem_joinAlias _) hhop
          (.inr ⟨k - 1, by omega, by omega, rfl⟩)

theorem declares_joinText {p : Part} (h : p.Worded) {number : Nat} (hnumber : 1 ≤ number) :
    Declares (joinText number p) number (number + p.joinCount) := by
  cases h with
  | label h =>
      rw [List.forall_mem_cons] at h
      exact declares_chain h.2 hnumber
  | _ => exact .nil number

/-- In the place of its token a part uses only aliases that its joins and those before it
declare. -/
theorem declares_bodyText {p : Part} (h : p.Worded) {number n : Nat} (hnumber : 1 ≤ number)
    (hn : number + p.joinCount ≤ n) : Declares (bodyText number p) n n := by
  cases h with
  | quiet h => exact ⟨[], .quiet h, .nil n⟩
  | field h => exact ⟨_, .field (by decide) (by decide) h, .field (.inl rfl) (.nil n)⟩
  | having =>
      have hwhere : " WHERE".toList = ' ' :: "WHERE".toList := by decide
      refine ⟨[], ?_, .nil n⟩
      rw [bodyText, hwhere]
      exact .quiet (by decide)
  | entity hdot hspace => exact ⟨[], .entity hdot hspace, .nil n⟩
  | @label hop hops field h =>
      have halias := Adds.field (Mention.dot_notMem_joinAlias (number + hops.length))
        (Mention.space_notMem_joinAlias _) (h field (by simp))
      rw [Part.joinCount] at hn
      exact ⟨_, halias, .field (.inr ⟨number + hops.length, by omega, by omega, rfl⟩) (.nil n)⟩
  | literal h hl =>
      refine ⟨[], ?_, .nil n⟩
      rw [bodyText, hl]
      exact .quiet h

/-- The number of joins up to the next entity. -/
def nearCount : List Part → Nat
  | [] => 0
  | p :: ps => if p.isEntity then 0 else p.joinCount + nearCount ps

variable {ps : List Part} (h : ∀ p ∈ ps, p.Worded)

include h

theorem declares_nearJoins {number : Nat} (hnumber : 1 ≤ number) :
    Declares (nearJoins [] number ps) number (number + nearCount ps) := by
  induction ps generalizing number with
  | nil => exact .nil number
  | cons p ps ih =>
      obtain ⟨hp, hps⟩ := List.forall_mem_cons.mp h
      rw [nearJoins, nearCount]
      split
      · exact .nil number
      · rw [← Nat.add_assoc]
        exact (declares_joinText hp hnumber).append (ih hps (by omega))

/-- The joins up to the next entity stand in front of the text, and those behind each entity in
front of what follows it. -/
theorem declares_text {number : Nat} (hnumber : 1 ≤ number) :
    Declares (text [] number ps) (number + nearCount ps) (number + joinCount ps) := by
  induction ps generalizing number with
  | nil => exact .nil number
  | cons p ps ih =>
      obtain ⟨hp, hps⟩ := List.forall_mem_cons.mp h
      have hrest : Declares (text [] (number + p.joinCount) ps)
          (number + p.joinCount + nearCount ps) (number + p.joinCount + joinCount ps) :=
        ih hps (by omega)
      rw [text, nearCount, joinCount_cons, ← Nat.add_assoc]
      split
      · rename_i hentity
        have hcount := joinCount_of_isEntity hentity
        rw [hcount, Nat.add_zero] at hrest ⊢
        have hbody := declares_bodyText hp hnumber (n := number) (by omega)
        exact (hbody.append (declares_nearJoins hps hnumber)).append hrest
      · rw [List.append_nil, ← Nat.add_assoc]
        have hbody := declares_bodyText hp hnumber
          (n := number + p.joinCount + nearCount ps) (by omega)
        exact hbody.append hrest

end Layout

/-! ## Before the first entity -/

namespace Context

/-- Without an entity there is nothing to refer to. -/
theorem after_empty {c : Catalog} {t : Token} (h : t.kind ≠ .entity) :
    empty.after c t = empty := by
  unfold after
  split
  · rename_i hentity
    exact absurd hentity h
  · rfl
  · rfl

theorem of_no_entity (c : Catalog) {tokens : List Token} (h : ∀ t ∈ tokens, t.kind ≠ .entity) :
    of c tokens = empty := by
  induction tokens with
  | nil => rfl
  | cons t tokens ih =>
      rw [List.forall_mem_cons] at h
      rw [of, List.foldl_cons, after_empty h.1]
      exact ih h.2

theorem exists_first_entity {tokens : List Token} {named : Token} (hmem : named ∈ tokens)
    (hnamed : named.kind = .entity) :
    ∃ front first rest, tokens = front ++ first :: rest ∧ first.kind = .entity ∧
      ∀ t ∈ front, t.kind ≠ .entity := by
  obtain ⟨first, hfirst⟩ : ∃ first, tokens.find? (·.kind = .entity) = some first := by
    rw [← Option.isSome_iff_exists, List.find?_isSome]
    exact ⟨named, hmem, decide_eq_true hnamed⟩
  obtain ⟨hkind, front, rest, htokens, hfront⟩ := List.find?_eq_some_iff_append.mp hfirst
  exact ⟨front, first, rest, htokens, of_decide_eq_true hkind,
    fun t ht => by simpa using hfront t ht⟩

end Context

/-- Before the first entity no word holds a dot or is the beginning of a join. -/
theorem Reads.still {c : Catalog} {t : Token} {p : Part} (h : Reads c .empty t p)
    (hentity : t.kind ≠ .entity) (number : Nat) :
    '.' ∉ Layout.bodyText number p ∧ 'F' ∉ Layout.bodyText number p := by
  cases h with
  | find | having | openBracket | closeBracket =>
      rw [Layout.bodyText]
      decide
  | entity h => exact absurd h hentity
  | field _ he | label _ he => cases he
  | @operator _ operator =>
      rw [Layout.bodyText]
      cases operator <;> decide
  | value _ ha => cases ha
  | @separator _ separator =>
      rw [Layout.bodyText]
      cases separator <;> decide

theorem ReadsAll.still {c : Catalog} {tokens : List Token} {ps : List Part}
    (h : ReadsAll c .empty tokens ps) (hentity : ∀ t ∈ tokens, t.kind ≠ .entity) (number : Nat) :
    Layout.joinCount ps = 0 ∧ '.' ∉ Layout.body number ps ∧ 'F' ∉ Layout.body number ps := by
  induction tokens generalizing ps number with
  | nil =>
      cases h
      simp [Layout.body]
  | cons t tokens ih =>
      rw [List.forall_mem_cons] at hentity
      cases h with
      | @cons _ _ _ p _ hp hps =>
          rw [Context.after_empty hentity.1] at hps
          have hfirst := hp.still hentity.1 number
          obtain ⟨hcount, hdot, hletter⟩ := ih hps hentity.2 (number + p.joinCount)
          rw [Layout.joinCount_cons, hp.joinCount_eq_zero rfl, hcount, Layout.body, List.mem_append,
            List.mem_append, not_or, not_or]
          exact ⟨rfl, ⟨hfirst.1, hdot⟩, hfirst.2, hletter⟩

/-! ## Whole queries -/

/-- No find keyword follows an entity. -/
def FindsBeforeEntities (tokens : List Token) : Prop :=
  ∀ front named rest, tokens = front ++ named :: rest → named.kind = .entity →
    ∀ t ∈ rest, t.kind ≠ .find

section Compilation

variable {c : Catalog} {caller : Caller} {tokens : List Token} {q : CompiledQuery}

/-- The text of a query declares its aliases in turn. -/
theorem Catalog.numbered_of_compile (hnames : c.PlainNames) (hfind : FindsBeforeEntities tokens)
    (hfilter : ∀ e, c.entityBehind? tokens = some e → e.filter = none)
    (h : c.compile caller tokens = .ok q) :
    Numbered 1 (Mention.ofText q.text) (1 + (c.joinedHops tokens).length) := by
  obtain ⟨ps, e, hreads, he, hcompletes⟩ := compile_eq_ok.mp h
  have hcount : Layout.joinCount ps = (c.joinedHops tokens).length :=
    @ReadsAll.joinCount_eq c [] tokens ps hreads
  obtain ⟨_, named, _, htokens, hnamed, -, -⟩ := Context.exists_of_entity he
  have hmem : named ∈ tokens := by simp [htokens]
  obtain ⟨front, first, rest, rfl, hfirst, hfront⟩ := Context.exists_first_entity hmem hnamed
  obtain ⟨before, back, rfl, hbefore, hback⟩ := ReadsAll.append_iff.mp hreads
  have hcontext := Context.of_no_entity c hfront
  rw [Context.of] at hcontext
  rw [hcontext] at hback
  have hworded : ∀ p ∈ back, p.Worded := by
    apply hback.worded hnames (by simp [Context.empty])
    rw [List.forall_mem_cons]
    exact ⟨by simp [hfirst], hfind front first rest rfl hfirst⟩
  cases hback with
  | @cons _ _ _ p after hp hafter =>
      have hentity : p.isEntity = true := hp.isEntity.mpr hfirst
      obtain ⟨hjoins, hdot, hletter⟩ := hbefore.still hfront 1
      have hplain : ∀ p ∈ before, p.isEntity = false := hbefore.no_part Reads.isEntity hfront
      have htext : Layout.text [] 1 (before ++ p :: after) =
          Layout.body 1 before ++ Layout.text [] 1 (p :: after) := by
        rw [Layout.text_append, Layout.text_of_no_entity hplain, hjoins]
      obtain ⟨ms, hadds, hnumbered⟩ := Layout.declares_text hworded (Nat.le_refl 1)
      have hnear : Layout.nearCount (p :: after) = 0 := by rw [Layout.nearCount, if_pos hentity]
      rw [hnear, Nat.add_zero] at hnumbered
      rw [Layout.joinCount_append, hjoins, Nat.zero_add] at hcount
      cases hcompletes with
      | plain =>
          rw [htext, Mention.ofText_append hdot hletter hadds, ← hcount]
          exact hnumbered
      | filtered hsome =>
          rw [hfilter e (entity_of_eq_entityBehind? c _ ▸ he)] at hsome
          cases hsome

/-- The joins of a compiled query declare the aliases from one on, each once, as many as there are
hops to join. Every join starts from the root or from the join directly before it, and a field is
one of the root or of an alias that a join in front of it declares. -/
theorem compile_declares_aliases (hnames : c.PlainNames) (hfind : FindsBeforeEntities tokens)
    (hfilter : ∀ e, c.entityBehind? tokens = some e → e.filter = none)
    (h : c.compile caller tokens = .ok q) :
    (Mention.ofText q.text).filterMap Mention.target? =
        (List.range' 1 (c.joinedHops tokens).length).map numbered ∧
      ((Mention.ofText q.text).filterMap Mention.target?).Nodup ∧
      (∀ front source target behind,
        Mention.ofText q.text = front ++ .join source target :: behind →
          source = root ∨ (front.filterMap Mention.target?).getLast? = some source) ∧
      ∀ front source behind, Mention.ofText q.text = front ++ .field source :: behind →
        source = root ∨ source ∈ front.filterMap Mention.target? := by
  have hnumbered := Catalog.numbered_of_compile hnames hfind hfilter h
  have htargets := hnumbered.targets_eq
  refine ⟨htargets, ?_, ?_, ?_⟩
  · rw [htargets]
    exact (List.nodup_range').map Mention.numbered_injective
  · intro front source target behind heq
    rw [heq] at hnumbered
    obtain ⟨m, hfront, hjoin⟩ := hnumbered.exists_of_append
    obtain ⟨count, rfl, hdeclared⟩ := hfront.exists_targets_eq
    cases hjoin with
    | join hsource =>
        refine hsource.imp_right ?_
        rintro ⟨k, hk, hlast, rfl⟩
        obtain rfl : count = k := by omega
        obtain ⟨k, rfl⟩ := Nat.exists_eq_add_of_le' hk
        rw [hdeclared, List.range'_concat, List.map_append, List.map_singleton,
          List.getLast?_concat]
        congr 2
        omega
  · intro front source behind heq
    rw [heq] at hnumbered
    obtain ⟨m, hfront, hfield⟩ := hnumbered.exists_of_append
    obtain ⟨count, rfl, hdeclared⟩ := hfront.exists_targets_eq
    cases hfield with
    | field hsource =>
        refine hsource.imp_right ?_
        rintro ⟨k, hk, hbound, rfl⟩
        rw [hdeclared]
        exact List.mem_map_of_mem (List.mem_range'_1.mpr ⟨hk, hbound⟩)

end Compilation

/-! ### Employees -/

namespace Offices

def department : Attribute :=
  ((Attribute.new "department" "Department" (.reference "Department")).withLabel "name").ownedBy
    "Employee" .unrestricted

def managerCity : Attribute :=
  ((Attribute.new "manager" "Manager City" (.reference "Employee")).withLabelPath
    "manager.address.city").ownedBy "Employee" .unrestricted

def catalog : Catalog :=
  (Catalog.new "find").withEntities
    [(Entity.new "Employee" "Employee").withAttributes [department, managerCity]]

/-- Employees, named twice, with conditions behind each of the names. -/
def tokens : List Token :=
  [⟨.find, "find"⟩, ⟨.entity, "Employee"⟩, ⟨.having, "having"⟩, ⟨.attr, "Manager City"⟩,
    ⟨.operator, "in"⟩, ⟨.value, "Rome"⟩, ⟨.separator, "or"⟩, ⟨.attr, "Department"⟩,
    ⟨.operator, "in"⟩, ⟨.value, "Sales"⟩, ⟨.entity, "Employee"⟩, ⟨.separator, "and"⟩,
    ⟨.attr, "Department"⟩, ⟨.operator, "in"⟩, ⟨.value, "Law"⟩]

def query : CompiledQuery :=
  ⟨"SELECT DISTINCT x FROM Employee x LEFT JOIN x.manager x1 LEFT JOIN x1.address x2 " ++
      "LEFT JOIN x.department x3 WHERE x2.city IN (?) OR x3.name IN (?) x FROM Employee x " ++
      "LEFT JOIN x.department x4 AND x4.name IN (?)",
    [.string "Rome", .string "Sales", .string "Law"]⟩

theorem findsBeforeEntities_tokens : FindsBeforeEntities tokens := by
  rintro (_ | ⟨first, front⟩) named rest htokens hnamed t ht
  · obtain ⟨rfl, -⟩ := List.cons.inj htokens
    cases hnamed
  · have hrest : ∀ t ∈ tokens.tail, t.kind ≠ .find := by decide
    exact hrest t (by simp [htokens, ht])

end Offices

/-- A city takes two joins, and a department that is used twice takes two more. -/
theorem compile_offices_declares_aliases :
    Offices.catalog.PlainNames ∧ FindsBeforeEntities Offices.tokens ∧
      Offices.catalog.compile .anonymous Offices.tokens = .ok Offices.query ∧
      Offices.catalog.joinedHops Offices.tokens = ["manager", "address", "department", "department"] ∧
      (Mention.ofText Offices.query.text).filterMap Mention.target? = ["x1", "x2", "x3", "x4"] := by
  have hnames : Offices.catalog.PlainNames := by decide +kernel
  have hcompile : Offices.catalog.compile .anonymous Offices.tokens = .ok Offices.query := by
    decide +kernel
  have hhops : Offices.catalog.joinedHops Offices.tokens =
      ["manager", "address", "department", "department"] := by decide +kernel
  have hfilter : ∀ e, Offices.catalog.entityBehind? Offices.tokens = some e → e.filter = none := by
    intro e he
    cases he
    rfl
  have htargets :=
    (compile_declares_aliases hnames Offices.findsBeforeEntities_tokens hfilter hcompile).1
  refine ⟨hnames, Offices.findsBeforeEntities_tokens, hcompile, hhops, ?_⟩
  rw [htargets, hhops]
  decide +kernel

end GuardedQuery
