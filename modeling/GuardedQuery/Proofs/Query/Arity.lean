import GuardedQuery.Proofs.Except
import GuardedQuery.Proofs.Query.Literal
import GuardedQuery.Query.Compile

/-! # Arity and placeholders

An operator takes one value or a list of them, and a literal is read as one value or as a list. The
first is decided by the operator and the second by the type of the attribute. They agree on every
operator that is offered for an attribute, but for a text that is to be in a list. -/

namespace GuardedQuery

namespace ParsedLiteral

/-- One bare placeholder, with its value. -/
def IsBare (l : ParsedLiteral) : Prop :=
  l.fragment = " ?" ∧ l.values.length = 1

/-- Placeholders in parentheses, one for every value. -/
def IsList (l : ParsedLiteral) : Prop :=
  l.values ≠ [] ∧
    l.fragment = " (" ++ String.intercalate "," (List.replicate l.values.length "?") ++ ")"

/-- The placeholders have the form that operators of an arity take, and no other. -/
def Suits (l : ParsedLiteral) (arity : Arity) : Prop :=
  (l.IsList ↔ arity = .multiple) ∧ (l.IsBare ↔ arity = .single)

theorem isBare_single (value : Value) : (single value).IsBare := ⟨rfl, rfl⟩

theorem isList_list {values : List Value} (h : values ≠ []) : (list values).IsList :=
  ⟨h, by simp only [list, List.map_const']⟩

/-- A fragment is bare or in parentheses, but not both. -/
theorem not_isBare_of_isList {l : ParsedLiteral} (h : l.IsList) : ¬l.IsBare := by
  rintro ⟨hbare, -⟩
  have hchars := congrArg String.toList (h.2.symm.trans hbare)
  rw [String.toList_append, String.toList_append] at hchars
  have hopening : " (".toList = [' ', '('] := by decide
  have hmark : " ?".toList = [' ', '?'] := by decide
  rw [hopening, hmark] at hchars
  simp at hchars

theorem suits_of_isBare {l : ParsedLiteral} (h : l.IsBare) {arity : Arity} :
    l.Suits arity ↔ arity = .single := by
  have hlist : ¬l.IsList := fun hlist => not_isBare_of_isList hlist h
  cases arity with
  | single => simp [Suits, h, hlist]
  | multiple => simp [Suits, h]

theorem suits_of_isList {l : ParsedLiteral} (h : l.IsList) {arity : Arity} :
    l.Suits arity ↔ arity = .multiple := by
  have hbare := not_isBare_of_isList h
  cases arity with
  | single => simp [Suits, h]
  | multiple => simp [Suits, h, hbare]

end ParsedLiteral

namespace Operator

/-- The name that an operator is offered under leads back to it. -/
theorem resolve?_displayName (operator : Operator) :
    resolve? operator.displayName = some operator := by
  cases operator <;> rfl

theorem arity_eq_single {operator : Operator} : operator.arity = .single ↔ operator ≠ .isIn := by
  cases operator <;> simp [arity]

/-- Only texts and relationships are offered to be in a list, and relationships nothing else. -/
theorem isIn_mem_applicable {kind : ValueKind} :
    .isIn ∈ applicable kind ↔ kind = .text ∨ kind = .relationship := by
  cases kind <;> simp [applicable]

theorem eq_isIn_of_relationship {operator : Operator}
    (h : operator ∈ applicable .relationship) : operator = .isIn := by
  simpa [applicable] using h

end Operator

theorem ValueType.kind_eq_text {t : ValueType} : t.kind = .text ↔ t = .text := by
  cases t <;> simp [kind]

/-- Behind an attribute, an operator and a literal add the symbol of the one and the placeholders of
the other to the text, and the values to the parameters. -/
theorem Draft.steps_operator_value {c : Catalog} {d : Draft} {a : Attribute} {literal : String}
    {l : ParsedLiteral} (operator : Operator) (position : Nat) (hattr : d.attr = some a)
    (hl : Literal.read a literal c.readers = .ok l) :
    d.steps c position [⟨.operator, operator.displayName⟩, ⟨.value, literal⟩] =
      .ok { d with
        text := d.text ++ ' ' :: operator.symbol.toList ++ l.fragment.toList
        parameters := d.parameters ++ l.values } := by
  simp only [steps, step, Operator.resolve?_displayName, write, except_ok_bind, hattr, hl]

/-- The placeholders behind an offered operator have the form that its arity takes, in all cases but
one: a text that is to be in a list is one bare placeholder, with all that was typed as its
value. -/
theorem placeholders_suit_iff {c : Catalog} {a : Attribute} {operator : Operator}
    (hoffered : operator ∈ Operator.applicable a.type.kind) {literal : String} {l : ParsedLiteral}
    (hl : Literal.read a literal c.readers = .ok l) :
    (∀ d position, d.attr = some a →
      Draft.steps c d position [⟨.operator, operator.displayName⟩, ⟨.value, literal⟩] =
        .ok { d with
          text := d.text ++ ' ' :: operator.symbol.toList ++ l.fragment.toList
          parameters := d.parameters ++ l.values }) ∧
    (l.Suits operator.arity ↔ ¬(a.type = .text ∧ operator = .isIn)) ∧
    (a.type = .text → l = .single (.string literal)) := by
  refine ⟨fun d position hattr => Draft.steps_operator_value operator position hattr hl, ?_, ?_⟩
  · by_cases hrel : a.type.isRelationship = true
    · obtain ⟨hitems, rfl⟩ := Literal.eq_list_of_read hrel hl
      have hkind := ValueType.isRelationship_iff_kind.mp hrel
      have hvalues : (Literal.items literal).map Value.string ≠ [] :=
        mt List.map_eq_nil_iff.mp hitems
      have hlist := ParsedLiteral.isList_list hvalues
      obtain rfl := Operator.eq_isIn_of_relationship (hkind ▸ hoffered)
      have htext : a.type ≠ .text := by
        intro htext
        rw [htext] at hkind
        cases hkind
      simp [ParsedLiteral.suits_of_isList hlist, htext, Operator.arity]
    · obtain ⟨value, rfl⟩ := Literal.eq_single_of_read (Bool.eq_false_iff.mpr hrel) hl
      rw [ParsedLiteral.suits_of_isBare (ParsedLiteral.isBare_single value),
        Operator.arity_eq_single, not_and]
      constructor
      · intro hne _
        exact hne
      · intro hother hisIn
        -- the only kinds that offer a list are texts and relationships
        rw [hisIn, Operator.isIn_mem_applicable] at hoffered
        rcases hoffered with htext | hkind
        · exact hother (ValueType.kind_eq_text.mp htext) hisIn
        · exact hrel (ValueType.isRelationship_iff_kind.mpr hkind)
  · intro htext
    have hkind : a.type.kind = .text := ValueType.kind_eq_text.mpr htext
    simp only [Literal.read, hkind] at hl
    exact (Except.ok.inj hl).symm

/-! ### Books -/

namespace Books

def title : Attribute := (Attribute.new "title" "Title" .text).ownedBy "Book" .unrestricted

def authors : Attribute :=
  ((Attribute.new "authors" "Authors" (.collection "Person")).withLabel "name").ownedBy "Book"
    .unrestricted

def book : Entity := (Entity.new "Book" "Book").withAttributes [title, authors]

def catalog : Catalog := (Catalog.new "find").withEntities [book]

/-- Books of which an attribute is in a list. -/
def listed (name literal : String) : List Token :=
  [⟨.find, "find"⟩, ⟨.entity, "Book"⟩, ⟨.having, "having"⟩, ⟨.attr, name⟩, ⟨.operator, "in"⟩,
    ⟨.value, literal⟩]

end Books

/-- Two authors are a list of two placeholders. -/
theorem placeholders_suit_authors :
    Books.catalog.validate = .ok () ∧ Books.authors ∈ Books.book.attributes ∧
      Literal.read Books.authors "Austen,Eliot" Books.catalog.readers =
        .ok ⟨" (?,?)", [.string "Austen", .string "Eliot"]⟩ ∧
      (⟨" (?,?)", [.string "Austen", .string "Eliot"]⟩ : ParsedLiteral).Suits
        Operator.isIn.arity := by
  have hoffered : .isIn ∈ Operator.applicable Books.authors.type.kind := by decide
  have hread : Literal.read Books.authors "Austen,Eliot" Books.catalog.readers =
      .ok ⟨" (?,?)", [.string "Austen", .string "Eliot"]⟩ := by decide +kernel
  have hother : ¬(Books.authors.type = .text ∧ Operator.isIn = .isIn) := by decide
  exact ⟨by decide +kernel, by decide +kernel, hread,
    (placeholders_suit_iff hoffered hread).2.1.mpr hother⟩

/-- Two titles are one bare placeholder, though the operator that is offered for titles takes a
list. -/
theorem compile_titles_in_list :
    Books.catalog.validate = .ok () ∧ Books.title ∈ Books.book.attributes ∧
      .isIn ∈ Operator.applicable Books.title.type.kind ∧ Operator.isIn.arity = .multiple ∧
      Literal.read Books.title "Emma,Persuasion" Books.catalog.readers =
        .ok ⟨" ?", [.string "Emma,Persuasion"]⟩ ∧
      ¬(⟨" ?", [.string "Emma,Persuasion"]⟩ : ParsedLiteral).IsList ∧
      Books.catalog.compile .anonymous (Books.listed "Title" "Emma,Persuasion") =
        .ok ⟨"SELECT DISTINCT x FROM Book x WHERE x.title IN ?", [.string "Emma,Persuasion"]⟩ :=
  ⟨by decide +kernel, by decide +kernel, by decide, rfl, by decide +kernel,
    fun hlist => ParsedLiteral.not_isBare_of_isList hlist ⟨rfl, rfl⟩, by decide +kernel⟩

end GuardedQuery
