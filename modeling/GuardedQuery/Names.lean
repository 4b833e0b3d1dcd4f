/-! # Ordered sets of names -/

namespace GuardedQuery

/-- A set of names as an increasing list, in the order of their code points. -/
structure Names where
  names : List String
  increasing : names.Pairwise (· < ·)
  deriving DecidableEq

namespace Names

/-- Insert a name into an increasing list. -/
def insertName (new : String) : List String → List String
  | [] => [new]
  | name :: names =>
    if new < name then new :: name :: names
    else if new = name then name :: names
    else name :: insertName new names

@[simp]
theorem mem_insertName {new x : String} {names : List String} :
    x ∈ insertName new names ↔ x = new ∨ x ∈ names := by
  induction names with
  | nil => simp [insertName]
  | cons name names ih =>
      simp only [insertName]
      split
      · simp
      · split
        · rename_i h
          subst h
          simp
        · simp only [List.mem_cons, ih]
          grind

theorem insertName_increasing {new : String} {names : List String}
    (h : names.Pairwise (· < ·)) : (insertName new names).Pairwise (· < ·) := by
  induction names with
  | nil => simp [insertName]
  | cons name names ih =>
      obtain ⟨hname, hnames⟩ := List.pairwise_cons.mp h
      simp only [insertName]
      split
      · rename_i hlt
        refine List.pairwise_cons.mpr ⟨?_, h⟩
        intro x hx
        rcases List.mem_cons.mp hx with rfl | hx
        · exact hlt
        · exact String.lt_trans hlt (hname x hx)
      · split
        · exact h
        · rename_i hlt hne
          refine List.pairwise_cons.mpr ⟨?_, ih hnames⟩
          intro x hx
          rcases mem_insertName.mp hx with rfl | hx
          · exact Std.lt_of_le_of_ne (Std.not_lt.mp hlt) (Ne.symm hne)
          · exact hname x hx

/-- No name. -/
def empty : Names := ⟨[], .nil⟩

def insert (new : String) (s : Names) : Names :=
  ⟨insertName new s.names, insertName_increasing s.increasing⟩

/-- The set of the names in a list. -/
def ofList (names : List String) : Names :=
  names.foldr insert empty

@[simp]
theorem mem_ofList {names : List String} {x : String} :
    x ∈ (ofList names).names ↔ x ∈ names := by
  induction names with
  | nil => simp [ofList, empty]
  | cons new names ih =>
      show x ∈ insertName new (ofList names).names ↔ _
      simp [ih]

/-- The names in both sets. -/
def inter (s t : Names) : Names :=
  ⟨s.names.filter (· ∈ t.names), s.increasing.filter _⟩

/-- Some name is in both sets. -/
def meets (s t : Names) : Bool :=
  s.names.any (· ∈ t.names)

/-- The names with commas between them. -/
def text (s : Names) : String :=
  String.intercalate ", " s.names

end Names

end GuardedQuery
