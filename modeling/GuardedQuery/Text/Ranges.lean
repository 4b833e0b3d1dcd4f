/-! # Ranges of code points -/

namespace GuardedQuery.Text

/-- A set of code points, as the first and last members of its ranges. -/
abbrev Ranges := List (Nat × Nat)

/-- Membership of a character. -/
def Ranges.contains (ranges : Ranges) (c : Char) : Bool :=
  ranges.any fun (first, last) => first ≤ c.toNat && c.toNat ≤ last

end GuardedQuery.Text
