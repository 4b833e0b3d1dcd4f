/-! # Blank characters

White space in the sense of the Unicode property White_Space, and trimming it from the ends of a
text. -/

namespace GuardedQuery.Text

/-- The characters with the property White_Space. -/
def isBlank (c : Char) : Bool :=
  let n := c.toNat
  (9 ≤ n && n ≤ 13) || n == 0x20 || n == 0x85 || n == 0xA0 || n == 0x1680 ||
    (0x2000 ≤ n && n ≤ 0x200A) || n == 0x2028 || n == 0x2029 || n == 0x202F ||
    n == 0x205F || n == 0x3000

/-- The text from its first character that is not blank. -/
def dropBlank (cs : List Char) : List Char :=
  cs.dropWhile isBlank

/-- The text up to its last character that is not blank. -/
def dropBlankEnd (cs : List Char) : List Char :=
  (dropBlank cs.reverse).reverse

/-- The text without the blanks at either end. -/
def trimChars (cs : List Char) : List Char :=
  dropBlankEnd (dropBlank cs)

/-- A string without the blanks at either end. -/
def trim (s : String) : String :=
  String.ofList (trimChars s.toList)

theorem toList_trim (s : String) : (trim s).toList = trimChars s.toList :=
  String.toList_ofList

/-- Nothing but blanks. -/
def allBlank (s : String) : Bool :=
  s.toList.all isBlank

theorem dropBlank_eq_nil_iff (cs : List Char) : dropBlank cs = [] ↔ cs.all isBlank = true := by
  induction cs with
  | nil => simp [dropBlank]
  | cons c cs ih =>
      by_cases h : isBlank c = true
      · have hdrop : dropBlank (c :: cs) = dropBlank cs := by simp [dropBlank, h]
        rw [hdrop, ih]
        simp [h]
      · simp [dropBlank, h]

end GuardedQuery.Text
