/-!
# Text — blanks

The characters Unicode calls white space, and trimming them from both ends of
a text. The table is the property's own: its members and their number are
fixed by the examples at the end.
-/

namespace DeviceLink

namespace Text

/-- The code points with the Unicode property `White_Space`, as inclusive
ranges in increasing order. -/
def blankRanges : List (Nat × Nat) :=
  [(0x09, 0x0d), (0x20, 0x20), (0x85, 0x85), (0xa0, 0xa0), (0x1680, 0x1680),
   (0x2000, 0x200a), (0x2028, 0x2029), (0x202f, 0x202f), (0x205f, 0x205f), (0x3000, 0x3000)]

/-- Whether a character is white space. -/
def isBlank (c : Char) : Bool :=
  blankRanges.any fun r => r.1 ≤ c.toNat && c.toNat ≤ r.2

/-- The characters without the blanks at either end. -/
def trim (cs : List Char) : List Char :=
  ((cs.dropWhile isBlank).reverse.dropWhile isBlank).reverse

/-- A text that neither starts nor ends with a blank is left alone. -/
theorem trim_eq_self {cs : List Char}
    (hfirst : ∀ c ∈ cs.head?, isBlank c = false)
    (hlast : ∀ c ∈ cs.reverse.head?, isBlank c = false) :
    trim cs = cs := by
  have key : ∀ l : List Char, (∀ c ∈ l.head?, isBlank c = false) → l.dropWhile isBlank = l := by
    intro l hl
    cases l with
    | nil => rfl
    | cons c r => simp [hl c rfl]
  simp [trim, key cs hfirst, key cs.reverse hlast]

example : (blankRanges.map fun r => r.2 - r.1 + 1).sum = 25 := by decide

example : isBlank '\t' ∧ isBlank '\u00a0' ∧ isBlank '\u3000' ∧ isBlank '\u200b' = false := by decide

end Text

end DeviceLink
