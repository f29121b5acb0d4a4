/-!
# Blank characters

The blanks that are stripped from the two ends of a text: the separators of Unicode, the line and
paragraph breaks, and the ASCII controls that separate lines, files, groups, records and units.
-/

set_option autoImplicit false

namespace TrialRun.Text

/-- A character that counts as blank at the ends of a text. -/
def isBlank (c : Char) : Bool :=
  let n := c.toNat
  (9 ≤ n && n ≤ 13) || (28 ≤ n && n ≤ 32) || n == 0x85 || n == 0xa0 || n == 0x1680 ||
    (0x2000 ≤ n && n ≤ 0x200a) || n == 0x2028 || n == 0x2029 || n == 0x202f || n == 0x205f ||
    n == 0x3000

/-- The text without the blanks at its two ends. -/
def strip (s : List Char) : List Char :=
  ((s.dropWhile isBlank).reverse.dropWhile isBlank).reverse

end TrialRun.Text
