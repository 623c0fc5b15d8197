import CallGraphs.Text.Basic
/-!
# Blank characters

The characters that separate words, and trimming by them.
-/

namespace CallGraphs.Text

/-- A character counts as blank when it is a space, a line or paragraph break, one of the
typographic spaces, or one of the four information separators. -/
def isBlank (c : Char) : Bool :=
  let n := c.toNat
  (0x9 ≤ n && n ≤ 0xD) || (0x1C ≤ n && n ≤ 0x20) || n == 0x85 || n == 0xA0 || n == 0x1680 ||
  (0x2000 ≤ n && n ≤ 0x200A) || n == 0x2028 || n == 0x2029 || n == 0x202F || n == 0x205F ||
  n == 0x3000

/-- The text from its first character that is not blank. -/
def trimLeft (cs : List Char) : List Char :=
  cs.dropWhile isBlank

/-- The text up to its last character that is not blank. -/
def trimRight (cs : List Char) : List Char :=
  (cs.reverse.dropWhile isBlank).reverse

/-- The text without the blanks at its two ends. -/
def trim (cs : List Char) : List Char :=
  trimRight (trimLeft cs)

/-- Whether a code point is a blank character. -/
def isBlankPoint : CodePoint → Bool
  | .char c => isBlank c
  | .half _ => false

/-- The text without the blanks at its two ends. -/
def trimmed (t : Text) : Text :=
  ⟨((t.points.dropWhile isBlankPoint).reverse.dropWhile isBlankPoint).reverse⟩

end CallGraphs.Text
