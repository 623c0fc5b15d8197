/-!
# Lines

Line breaks: the three spellings of a break read as one, the line and column of a position, and the
wider set of breaks that ends a displayed line.
-/

namespace CallGraphs.Text

/-- A carriage return, alone or before a line feed, reads as a line feed. -/
def unifyBreaks : List Char → List Char
  | [] => []
  | '\r' :: '\n' :: rest => '\n' :: unifyBreaks rest
  | '\r' :: rest => '\n' :: unifyBreaks rest
  | c :: rest => c :: unifyBreaks rest

/-- The line number of a position, counted from one. -/
def lineOf (cs : List Char) (position : Nat) : Nat :=
  (cs.take position).count '\n' + 1

/-- The column of a position, counted from one after the last line feed before it. -/
def columnOf (cs : List Char) (position : Nat) : Nat :=
  ((cs.take position).reverse.takeWhile (· != '\n')).length + 1

/-- Characters that end a displayed line. -/
def isBreak (c : Char) : Bool :=
  let n := c.toNat
  (0xA ≤ n && n ≤ 0xD) || (0x1C ≤ n && n ≤ 0x1E) || n == 0x85 || n == 0x2028 || n == 0x2029

/-- The pieces between breaks, with the piece under way in reverse. A break at the very end opens no
further piece. -/
def breakLinesFrom (line : List Char) : List Char → List (List Char)
  | [] => if line.isEmpty then [] else [line.reverse]
  | '\r' :: '\n' :: rest => line.reverse :: breakLinesFrom [] rest
  | c :: rest =>
    if isBreak c then line.reverse :: breakLinesFrom [] rest else breakLinesFrom (c :: line) rest

/-- The displayed lines of a text. -/
def breakLines (cs : List Char) : List (List Char) :=
  breakLinesFrom [] cs

/-- The pieces of a text between the occurrences of one character; there is always at least one. -/
def splitAtChar (mark : Char) (cs : List Char) : List (List Char) :=
  cs.splitOn mark

end CallGraphs.Text
