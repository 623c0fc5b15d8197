import CallGraphs.Text.Blank
import CallGraphs.Text.Lines
import CallGraphs.Text.Width
/-!
# Wrapping

Text is laid out in lines of a given number of cells. Lines break between words; a word that is
longer than a line is folded or cut off.
-/

namespace CallGraphs.Layout

/-- Where a line stands in the room that it has. A natural line takes only the room that it needs.
-/
inductive Justify where
  | natural
  | left
  | center
  | right
  deriving DecidableEq, Repr

/-- What happens to a word that is longer than a line. -/
inductive Overflow where
  | fold
  | ellipsis
  deriving DecidableEq, Repr

/-- The distance of tab stops. -/
def tabSize : Nat := 8

/-- The pieces of a line between its tabs as one text. Each tab is a space, and more of them up to
the next tab stop; `cell` is where the first piece starts. -/
def expandPieces (cell : Nat) : List (List Char) → List Char
  | [] => []
  | [piece] => piece
  | piece :: next :: rest =>
    let spaced := piece ++ [' ']
    let stop := cell + Text.cells spaced
    let gap := (tabSize - stop % tabSize) % tabSize
    spaced ++ Text.spaces gap ++ expandPieces (stop + gap) (next :: rest)

/-- The text with each tab filled up with spaces to the next tab stop. -/
def expandTabs (cs : List Char) : List Char :=
  expandPieces 0 (Text.splitAtChar '\t' cs)

/-- The words of a text, from inside a word on whose characters so far are given in reverse. A word
includes the blanks after it, and the first one also those before it. -/
def wordsFrom (word : List Char) (started ended : Bool) : List Char → List (List Char)
  | [] => if started then [word.reverse] else []
  | c :: cs =>
    if Text.isBlank c then wordsFrom (c :: word) started started cs
    else if ended then word.reverse :: wordsFrom [c] true false cs
    else wordsFrom (c :: word) true false cs

def words (cs : List Char) : List (List Char) :=
  wordsFrom [] false false cs

/-- The parts of a word that fit into lines, from inside a part on of which `used` cells are taken.
A cluster that is wider than a line has a line of its own. -/
def chopFrom (width used : Nat) (part : List Char) : List Text.Cluster → List (List Char)
  | [] => [part]
  | g :: gs =>
    if used + g.size ≤ width then chopFrom width (used + g.size) (part ++ g.text) gs
    else part :: chopFrom width g.size g.text gs

/-- The parts of a word that fit into lines. -/
def chop (width : Nat) (cs : List Char) : List (List Char) :=
  chopFrom width 0 [] (Text.clusters cs)

/-- The offsets at which parts begin, except the start of the text. -/
def partOffsets (start : Nat) : List (List Char) → List Nat
  | [] => []
  | part :: parts =>
    (if start = 0 then [] else [start]) ++ partOffsets (start + part.length) parts

/-- The offsets at which lines begin, after the first line. `start` is the offset of the next word
and `used` the cells taken on its line. -/
def breaks (width : Nat) (overflow : Overflow) (start used : Nat) : List (List Char) → List Nat
  | [] => []
  | word :: rest =>
    let size := Text.cells (Text.trimRight word)
    let next := start + word.length
    if used + size ≤ width then breaks width overflow next (used + Text.cells word) rest
    else if width < size then
      match overflow with
      | .fold =>
        let parts := chop width word
        partOffsets start parts ++
          breaks width overflow next (Text.cells (parts.getLast?.getD [])) rest
      | .ellipsis =>
        (if start = 0 then [] else [start]) ++
          breaks width overflow next (Text.cells word) rest
    else start :: breaks width overflow next (Text.cells word) rest

/-- A text cut at offsets, which count from the start of the whole of which `done` is already cut.
-/
def cut (done : Nat) (cs : List Char) : List Nat → List (List Char)
  | [] => [cs]
  | k :: ks => cs.take (k - done) :: cut k (cs.drop (k - done)) ks

/-- A line without the blanks at its end that are beyond a number of characters. -/
def trimBeyond (width : Nat) (cs : List Char) : List Char :=
  let blanks := cs.length - (Text.trimRight cs).length
  cs.take (cs.length - min blanks (cs.length - width))

/-- A line cut off where it would go beyond a number of cells. -/
def crop (width : Nat) (cs : List Char) : List Char :=
  if Text.cells cs ≤ width then cs else Text.fitCells width cs

/-- A line cut off at a number of cells, with a mark where its text goes on if asked for. -/
def truncate (width : Nat) (overflow : Overflow) (cs : List Char) : List Char :=
  match overflow with
  | .fold => crop width cs
  | .ellipsis =>
    if Text.cells cs ≤ width then cs else Text.fitCells (width - 1) cs ++ ['…']

/-- A line in its room. -/
def place (width : Nat) (justify : Justify) (overflow : Overflow) (cs : List Char) : List Char :=
  match justify with
  | .natural => truncate width overflow cs
  | .left => truncate width overflow cs ++ Text.spaces (width - Text.cells cs)
  | .center =>
    let line := truncate width overflow (Text.trimRight cs)
    let before := (width - Text.cells line) / 2
    Text.spaces before ++ line ++ Text.spaces (width - Text.cells line - before)
  | .right =>
    let line := truncate width overflow (Text.trimRight cs)
    Text.spaces (width - Text.cells line) ++ line

/-- The lines of a text. -/
def wrap (width : Nat) (justify : Justify) (overflow : Overflow) (cs : List Char) :
    List (List Char) :=
  (Text.splitAtChar '\n' cs).flatMap fun line =>
    let line := expandTabs line
    (cut 0 line (breaks width overflow 0 0 (words line))).map fun part =>
      place width justify overflow (trimBeyond width part)

end CallGraphs.Layout
