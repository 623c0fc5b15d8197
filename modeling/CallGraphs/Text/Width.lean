import CallGraphs.Text.Ranges
import CallGraphs.Text.WidthTable
/-!
# Display width

The number of terminal cells that text takes, and cutting text to a number of cells. Characters that
are drawn together form a cluster, which is never cut: marks without width belong to the character
before them, a joiner ties the next character on, and a selector can turn a symbol into a wider
pictograph.
-/

namespace CallGraphs.Text

/-- The cells that one character takes: none, one or two. -/
def cellsOf (c : Char) : Nat :=
  if 0x20 ≤ c.toNat && c.toNat < 0x7F then 1
  else
    match cellRanges.find? fun r => r.1 ≤ c.toNat && c.toNat ≤ r.2.1 with
    | some r => r.2.2
    | none => 1

/-- Ties the next character to the one before. -/
def joiner : Char := '\u200d'

/-- Asks for the pictograph of the symbol before. -/
def pictureSelector : Char := '\ufe0f'

/-- The cells that a symbol gains as a pictograph. -/
def pictureGain : Option Char → Nat
  | none => 0
  | some c => if inRanges pictureRanges c.toNat then 1 else 0

/-- The cells that a text takes after the symbol that a selector would turn into a pictograph. A
character after a joiner takes no cells of its own. -/
def cellsFrom (base : Option Char) : List Char → Nat
  | [] => 0
  | [c] => if c = pictureSelector then pictureGain base else cellsOf c
  | c :: d :: rest =>
    if c = joiner then cellsFrom base rest
    else if c = pictureSelector then pictureGain base + cellsFrom none (d :: rest)
    else cellsOf c + cellsFrom (if cellsOf c = 0 then base else some c) (d :: rest)

/-- The cells that a text takes. -/
def cells (cs : List Char) : Nat :=
  cellsFrom none cs

/-- A run of spaces. -/
def spaces (n : Nat) : List Char :=
  List.replicate n ' '

/-- Characters that are drawn together, with the cells that they take. The base is the symbol that a
selector would turn into a pictograph. -/
structure Cluster where
  text : List Char
  size : Nat
  base : Option Char

namespace Cluster

/-- The cluster that a character opens. -/
def single (c : Char) : Cluster :=
  ⟨[c], cellsOf c, if cellsOf c = 0 then none else some c⟩

/-- The cluster with a further character that takes no cells. -/
def push (g : Cluster) (c : Char) : Cluster :=
  { g with text := g.text ++ [c] }

/-- The cluster as a pictograph, if its base has one. -/
def asPicture (g : Cluster) : Cluster :=
  ⟨g.text ++ [pictureSelector], g.size + pictureGain g.base, none⟩

/-- The text of clusters. -/
def textOf (gs : List Cluster) : List Char :=
  gs.flatMap text

/-- The cells of clusters. -/
def sizeOf (gs : List Cluster) : Nat :=
  gs.foldr (fun g n => g.size + n) 0

end Cluster

/-- The clusters of a text, from inside a cluster on. -/
def clustersFrom (g : Cluster) : List Char → List Cluster
  | [] => [g]
  | [c] =>
    if c = pictureSelector then [g.asPicture]
    else if cellsOf c = 0 then [g.push c]
    else [g, .single c]
  | c :: d :: rest =>
    if c = joiner then clustersFrom ((g.push c).push d) rest
    else if c = pictureSelector then clustersFrom g.asPicture (d :: rest)
    else if cellsOf c = 0 then clustersFrom (g.push c) (d :: rest)
    else g :: clustersFrom (.single c) (d :: rest)

/-- The clusters of a text. -/
def clusters : List Char → List Cluster
  | [] => []
  | c :: cs => clustersFrom (.single c) cs

/-- The longest start of clusters that fits into a number of cells. -/
def takeClusters (limit : Nat) : List Cluster → List Cluster
  | [] => []
  | g :: gs => if g.size ≤ limit then g :: takeClusters (limit - g.size) gs else []

/-- The text cut or padded with spaces to `width` cells. A wide cluster that would stick out by half
is replaced by a space. -/
def fitCells (width : Nat) (cs : List Char) : List Char :=
  if width = 0 then []
  else if cells cs ≤ width then cs ++ spaces (width - cells cs)
  else
    let start := takeClusters width (clusters cs)
    Cluster.textOf start ++ spaces (width - Cluster.sizeOf start)

end CallGraphs.Text
