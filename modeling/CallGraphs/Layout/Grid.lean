import CallGraphs.Layout.Wrap
/-!
# Tables

A table has a heading for each column and rows of cells in sections. A column is as wide as its widest
cell; if the whole is too wide, the widest columns give way first.
-/

namespace CallGraphs.Layout

/-- A column: its heading, and where its cells stand. -/
structure Column where
  heading : List Char
  justify : Justify

/-- A table. Rows have one cell for each column. -/
structure Grid where
  title : Option (List Char)
  columns : List Column
  sections : List (List (List (List Char)))

/-- The characters of a horizontal border. -/
structure Border where
  left : Char
  fill : Char
  divider : Char
  right : Char

def topBorder : Border := ⟨'┏', '━', '┳', '┓'⟩

def headBorder : Border := ⟨'┡', '━', '╇', '┩'⟩

def sectionBorder : Border := ⟨'├', '─', '┼', '┤'⟩

def bottomBorder : Border := ⟨'└', '─', '┴', '┘'⟩

/-- The line of a border over columns of given widths. -/
def Border.line (b : Border) (widths : List Nat) : List Char :=
  b.left :: [b.divider].intercalate (widths.map fun w => List.replicate w b.fill) ++ [b.right]

/-- The cells that a text needs if none of its lines is broken. -/
def naturalWidth (cs : List Char) : Nat :=
  ((Text.breakLines cs).map Text.cells).foldl max 0

/-- The blanks at the two sides of a cell, together. -/
def padding : Nat := 2

/-- The cells that the borders of a table take. -/
def borderWidth (columns : Nat) : Nat :=
  columns + 1

/-- The width of a cell with its padding, within a limit. -/
def cellWidth (limit : Nat) (cs : List Char) : Nat :=
  if limit ≤ padding then limit else min limit (min limit (naturalWidth cs) + padding)

/-- A quotient rounded to the nearest whole number, a half to the even one. -/
def roundDiv (n d : Nat) : Nat :=
  let q := n / d
  let r := n % d
  if d < 2 * r then q + 1 else if 2 * r < d then q else if q % 2 = 0 then q else q + 1

/-- Take `total` away from the marked widths in equal shares of at most `most` each. `count` is the
number of marked widths to come. -/
def shrinkEvenly (most total count : Nat) : List (Nat × Bool) → List Nat
  | [] => []
  | (w, false) :: rest => w :: shrinkEvenly most total count rest
  | (w, true) :: rest =>
    let share := min most (roundDiv total count)
    (w - share) :: shrinkEvenly most (total - share) (count - 1) rest

/-- One round of making columns narrower: the widest ones go down towards the second widest. -/
def narrowWidest (excess : Nat) (widths : List Nat) : List Nat :=
  let widest := widths.foldl max 0
  let second := (widths.filter (· != widest)).foldl max 0
  let marked := widths.map fun w => (w, w == widest)
  shrinkEvenly (min excess (widest - second)) excess (marked.filter (·.2)).length marked

/-- The width of columns together. -/
def total (widths : List Nat) : Nat :=
  widths.foldr (· + ·) 0

/-- Make columns narrower until they fit, in at most `rounds` rounds. -/
def narrow (rounds limit : Nat) (widths : List Nat) : List Nat :=
  match rounds with
  | 0 => widths
  | rounds + 1 =>
    let excess := total widths - limit
    let next := narrowWidest excess widths
    if excess = 0 ∨ next = widths then widths else narrow rounds limit next

namespace Grid

/-- The rows of all sections. -/
def rows (g : Grid) : List (List (List Char)) :=
  g.sections.flatten

/-- The cells of a column, the heading first. -/
def columnCells (g : Grid) (index : Nat) (column : Column) : List (List Char) :=
  column.heading :: g.rows.map fun row => (row[index]?).getD []

/-- The width of a column within a limit. -/
def columnWidth (g : Grid) (limit index : Nat) (column : Column) : Nat :=
  ((g.columnCells index column).map (cellWidth limit)).foldl max 0

/-- The widths of the columns in a room of `width` cells. -/
def columnWidths (g : Grid) (width : Nat) : List Nat :=
  let limit := width - borderWidth g.columns.length
  let natural := g.columns.mapIdx fun i c => max 1 (g.columnWidth limit i c)
  if total natural ≤ limit then natural
  else
    let narrowed := narrow (total natural) limit natural
    (g.columns.zip narrowed).mapIdx fun i c => g.columnWidth c.2 i c.1

/-- The lines of a cell of a given width, padding included. Without room for text a line is blank. -/
def cellLines (column : Column) (width : Nat) (cs : List Char) : List (List Char) :=
  if width ≤ padding then [Text.spaces width]
  else (wrap (width - padding) column.justify .ellipsis cs).map fun line =>
    ' ' :: Text.fitCells (width - padding) line ++ [' ']

/-- The lines of a row. Cells with fewer lines than others are filled up, at the top if asked for. -/
def rowLines (edge : Char) (atTop : Bool) (columns : List Column) (widths : List Nat)
    (row : List (List Char)) : List (List Char) :=
  let cells := (columns.zip (widths.zip row)).map fun (c, w, cs) => (w, cellLines c w cs)
  let height := (cells.map (·.2.length)).foldl max 0
  let filled := cells.map fun (w, lines) =>
    let missing := List.replicate (height - lines.length) (Text.spaces w)
    if atTop then missing ++ lines else lines ++ missing
  (List.range height).map fun i =>
    edge :: [edge].intercalate (filled.map fun lines => (lines[i]?).getD []) ++ [edge]

/-- The lines of the title of a table in a room of `width` cells. -/
def titleLines (g : Grid) (width : Nat) : List (List Char) :=
  match g.title with
  | some title =>
    wrap (total (g.columnWidths width) + borderWidth g.columns.length) .center .fold title
  | none => []

/-- The lines of the table in a room of `width` cells. -/
def lines (g : Grid) (width : Nat) : List (List Char) :=
  let widths := g.columnWidths width
  let body := g.sections.map fun rows => rows.flatMap (rowLines '│' false g.columns widths)
  g.titleLines width ++ [topBorder.line widths] ++
    rowLines '┃' true g.columns widths (g.columns.map Column.heading) ++
    [headBorder.line widths] ++
    [sectionBorder.line widths].intercalate body ++ [bottomBorder.line widths]

end Grid

end CallGraphs.Layout
