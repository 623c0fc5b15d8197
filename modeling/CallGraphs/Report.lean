import CallGraphs.Insertion
import CallGraphs.Layout.Grid
import CallGraphs.Layout.Panel
import CallGraphs.Markup.Basic
import CallGraphs.Transform
/-!
# Reports

What is shown to a user: marked messages, tables of counts and edges, and the banner. Texts are read
as markup; the parts of edges are shown as they are.
-/

namespace CallGraphs.Report

/-- The name of the program. -/
def programName : String := "ctxgraph"

/-- The version of the program. -/
def version : String := "0.1.0"

/-- A text that can be shown, or why it cannot. -/
abbrev Shown := Except Failure String

/-- Lines as one text. A line that is too long for the width is cut off. -/
def joinLines (width : Nat) (lines : List (List Char)) : String :=
  String.ofList (lines.flatMap fun line => Layout.crop width line ++ ['\n'])

/-- Show texts, given a way to show characters. Half pairs cannot be shown, so what is shown must
not depend on the characters that stand for them. -/
def showing (texts : List Text) (render : (Text → List Char) → Shown) : Shown :=
  match texts.findSome? Text.halves? with
  | none => render (Text.charsWith [])
  | some halves => do
    let one ← render (Text.charsWith ['\ue000'])
    let other ← render (Text.charsWith ['\ue001'])
    if one = other then .ok one else .error (.unprintable halves)

/-- A marked-up text, read. -/
def read (markup : List Char) : Except Failure Markup.Marked :=
  match Markup.read markup with
  | .ok marked => .ok marked
  | .error fault => .error (.markup fault)

/-- The failure of showing a style that cannot be had. -/
def brokenStyle : Failure :=
  .markup .missingNumber

/-- A marked-up text, wrapped. Without width nothing is shown. -/
def print (width : Nat) (markup : Text) : Shown :=
  showing [markup] fun chars => do
    let marked ← read (chars markup)
    let lines := Layout.wrap width .natural .fold marked.text
    if width = 0 then .ok ""
    else if marked.isBroken lines.length then .error brokenStyle
    else .ok (joinLines width lines)

/-- What a message is about. -/
inductive Tone where
  | success
  | error
  | warning
  | info
  deriving DecidableEq, Repr

/-- The mark in front of a message. -/
def Tone.mark : Tone → String
  | .success => "[green]✓[/green] "
  | .error => "[red]✗[/red] "
  | .warning => "[yellow]![/yellow] "
  | .info => "[blue]i[/blue] "

/-- A message with its mark. -/
def message (width : Nat) (tone : Tone) (text : Text) : Shown :=
  print width (tone.mark ++ text)

/-- A cell of a table: a marked-up text, or one that is shown as it is. -/
inductive Cell where
  | marked (t : Text)
  | literal (t : Text)

namespace Cell

/-- The text of a cell. -/
def text : Cell → Text
  | marked t | literal t => t

/-- A cell as markup. -/
def markup (chars : Text → List Char) : Cell → List Char
  | marked t => chars t
  | literal t => Markup.escape (chars t)

end Cell

/-- Rows of cells, read column by column: the first failure in that order, if there is any. -/
def readFailure? (columns : Nat) (rows : List (List (List Char))) : Option Failure :=
  (List.range columns).findSome? fun i =>
    rows.findSome? fun row =>
      match read ((row[i]?).getD []) with
      | .ok _ => none
      | .error failure => some failure

/-- The cells of a table, read. In a table without room for text no cell is looked at. -/
def readCells (width columns : Nat) (sections : List (List (List (List Char)))) :
    Except Failure (List (List (List Markup.Marked))) :=
  if width - Layout.borderWidth columns ≤ Layout.padding then
    .ok (sections.map fun rows => rows.map fun row => row.map fun _ => ⟨[], []⟩)
  else
    match readFailure? columns sections.flatten with
    | some failure => .error failure
    | none => sections.mapM fun rows => rows.mapM fun row => row.mapM read

/-- Whether a text that takes a number of lines shows a style that cannot be had. Blanks at the end
are not shown in lines that are moved to the right. -/
def isBroken (justify : Layout.Justify) (lines : Nat) (m : Markup.Marked) : Bool :=
  match justify with
  | .natural | .left => m.isBroken lines
  | .center | .right => m.trimRight.isBroken lines

/-- Whether a row shows a style that cannot be had in columns of given widths. -/
def isBrokenRow (columns : List Layout.Column) (widths : List Nat) (row : List Markup.Marked) :
    Bool :=
  (columns.zip (widths.zip row)).any fun (c, w, cell) =>
    Layout.padding < w && isBroken c.justify (Layout.Grid.cellLines c w cell.text).length cell

/-- A table of marked-up characters. Cells are read before the title. Without width nothing is read
or shown. -/
def tableOf (width : Nat) (title : List Char) (columns : List Layout.Column)
    (sections : List (List (List (List Char)))) : Shown :=
  if width = 0 then .ok "" else do
  let cells ← readCells width columns.length sections
  let heading ← if title.isEmpty then pure none else (read title).map some
  let grid : Layout.Grid :=
    ⟨heading.map Markup.Marked.text, columns,
     cells.map fun rows => rows.map fun row => row.map Markup.Marked.text⟩
  let titleBroken := heading.any (isBroken .center (grid.titleLines width).length)
  if titleBroken || cells.flatten.any (isBrokenRow columns (grid.columnWidths width)) then
    .error brokenStyle
  else .ok (joinLines width (grid.lines width))

/-- A table: a title, headings, and rows of cells in sections. -/
def table (width : Nat) (title : Text) (columns : List Layout.Column)
    (sections : List (List (List Cell))) : Shown :=
  showing (title :: sections.flatten.flatten.map Cell.text) fun chars =>
    tableOf width (chars title) columns
      (sections.map fun rows => rows.map fun row => row.map (Cell.markup chars))

/-- A column under a heading, flush left. -/
def column (heading : String) : Layout.Column :=
  ⟨heading.toList, .left⟩

/-- A figure and the text that is shown for it. -/
structure Figure where
  value : Value
  shown : Draft

namespace Figure

/-- A figure that need not be a number. -/
def ofValue (v : Value) : Figure :=
  ⟨v, v.plain⟩

/-- The number of some things. It is never too long to be written. -/
def count (n : Nat) : Figure :=
  ⟨.int n, toString n⟩

end Figure

/-- The figures that the table of counts shows. They need not be numbers, except for the counts of
the kinds, by which these are sorted. -/
structure Figures where
  procedures : Figure
  contexts : Figure
  callSites : Figure
  edges : Figure
  insensitiveEdges : Figure
  collapsedEdges : Figure
  kinds : List (Value × Figure)

/-- The figures of two graphs. -/
def Figures.ofStats (s : Stats) : Figures where
  procedures := .count s.procedures
  contexts := .count s.contexts
  callSites := .count s.callSites
  edges := .count s.edges
  insensitiveEdges := .count s.insensitiveEdges
  collapsedEdges := .count s.collapsedEdges
  kinds := s.edgeKinds.entries.map fun (k, n) => (.text k.name, .count n)

/-- Whether a number is greater than another. An infinity is beyond all finite numbers, and what is
not a number is not compared. -/
def exceeds (a b : Value) : Bool :=
  match a.scalar?, b.scalar? with
  | some (.number x), some (.number y) => !x.atMost y
  | some (.infinite false), some (.number _) => true
  | some (.infinite false), some (.infinite true) => true
  | some (.number _), some (.infinite true) => true
  | _, _ => false

/-- Kinds with their counts, the highest first. All counts have to be numbers. -/
def sortedKinds (kinds : List (Value × Figure)) : Except Failure (List (Value × Figure)) :=
  match kinds.find? fun e => !e.2.value.isNumber with
  | some e => .error (.notNegatable e.2.value.typeName)
  | none => .ok (Insertion.sort (fun a b => exceeds a.2.value b.2.value) kinds)

/-- A label and the text of a figure as a row. -/
def figureRow (label : Draft) (figure : Figure) : Except Failure (List Cell) := do
  return [.marked (← label.formed), .marked (← figure.shown.formed)]

/-- The table of figures. -/
def figures (width : Nat) (f : Figures) : Shown := do
  let counts ← [("Procedures", f.procedures), ("Contexts", f.contexts), ("Call Sites", f.callSites),
    ("Context-Sensitive Edges", f.edges), ("Context-Insensitive Edges", f.insensitiveEdges),
    ("Collapsed Edges", f.collapsedEdges)].mapM fun (label, figure) =>
      figureRow (label : String) figure
  let kinds ← (← sortedKinds f.kinds).mapM fun (kind, count) =>
    figureRow ("  " ++ kind.plain ++ " edges") count
  table width "Call Graph Statistics" [column "Metric", ⟨"Count".toList, .right⟩]
    (if kinds.isEmpty then [counts] else [counts, kinds])

/-- The table of counts. -/
def stats (width : Nat) (s : Stats) : Shown :=
  figures width (.ofStats s)

/-- A field of a value as a cell, in which it is shown as it is. -/
def fieldCell (v : Value) (name : String) : Except Failure Cell :=
  match v.getAttribute name with
  | .error fault => .error (.access fault)
  | .ok w => w.plain.formed.map .literal

/-- The name of the kind of an edge as a cell. -/
def kindCell (v : Value) : Except Failure Cell :=
  match (v.getAttribute "kind").bind (·.getAttribute "value") with
  | .error fault => .error (.access fault)
  | .ok name => name.plain.formed.map .marked

/-- A table of edges that shows some of their fields under headings. -/
def edgeTable (width : Nat) (title : Text) (columns : List (String × String))
    (edges : List Value) : Shown := do
  let rows ← edges.mapM fun e => columns.mapM fun (_, name) =>
    if name == "kind" then kindCell e else fieldCell e name
  table width title (columns.map fun c => column c.1) [rows]

/-- The columns for context-sensitive edges: headings and fields. -/
def sensitiveColumns : List (String × String) :=
  [("Source", "source"), ("Context", "source_context"), ("Call", "instruction"), ("Kind", "kind"),
   ("Target", "target"), ("Target Context", "target_context")]

/-- The columns for context-insensitive edges: headings and fields. -/
def insensitiveColumns : List (String × String) :=
  [("Source", "source"), ("Call", "instruction"), ("Kind", "kind"), ("Target", "target")]

/-- The table of context-sensitive edges. -/
def sensitiveEdges (width : Nat) (title : Text) (edges : List SensitiveEdge) : Shown :=
  edgeTable width title sensitiveColumns (edges.map SensitiveEdge.toValue)

/-- The table of context-insensitive edges. -/
def insensitiveEdges (width : Nat) (title : Text) (edges : List InsensitiveEdge) : Shown :=
  edgeTable width title insensitiveColumns (edges.map InsensitiveEdge.toValue)

/-- The banner. -/
def banner (width : Nat) : String :=
  joinLines width (if width = 0 then [] else Layout.panel width
    (programName ++ " v" ++ version ++ "\nCall graphs from context transition tables").toList)

end CallGraphs.Report
