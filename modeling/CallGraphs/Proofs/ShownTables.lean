import CallGraphs.Proofs.EdgePartitions
import CallGraphs.Proofs.EscapedMarkup
/-!
# Shown tables

The parts of edges stand in their tables escaped, and what else stands in a table besides its title
has no brackets. So a table can always be shown, unless its title has a bracket that is read as a
tag or there is half a pair in it. The table of counts has neither.
-/

namespace CallGraphs

section Except

variable {α β ε : Type}

/-- Of two steps, the first has failed or the second one after it. -/
theorem bind_eq_error {x : Except ε α} {f : α → Except ε β} {e : ε} (h : (x >>= f) = .error e) :
    x = .error e ∨ ∃ a, x = .ok a ∧ f a = .error e := by
  cases x with
  | error e' =>
      cases h
      exact .inl rfl
  | ok a => exact .inr ⟨a, rfl, h⟩

theorem mapM_eq_error {f : α → Except ε β} {l : List α} {e : ε} (h : l.mapM f = .error e) :
    ∃ a ∈ l, f a = .error e := by
  induction l with
  | nil => cases h
  | cons a l ih =>
      rw [List.mapM_cons] at h
      rcases bind_eq_error h with hfirst | ⟨b, _, hlater⟩
      · exact ⟨a, List.mem_cons_self, hfirst⟩
      · rcases bind_eq_error hlater with hrest | ⟨_, _, hpure⟩
        · obtain ⟨a', ha', hfails⟩ := ih hrest
          exact ⟨a', List.mem_cons_of_mem a ha', hfails⟩
        · cases hpure

theorem exists_mapM_eq_ok {f : α → Except ε β} {P : β → Prop} {l : List α}
    (h : ∀ a ∈ l, ∃ b, f a = .ok b ∧ P b) : ∃ bs, l.mapM f = .ok bs ∧ ∀ b ∈ bs, P b := by
  induction l with
  | nil => exact ⟨[], rfl, fun _ hb => (by cases hb)⟩
  | cons a l ih =>
      obtain ⟨⟨b, hb, hPb⟩, hrest⟩ := List.forall_mem_cons.mp h
      obtain ⟨bs, hbs, hPbs⟩ := ih hrest
      refine ⟨b :: bs, ?_, List.forall_mem_cons.mpr ⟨hPb, hPbs⟩⟩
      rw [List.mapM_cons, hb, hbs]
      rfl

end Except

namespace Report

open Markup

theorem read_of_plain {cs : List Char} (h : Plain cs) :
    ∃ marked, Report.read cs = .ok marked ∧ marked.spans = [] := by
  obtain ⟨text, hread⟩ := h
  exact ⟨⟨text, []⟩, by rw [Report.read, hread], rfl⟩

/-- Without styles nothing can be wrong with one. -/
theorem isBroken_of_spans_nil {m : Marked} (h : m.spans = []) (justify : Layout.Justify)
    (lines : Nat) : isBroken justify lines m = false := by
  have htrimmed : m.trimRight.spans = [] := by
    rw [Marked.trimRight]
    split
    · exact h
    · rw [h]
      rfl
  cases justify with
  | natural | left => simp only [isBroken, Marked.isBroken, h, List.any_nil]
  | center | right => simp only [isBroken, Marked.isBroken, htrimmed, List.any_nil]

theorem isBrokenRow_of_spans_nil {row : List Marked} (h : ∀ m ∈ row, m.spans = [])
    (columns : List Layout.Column) (widths : List Nat) : isBrokenRow columns widths row = false := by
  rw [isBrokenRow, List.any_eq_false]
  rintro ⟨c, w, m⟩ hx
  have hm : m ∈ row := (List.of_mem_zip (List.of_mem_zip hx).2).2
  change ¬(decide (Layout.padding < w) && isBroken c.justify _ m) = true
  rw [isBroken_of_spans_nil (h m hm), Bool.and_false]
  exact Bool.false_ne_true

theorem readFailure?_eq_none {rows : List (List (List Char))}
    (h : ∀ row ∈ rows, ∀ cell ∈ row, Plain cell) (columns : Nat) :
    readFailure? columns rows = none := by
  rw [readFailure?, List.findSome?_eq_none_iff]
  intro i _
  rw [List.findSome?_eq_none_iff]
  intro row hrow
  have hcell : Plain ((row[i]?).getD []) := by
    cases hfound : row[i]? with
    | none => exact plain_of_not_mem (by decide)
    | some cell => exact h row hrow cell (List.mem_of_getElem? hfound)
  obtain ⟨marked, hread, _⟩ := read_of_plain hcell
  rw [hread]

theorem readFailure?_eq_some {columns : Nat} {rows : List (List (List Char))} {f : Failure}
    (h : readFailure? columns rows = some f) : ∃ fault, f = .markup fault := by
  rw [readFailure?] at h
  obtain ⟨i, _, hcolumn⟩ := List.exists_of_findSome?_eq_some h
  obtain ⟨row, _, hcell⟩ := List.exists_of_findSome?_eq_some hcolumn
  split at hcell
  · cases hcell
  · rename_i failure hread
    cases hcell
    exact read_eq_error hread

section Tables

variable {width : Nat} {title : List Char} {columns : List Layout.Column}
  {sections : List (List (List (List Char)))}

/-- Cells without styles are read. -/
theorem readCells_of_plain (h : ∀ rows ∈ sections, ∀ row ∈ rows, ∀ cell ∈ row, Plain cell)
    (width columns : Nat) :
    ∃ cells, readCells width columns sections = .ok cells ∧
      ∀ rows ∈ cells, ∀ row ∈ rows, ∀ m ∈ row, m.spans = [] := by
  rw [readCells]
  by_cases hroom : width - Layout.borderWidth columns ≤ Layout.padding
  · rw [if_pos hroom]
    refine ⟨_, rfl, ?_⟩
    simp only [List.forall_mem_map, implies_true]
  · have hflat : ∀ row ∈ sections.flatten, ∀ cell ∈ row, Plain cell := by
      intro row hrow
      obtain ⟨rows, hrows, hmem⟩ := List.mem_flatten.mp hrow
      exact h rows hrows row hmem
    rw [if_neg hroom, readFailure?_eq_none hflat]
    exact exists_mapM_eq_ok fun rows hrows => exists_mapM_eq_ok fun row hrow =>
      exists_mapM_eq_ok fun cell hcell => read_of_plain (h rows hrows row hrow cell hcell)

theorem readCells_eq_error {columns : Nat} {f : Failure}
    (h : readCells width columns sections = .error f) : ∃ fault, f = .markup fault := by
  rw [readCells] at h
  split at h
  · cases h
  · split at h
    · rename_i hfailure
      cases h
      exact readFailure?_eq_some hfailure
    · obtain ⟨rows, _, hrows⟩ := mapM_eq_error h
      obtain ⟨row, _, hrow⟩ := mapM_eq_error hrows
      obtain ⟨cell, _, hcell⟩ := mapM_eq_error hrow
      exact read_eq_error hcell

/-- The title of a table, read. An empty one is none. -/
def readTitle (title : List Char) : Except Failure (Option Marked) :=
  if title.isEmpty then .ok none else (Report.read title).map some

/-- A table of read cells under a read title. -/
def assembled (width : Nat) (columns : List Layout.Column) (cells : List (List (List Marked)))
    (heading : Option Marked) : Shown :=
  let grid : Layout.Grid :=
    ⟨heading.map Marked.text, columns, cells.map fun rows => rows.map fun row => row.map Marked.text⟩
  let titleBroken := heading.any (isBroken .center (grid.titleLines width).length)
  if titleBroken || cells.flatten.any (isBrokenRow columns (grid.columnWidths width)) then
    .error brokenStyle
  else .ok (joinLines width (grid.lines width))

theorem tableOf_eq (width : Nat) (title : List Char) (columns : List Layout.Column)
    (sections : List (List (List (List Char)))) :
    tableOf width title columns sections =
      if width = 0 then .ok ""
      else readCells width columns.length sections >>= fun cells =>
        readTitle title >>= assembled width columns cells := by
  rw [tableOf, readTitle]
  by_cases hempty : title.isEmpty = true
  · simp only [hempty, if_true]
    rfl
  · simp only [hempty, Bool.false_eq_true, if_false]
    rfl

theorem readTitle_of_plain (h : Plain title) :
    ∃ heading, readTitle title = .ok heading ∧ ∀ m ∈ heading, m.spans = [] := by
  rw [readTitle]
  by_cases hempty : title.isEmpty = true
  · rw [if_pos hempty]
    exact ⟨none, rfl, fun _ hm => (by cases hm)⟩
  · obtain ⟨marked, hmarked, hnil⟩ := read_of_plain h
    rw [if_neg hempty, hmarked]
    refine ⟨some marked, rfl, ?_⟩
    rintro m ⟨⟩
    exact hnil

theorem readTitle_eq_error {f : Failure} (h : readTitle title = .error f) :
    ∃ fault, f = .markup fault := by
  rw [readTitle] at h
  split at h
  · cases h
  · cases hread : Report.read title with
    | ok marked =>
        rw [hread] at h
        cases h
    | error f' =>
        rw [hread] at h
        cases h
        exact read_eq_error hread

theorem assembled_eq_error {cells : List (List (List Marked))} {heading : Option Marked}
    {f : Failure} (h : assembled width columns cells heading = .error f) :
    ∃ fault, f = .markup fault := by
  rw [assembled] at h
  split at h
  · cases h
    exact ⟨_, rfl⟩
  · cases h

theorem assembled_of_spans_nil {cells : List (List (List Marked))} {heading : Option Marked}
    (hheading : ∀ m ∈ heading, m.spans = [])
    (hcells : ∀ rows ∈ cells, ∀ row ∈ rows, ∀ m ∈ row, m.spans = []) :
    ∃ shown, assembled width columns cells heading = .ok shown := by
  have htitle : ∀ lines, heading.any (isBroken .center lines) = false := by
    intro lines
    cases heading with
    | none => rfl
    | some m => rw [Option.any_some, isBroken_of_spans_nil (hheading m rfl)]
  have hrows : ∀ widths, cells.flatten.any (isBrokenRow columns widths) = false := by
    intro widths
    rw [List.any_eq_false]
    intro row hrow
    obtain ⟨rows, hrows, hmem⟩ := List.mem_flatten.mp hrow
    rw [isBrokenRow_of_spans_nil (hcells rows hrows row hmem)]
    exact Bool.false_ne_true
  simp only [assembled, htitle, hrows, Bool.or_false, Bool.false_eq_true, if_false]
  exact ⟨_, rfl⟩

/-- Only markup can keep characters from being shown as a table. -/
theorem tableOf_eq_error {f : Failure} (h : tableOf width title columns sections = .error f) :
    ∃ fault, f = .markup fault := by
  rw [tableOf_eq] at h
  split at h
  · cases h
  · rcases bind_eq_error h with hcells | ⟨cells, _, hafter⟩
    · exact readCells_eq_error hcells
    · rcases bind_eq_error hafter with hheading | ⟨heading, _, hlast⟩
      · exact readTitle_eq_error hheading
      · exact assembled_eq_error hlast

/-- A table without styles is shown. -/
theorem tableOf_shown (htitle : Plain title)
    (hcells : ∀ rows ∈ sections, ∀ row ∈ rows, ∀ cell ∈ row, Plain cell) :
    ∃ shown, tableOf width title columns sections = .ok shown := by
  rw [tableOf_eq]
  by_cases hwidth : width = 0
  · rw [if_pos hwidth]
    exact ⟨_, rfl⟩
  · obtain ⟨cells, hread, hspans⟩ := readCells_of_plain hcells width columns.length
    obtain ⟨heading, hheading, hnil⟩ := readTitle_of_plain htitle
    rw [if_neg hwidth, hread, hheading]
    exact assembled_of_spans_nil hnil hspans

end Tables

/-- A cell that cannot be taken for one with tags. -/
def Cell.Tagless : Cell → Prop
  | .marked t => .char '[' ∉ t.points
  | .literal _ => True

theorem Cell.Tagless.plain {cell : Cell} (h : cell.Tagless) {standIn : List Char}
    (hstandIn : standIn ∈ standIns) : Plain (cell.markup (Text.charsWith standIn)) := by
  cases cell with
  | marked t => exact plain_of_not_mem (not_mem_charsWith hstandIn h)
  | literal t => exact plain_escape _

/-- A table of such cells that cannot be shown has a bracket in its title, which is read as a tag,
or half a pair somewhere. -/
theorem table_eq_error {width : Nat} {title : Text} {columns : List Layout.Column}
    {sections : List (List (List Cell))} {f : Failure}
    (hcells : ∀ rows ∈ sections, ∀ row ∈ rows, ∀ cell ∈ row, cell.Tagless)
    (h : table width title columns sections = .error f) :
    Spoils title f ∨ (∃ halves, f = .unprintable halves) ∧
      ∃ cell ∈ sections.flatten.flatten, cell.text.halves? ≠ none := by
  rw [table] at h
  rcases showing_cases (title :: sections.flatten.flatten.map Cell.text) _ with
    ⟨standIn, hstandIn, hshown⟩ | ⟨halves, hhalves, hshown⟩
  · rw [hshown] at h
    by_cases hmem : .char '[' ∈ title.points
    · obtain ⟨fault, rfl⟩ := tableOf_eq_error h
      exact .inl (.bracket hmem)
    · have hplain : ∀ rows ∈ sections.map fun rows => rows.map fun row =>
          row.map (Cell.markup (Text.charsWith standIn)),
          ∀ row ∈ rows, ∀ cs ∈ row, Plain cs := by
        simp only [List.forall_mem_map]
        intro rows hrows row hrow cell hcell
        exact (hcells rows hrows row hrow cell hcell).plain hstandIn
      obtain ⟨shown, hok⟩ :=
        tableOf_shown (plain_of_not_mem (not_mem_charsWith hstandIn hmem)) hplain
      rw [hok] at h
      cases h
  · rw [hshown] at h
    cases h
    obtain ⟨t, ht, hsome⟩ := List.exists_of_findSome?_eq_some hhalves
    have hhalf : t.halves? ≠ none := by
      rw [hsome]
      exact Option.some_ne_none halves
    rcases List.mem_cons.mp ht with rfl | ht
    · exact .inl (.half hhalf)
    · obtain ⟨cell, hcell, rfl⟩ := List.mem_map.mp ht
      exact .inr ⟨⟨halves, rfl⟩, cell, hcell, hhalf⟩

/-- A text of characters that is worded with some names: a bracket in it is one of theirs. -/
structure Worded (names : List String) (t : Text) : Prop where
  halves : t.halves? = none
  bracket (h : .char '[' ∈ t.points) : ∃ name ∈ names, '[' ∈ name.toList

/-- A text of characters without opening brackets. -/
abbrev Simple (t : Text) : Prop :=
  Worded [] t

theorem mem_toList_of_mem_points {s : String} {c : Char} (h : .char c ∈ (s : Text).points) :
    c ∈ s.toList := by
  obtain ⟨c', hc', heq⟩ := List.mem_map.mp h
  cases heq
  exact hc'

theorem worded_ofString {names : List String} {s : String} (h : '[' ∉ s.toList) :
    Worded names s where
  halves := Text.halves?_ofString s
  bracket hmem := absurd (mem_toList_of_mem_points hmem) h

theorem worded_name {names : List String} {name : String} (h : name ∈ names) :
    Worded names name where
  halves := Text.halves?_ofString name
  bracket hmem := ⟨name, h, mem_toList_of_mem_points hmem⟩

theorem Worded.append {names : List String} {s t : Text} (hs : Worded names s)
    (ht : Worded names t) : Worded names (s ++ t) where
  halves := Text.halves?_append hs.halves ht.halves
  bracket hmem := by
    rcases List.mem_append.mp hmem with hmem | hmem
    · exact hs.bracket hmem
    · exact ht.bracket hmem

/-- Fixed words that lead up to a name. -/
theorem worded_about {names : List String} {lead name : String} (hlead : '[' ∉ lead.toList)
    (hname : name ∈ names) : Worded names (lead ++ name) :=
  (worded_ofString hlead).append (worded_name hname)

/-- Fixed words that lead up to a name in quotes, of which the first ends the words. -/
theorem worded_quoted {names : List String} {lead name : String} (hlead : '[' ∉ lead.toList)
    (hname : name ∈ names) : Worded names (lead ++ name ++ "'") :=
  (worded_about hlead hname).append (worded_ofString (by decide))

/-- Only a name can spoil such a text. -/
theorem Worded.of_spoils {names : List String} {t : Text} {f : Failure} (h : Worded names t)
    (hspoils : Spoils t f) : ∃ fault, f = .markup fault ∧ ∃ name ∈ names, '[' ∈ name.toList := by
  cases hspoils with
  | @bracket fault hmem => exact ⟨fault, rfl, h.bracket hmem⟩
  | half hsome => exact absurd h.halves hsome

theorem Worded.not_mem {t : Text} (h : Simple t) : .char '[' ∉ t.points := by
  intro hmem
  obtain ⟨_, hnone, _⟩ := h.bracket hmem
  cases hnone

theorem simple_toString (n : Nat) : Simple (toString n : String) := by
  apply worded_ofString
  intro hmem
  have hdigits : '[' ∈ Nat.toDigits 10 n := by
    rw [← Nat.toList_repr]
    exact hmem
  exact absurd (Nat.isDigit_of_mem_toDigits (by decide) (by decide) hdigits) (by decide)

/-- A table of simple texts is shown. -/
theorem table_shown {width : Nat} {title : Text} {columns : List Layout.Column}
    {sections : List (List (List Cell))} (htitle : Simple title)
    (hcells : ∀ rows ∈ sections, ∀ row ∈ rows, ∀ cell ∈ row, Simple cell.text) :
    ∃ shown, table width title columns sections = .ok shown := by
  have htagless : ∀ rows ∈ sections, ∀ row ∈ rows, ∀ cell ∈ row, cell.Tagless := by
    intro rows hrows row hrow cell hcell
    cases cell with
    | marked t => exact (hcells rows hrows row hrow _ hcell).not_mem
    | literal t => exact trivial
  cases hshown : table width title columns sections with
  | ok shown => exact ⟨shown, rfl⟩
  | error f =>
      rcases table_eq_error htagless hshown with hspoils | ⟨_, cell, hcell, hsome⟩
      · obtain ⟨_, _, _, hnone, _⟩ := htitle.of_spoils hspoils
        cases hnone
      · obtain ⟨row, hrow, hmem⟩ := List.mem_flatten.mp hcell
        obtain ⟨rows, hrows, hmem'⟩ := List.mem_flatten.mp hrow
        exact absurd (hcells rows hrows row hmem' cell hmem).halves hsome

theorem simple_name (k : CallKind) : Simple k.name := by
  cases k <;> exact worded_ofString (by decide)

/-- A row of a simple label and a simple figure that can be formed. -/
theorem figureRow_shown {label : Draft} {figure : Figure} (hlabel : label.fault? = none)
    (hfigure : figure.shown.fault? = none) (hlabelText : Simple label.text)
    (hfigureText : Simple figure.shown.text) :
    ∃ row, figureRow label figure = .ok row ∧ ∀ cell ∈ row, Simple cell.text := by
  refine ⟨[.marked label.text, .marked figure.shown.text], ?_, ?_⟩
  · simp only [figureRow, Draft.formed, Draft.form, hlabel, hfigure]
    rfl
  · simp only [List.forall_mem_cons]
    exact ⟨hlabelText, hfigureText, by simp⟩

/-- The counts of the kinds are numbers, so that the kinds can be sorted by them. -/
theorem sortedKinds_ofStats (s : Stats) :
    sortedKinds (Figures.ofStats s).kinds = .ok (Insertion.sort
      (fun a b => exceeds a.2.value b.2.value) (Figures.ofStats s).kinds) := by
  have hnumbers : (Figures.ofStats s).kinds.find? (fun e => !e.2.value.isNumber) = none := by
    rw [List.find?_eq_none]
    intro e he
    obtain ⟨⟨k, n⟩, _, rfl⟩ := List.mem_map.mp he
    exact Bool.false_ne_true
  rw [sortedKinds, hnumbers]

/-- The figures other than those of the kinds, under their labels. -/
def countFigures (f : Figures) : List (String × Figure) :=
  [("Procedures", f.procedures), ("Contexts", f.contexts), ("Call Sites", f.callSites),
   ("Context-Sensitive Edges", f.edges), ("Context-Insensitive Edges", f.insensitiveEdges),
   ("Collapsed Edges", f.collapsedEdges)]

theorem figures_eq (width : Nat) (f : Figures) :
    figures width f =
      ((countFigures f).mapM fun e => figureRow (e.1 : String) e.2) >>= fun counts =>
      sortedKinds f.kinds >>= fun sorted =>
      (sorted.mapM fun e => figureRow ("  " ++ e.1.plain ++ " edges") e.2) >>= fun kinds =>
      table width "Call Graph Statistics" [column "Metric", ⟨"Count".toList, .right⟩]
        (if kinds.isEmpty then [counts] else [counts, kinds]) :=
  rfl

/-- The table of counts can always be shown. -/
theorem stats_shown (width : Nat) (s : Stats) : ∃ shown, Report.stats width s = .ok shown := by
  have hcount : ∀ e ∈ countFigures (.ofStats s), ∃ row,
      figureRow (e.1 : String) e.2 = .ok row ∧ ∀ cell ∈ row, Simple cell.text := by
    have hrow (label : String) (n : Nat) (hlabel : '[' ∉ label.toList) :
        ∃ row, figureRow label (.count n) = .ok row ∧ ∀ cell ∈ row, Simple cell.text :=
      figureRow_shown rfl rfl (worded_ofString hlabel) (simple_toString n)
    simp only [countFigures, List.forall_mem_cons]
    exact ⟨hrow _ _ (by decide), hrow _ _ (by decide), hrow _ _ (by decide),
      hrow _ _ (by decide), hrow _ _ (by decide), hrow _ _ (by decide), by simp⟩
  have hkind : ∀ e ∈ Insertion.sort (fun a b => exceeds a.2.value b.2.value)
      (Figures.ofStats s).kinds, ∃ row,
      figureRow ("  " ++ e.1.plain ++ " edges") e.2 = .ok row ∧ ∀ cell ∈ row, Simple cell.text := by
    intro e he
    obtain ⟨⟨k, n⟩, _, rfl⟩ := List.mem_map.mp ((Insertion.sort_perm _ _).mem_iff.mp he)
    have hblanks : Simple "  " := worded_ofString (by decide)
    have hedges : Simple " edges" := worded_ofString (by decide)
    exact figureRow_shown rfl rfl ((hblanks.append (simple_name k)).append hedges)
      (simple_toString n)
  obtain ⟨counts, hcounts, hcountTexts⟩ := exists_mapM_eq_ok hcount
  obtain ⟨kinds, hkinds, hkindTexts⟩ := exists_mapM_eq_ok hkind
  rw [Report.stats, figures_eq, hcounts, sortedKinds_ofStats]
  simp only [bind, Except.bind, hkinds]
  apply table_shown (worded_ofString (by decide))
  intro rows hrows
  split at hrows
  · rw [List.mem_singleton.mp hrows]
    exact hcountTexts
  · simp only [List.mem_cons, List.not_mem_nil, or_false] at hrows
    rcases hrows with rfl | rfl
    · exact hcountTexts
    · exact hkindTexts

/-- Values that have all the fields of a table of edges, each with a text, make its rows. -/
theorem edgeTable_eq {ε : Type} {columns : List (String × String)} {toValue : ε → Value}
    {cells : ε → List Cell} {edges : List ε}
    (h : ∀ e ∈ edges, (columns.mapM fun c => if c.2 == "kind" then kindCell (toValue e)
      else fieldCell (toValue e) c.2) = .ok (cells e))
    (width : Nat) (title : Text) :
    edgeTable width title columns (edges.map toValue) =
      table width title (columns.map fun c => column c.1) [edges.map cells] := by
  have hrows : ((edges.map toValue).mapM fun v => columns.mapM fun c =>
      if c.2 == "kind" then kindCell v else fieldCell v c.2) = .ok (edges.map cells) := by
    rw [List.mapM_map]
    exact mapM_eq_ok h
  change (((edges.map toValue).mapM fun v => columns.mapM fun c =>
    if c.2 == "kind" then kindCell v else fieldCell v c.2) >>= fun rows => _) = _
  rw [hrows]
  rfl

end Report

/-- The values that an edge is about. -/
def SensitiveEdge.parts (e : SensitiveEdge) : List Value :=
  [e.source, e.sourceContext, e.instruction, e.target, e.targetContext]

/-- An edge whose parts all have texts. -/
def SensitiveEdge.Legible (e : SensitiveEdge) : Prop :=
  ∀ v ∈ e.parts, v.plain.formed = .ok v.plain.text

namespace Report

/-- The cells of a context-sensitive edge. -/
def sensitiveRow (e : SensitiveEdge) : List Cell :=
  [.literal e.source.plain.text, .literal e.sourceContext.plain.text,
   .literal e.instruction.plain.text, .marked e.kind.name, .literal e.target.plain.text,
   .literal e.targetContext.plain.text]

/-- The cells of a context-insensitive edge. -/
def insensitiveRow (e : InsensitiveEdge) : List Cell :=
  [.literal e.source.plain.text, .literal e.instruction.plain.text, .marked e.kind.name,
   .literal e.target.plain.text]

theorem fieldCell_eq {v w : Value} {name : String} (hfield : v.getAttribute name = .ok w)
    (hw : w.plain.formed = .ok w.plain.text) :
    fieldCell v name = .ok (.literal w.plain.text) := by
  simp only [fieldCell, hfield, hw]
  rfl

theorem sensitiveEdges_eq {edges : List SensitiveEdge} (h : ∀ e ∈ edges, e.Legible) (width : Nat)
    (title : Text) :
    sensitiveEdges width title edges =
      table width title (sensitiveColumns.map fun c => column c.1) [edges.map sensitiveRow] := by
  refine edgeTable_eq (fun e he => ?_) width title
  have hparts := h e he
  simp only [SensitiveEdge.Legible, SensitiveEdge.parts, List.forall_mem_cons] at hparts
  obtain ⟨hsource, hcontext, hinstruction, htarget, htargetContext, _⟩ := hparts
  have hkindCell : kindCell e.toValue = .ok (.marked e.kind.name) := rfl
  have hsourceCell : fieldCell e.toValue "source" = _ := fieldCell_eq rfl hsource
  have hcontextCell : fieldCell e.toValue "source_context" = _ := fieldCell_eq rfl hcontext
  have hinstructionCell : fieldCell e.toValue "instruction" = _ := fieldCell_eq rfl hinstruction
  have htargetCell : fieldCell e.toValue "target" = _ := fieldCell_eq rfl htarget
  have htargetContextCell : fieldCell e.toValue "target_context" = _ :=
    fieldCell_eq rfl htargetContext
  simp [sensitiveColumns, hkindCell, hsourceCell, hcontextCell, hinstructionCell, htargetCell,
    htargetContextCell]
  rfl

theorem insensitiveEdges_eq {edges : List InsensitiveEdge}
    (h : ∀ e ∈ edges, ∃ e' : SensitiveEdge, e'.Legible ∧ e = e'.toInsensitive) (width : Nat)
    (title : Text) :
    insensitiveEdges width title edges =
      table width title (insensitiveColumns.map fun c => column c.1)
        [edges.map insensitiveRow] := by
  refine edgeTable_eq (fun e he => ?_) width title
  obtain ⟨e', hparts, rfl⟩ := h e he
  simp only [SensitiveEdge.Legible, SensitiveEdge.parts, List.forall_mem_cons] at hparts
  obtain ⟨hsource, _, hinstruction, htarget, _⟩ := hparts
  have hkindCell : kindCell e'.toInsensitive.toValue = .ok (.marked e'.kind.name) := rfl
  have hsourceCell : fieldCell e'.toInsensitive.toValue "source" = _ := fieldCell_eq rfl hsource
  have hinstructionCell : fieldCell e'.toInsensitive.toValue "instruction" = _ :=
    fieldCell_eq rfl hinstruction
  have htargetCell : fieldCell e'.toInsensitive.toValue "target" = _ := fieldCell_eq rfl htarget
  simp [insensitiveColumns, hkindCell, hsourceCell, hinstructionCell, htargetCell]
  rfl

end Report

end CallGraphs
