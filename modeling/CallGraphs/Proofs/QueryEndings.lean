import CallGraphs.Proofs.CommandLines
import CallGraphs.Proofs.CommandQueries
/-!
# Endings of queries

A query builds the graphs of a table and shows what it finds. It ends well, or with a message about
what a user can mend, or by a failure that escapes: one of loading, or one of showing a text with
brackets or half pairs. Building the graphs and asking them never ends a run in any other way, and
the parts of edges may hold any characters.
-/

namespace CallGraphs

namespace CommandLine

namespace Invocation

/-- The file of the table that a query is about. -/
def file (i : Invocation) : String :=
  i.values.headD ""

/-- The project that a query is told to take. -/
def path? (i : Invocation) : Option String :=
  i.words.value? pathOption

/-- The id of the context that a query is about. -/
def contextId (i : Invocation) : String :=
  (i.words.value? contextOption).getD ""

/-- The names that a query is given, other than of files: of a context, a node or a procedure. -/
def names (i : Invocation) : List String :=
  [i.contextId, (i.words.value? nodeOption).getD "", (i.values.drop 1).headD ""]

end Invocation

/-- The commands that build graphs. -/
def queries : List Action :=
  [.stats, .edges, .callees, .callers]

/-- What escapes from showing what a query has to say: the message of a failure has a bracket or
half a pair, a name that the query is given has a bracket, or a part of an edge has half a pair. -/
inductive Unshowable (s : Setting) (i : Invocation) : Failure → Prop
  | message {f f' : Failure} {events : List Event}
      (hbuild : s.build i.file i.path? = (.error f, events)) (hreported : f.isReported = true)
      (hspoils : Report.Spoils f.message f') : Unshowable s i f'
  | name {name : String} {fault : MarkupFault} (hname : name ∈ i.names)
      (hbracket : '[' ∈ name.toList) : Unshowable s i (.markup fault)
  | edge {loaded : LoadedTable} {graphs : Graphs} {events : List Event} {e : SensitiveEdge}
      {v : Value} {halves : Text.Halves}
      (hbuild : s.build i.file i.path? = (.ok (loaded, graphs), events))
      (he : e ∈ graphs.contextGraph.edges) (hv : v ∈ e.parts)
      (hhalves : v.plain.text.halves? ≠ none) :
      Unshowable s i (.unprintable halves)

/-- How a query on a table of given bytes ends. With graphs it ends well, unless it is about a
context that is not declared. Without graphs it says why. Or a failure escapes, of loading or of
showing. -/
inductive Ends (s : Setting) (i : Invocation) (bytes : List UInt8) (r : Reply) : Prop
  | shown {loaded : LoadedTable} {graphs : Graphs} {events : List Event}
      (hbuild : s.build i.file i.path? = (.ok (loaded, graphs), events))
      (hending : r.ending = .exit 0)
  | unknownContext {loaded : LoadedTable} {graphs : Graphs} {events : List Event}
      (hbuild : s.build i.file i.path? = (.ok (loaded, graphs), events))
      (haction : i.action = .edges) (hcontext : loaded.contexts.get? i.contextId = none)
      (hending : r.ending = .exit 1)
      (houtput : Report.message s.width .error ("Unknown context: " ++ i.contextId) = .ok r.output)
  | refused {f : Failure} {events : List Event}
      (hbuild : s.build i.file i.path? = (.error f, events)) (hreported : f.isReported = true)
      (hending : r.ending = .exit 1)
      (houtput : Report.message s.width .error f.message = .ok r.output)
  | escaped {f : Failure} (hending : r.ending = .escaped f)
      (hcause : LoadEscape s i.path? bytes f ∨ Unshowable s i f)

namespace Setting

/-- A complaint is shown, or its text is spoilt. -/
theorem complain_cases (s : Setting) (events : List Event) (text : Text) :
    ((s.complain events text).ending = .exit 1 ∧
        Report.message s.width .error text = .ok (s.complain events text).output) ∨
      ∃ f, (s.complain events text).ending = .escaped f ∧ Report.Spoils text f := by
  rw [complain]
  cases hmessage : Report.message s.width .error text with
  | ok shown =>
      refine .inl ⟨rfl, ?_⟩
      rw [Reply.saying, String.empty_append]
      rfl
  | error f => exact .inr ⟨f, rfl, Report.message_eq_error hmessage⟩

/-- Found edges are shown, or that there are none, unless the text or the table for it cannot be. -/
theorem showFound_cases (s : Setting) (events : List Event) {ε : Type} (edges : List ε)
    (none : Text) (table : List ε → Report.Shown) :
    (s.showFound events (.ok edges) none table).ending = .exit 0 ∨
      ∃ f, (s.showFound events (.ok edges) none table).ending = .escaped f ∧
        (Report.Spoils none f ∨ table edges = .error f) := by
  cases edges with
  | nil =>
      rw [showFound, succeed]
      cases hmessage : Report.message s.width .warning none with
      | ok shown => exact .inl rfl
      | error f => exact .inr ⟨f, rfl, .inl (Report.message_eq_error hmessage)⟩
  | cons e edges =>
      have hfound : Report.Simple ("Found " ++ toString (e :: edges).length ++ " edge(s)") :=
        ((Report.worded_ofString (by decide)).append (Report.simple_toString _)).append
          (Report.worded_ofString (by decide))
      obtain ⟨shown, hshown⟩ :=
        Report.message_shown s.width .info hfound.halves hfound.not_mem
      rw [showFound, succeed, hshown]
      cases htable : table (e :: edges) with
      | ok shown' => exact .inl rfl
      | error f => exact .inr ⟨f, rfl, .inr rfl⟩
      · intro hnil
        cases hnil

/-- A refusal that is reported is shown, or its message is spoilt. -/
theorem refuse_ends {s : Setting} {i : Invocation} {f : Failure} {events : List Event}
    (hbuild : s.build i.file i.path? = (.error f, events)) (hreported : f.isReported = true)
    (bytes : List UInt8) : Ends s i bytes (s.refuse events f) := by
  rw [refuse, if_pos hreported]
  rcases s.complain_cases events f.message with ⟨hending, houtput⟩ | ⟨f', hending, hspoils⟩
  · exact .refused hbuild hreported hending houtput
  · exact .escaped hending (.inr (.message hbuild hreported hspoils))

/-- A table of edges that cannot be shown has a title with a bracket, which comes from a name, or
half a pair in a part of an edge. -/
theorem unshowable_of_table {s : Setting} {i : Invocation} {loaded : LoadedTable} {graphs : Graphs}
    {events : List Event} (hbuild : s.build i.file i.path? = (.ok (loaded, graphs), events))
    {ε : Type} {row : ε → List Report.Cell} {edges : List ε} {title : Text}
    {columns : List Layout.Column} {f : Failure} (htitle : Report.Worded i.names title)
    (hrow : ∀ e ∈ edges, ∀ cell ∈ row e, Report.Simple cell.text ∨
      ∃ e' ∈ graphs.contextGraph.edges, ∃ v ∈ e'.parts, cell = .literal v.plain.text)
    (h : Report.table s.width title columns [edges.map row] = .error f) : Unshowable s i f := by
  have htagless : ∀ rows ∈ [edges.map row], ∀ cells ∈ rows, ∀ cell ∈ cells,
      Report.Cell.Tagless cell := by
    intro rows hrows cells hcells cell hcell
    rw [List.mem_singleton.mp hrows] at hcells
    obtain ⟨e, he, rfl⟩ := List.mem_map.mp hcells
    rcases hrow e he cell hcell with hsimple | ⟨_, _, _, _, rfl⟩
    · cases cell with
      | marked t => exact hsimple.not_mem
      | literal t => exact trivial
    · exact trivial
  rcases Report.table_eq_error htagless h with hspoils | ⟨⟨halves, rfl⟩, cell, hcell, hhalves⟩
  · obtain ⟨fault, rfl, name, hname, hbracket⟩ := htitle.of_spoils hspoils
    exact .name hname hbracket
  · rw [List.flatten_singleton] at hcell
    obtain ⟨cells, hcells, hmem⟩ := List.mem_flatten.mp hcell
    obtain ⟨e, he, rfl⟩ := List.mem_map.mp hcells
    rcases hrow e he cell hmem with hsimple | ⟨e', he', v, hv, rfl⟩
    · exact absurd hsimple.halves hhalves
    · exact .edge hbuild he' hv hhalves

theorem sensitiveRow_cases (e : SensitiveEdge) : ∀ cell ∈ Report.sensitiveRow e,
    Report.Simple cell.text ∨ ∃ v ∈ e.parts, cell = .literal v.plain.text := by
  intro cell hcell
  simp only [Report.sensitiveRow, List.mem_cons, List.not_mem_nil, or_false] at hcell
  rcases hcell with rfl | rfl | rfl | rfl | rfl | rfl
  · exact .inr ⟨e.source, by simp [SensitiveEdge.parts], rfl⟩
  · exact .inr ⟨e.sourceContext, by simp [SensitiveEdge.parts], rfl⟩
  · exact .inr ⟨e.instruction, by simp [SensitiveEdge.parts], rfl⟩
  · exact .inl (Report.simple_name e.kind)
  · exact .inr ⟨e.target, by simp [SensitiveEdge.parts], rfl⟩
  · exact .inr ⟨e.targetContext, by simp [SensitiveEdge.parts], rfl⟩

/-- The cells of an edge without contexts are cells of the edge that it comes from. -/
theorem insensitiveRow_subset (e : SensitiveEdge) :
    Report.insensitiveRow e.toInsensitive ⊆ Report.sensitiveRow e := by
  simp [Report.insensitiveRow, Report.sensitiveRow, SensitiveEdge.toInsensitive]

/-- What is found for a query is shown, or that there is nothing, or something cannot be shown. -/
theorem showFound_ends {s : Setting} {i : Invocation} {loaded : LoadedTable} {graphs : Graphs}
    {events : List Event} (hbuild : s.build i.file i.path? = (.ok (loaded, graphs), events))
    (bytes : List UInt8) {ε : Type} {edges : List ε} {none : Text}
    {table : List ε → Report.Shown} (hnone : Report.Worded i.names none)
    (htable : ∀ f, table edges = .error f → Unshowable s i f) :
    Ends s i bytes (s.showFound events (.ok edges) none table) := by
  rcases s.showFound_cases events edges none table with hending | ⟨f, hending, hspoils | hfails⟩
  · exact .shown hbuild hending
  · obtain ⟨fault, rfl, name, hname, hbracket⟩ := hnone.of_spoils hspoils
    exact .escaped hending (.inr (.name hname hbracket))
  · exact .escaped hending (.inr (htable f hfails))

section Queries

variable {loaded : LoadedTable} {graphs : Graphs} {classifier : Classifier} {j : Json}
  (hparse : LoadedTable.parse j = .ok loaded)
  (hgraphs : (transform classifier loaded.table.toSource).1 = .ok graphs)
include hparse hgraphs

/-- All that an edge of the graph is about has a text. -/
theorem legible_of_mem {e : SensitiveEdge} (he : e ∈ graphs.contextGraph.edges) : e.Legible := by
  obtain ⟨d, _, _, hd, hreads⟩ := LoadedTable.parse_reads hparse
  obtain ⟨es, hbuilt⟩ := transform_built hgraphs
  rw [hbuilt.edges] at he
  exact (hreads.madeFrom hd hgraphs hbuilt he).legible

/-- Asking for the edges of a declared context always succeeds, with edges of the graph. -/
theorem contextEdges_eq_ok {id : Text} {ctx : Value} (hctx : loaded.contexts.get? id = some ctx)
    (node : Option Text) (into : Bool) :
    ∃ found, (contextEdges loaded graphs.contextGraph id ctx node into).1 = .ok found ∧
      ∀ e ∈ found, e ∈ graphs.contextGraph.edges := by
  obtain ⟨d, _, _, hd, hreads⟩ := LoadedTable.parse_reads hparse
  obtain ⟨es, hbuilt⟩ := transform_built hgraphs
  have hkey := hreads.hashable_context hctx
  rw [hbuilt.edges]
  cases into with
  | true =>
      refine ⟨es.filter (·.targetContext == ctx), ?_, fun e he => List.mem_of_mem_filter he⟩
      change graphs.contextGraph.edgesIntoContext ctx = _
      rw [hbuilt.edgesIntoContext, Value.key_map_of_hashable hkey]
  | false =>
      cases node with
      | none =>
          exact ⟨es.filter (·.sourceContext == ctx), hreads.contextEdges_eq hbuilt hctx,
            fun e he => List.mem_of_mem_filter he⟩
      | some node =>
          have hmade : ∀ e ∈ es, LoadedTable.MadeFrom d loaded e :=
            fun e he => hreads.madeFrom hd hgraphs hbuilt he
          exact ⟨_, hreads.contextEdges_node hbuilt hmade hctx node,
            fun e he => List.mem_of_mem_filter (List.mem_of_mem_filter he)⟩

omit hparse in
/-- Asking for the calls of a procedure always succeeds, with edges of the graph less their
contexts. -/
theorem callEdges_eq_ok {p : Value} (hp : p.hashable = true) :
    (∃ found, graphs.callGraph.edgesOutOf p = .ok found ∧
        ∀ e ∈ found, ∃ e' ∈ graphs.contextGraph.edges, e = e'.toInsensitive) ∧
      ∃ found, graphs.callGraph.edgesInto p = .ok found ∧
        ∀ e ∈ found, ∃ e' ∈ graphs.contextGraph.edges, e = e'.toInsensitive := by
  obtain ⟨es, hbuilt⟩ := transform_built hgraphs
  have hstored := transform_stored hgraphs
  have hmem : ∀ e ∈ graphs.callGraph.edges, ∃ e' ∈ graphs.contextGraph.edges,
      e = e'.toInsensitive := by
    intro e he
    rw [hbuilt.callEdges] at he
    obtain ⟨e', he', rfl⟩ := List.mem_map.mp (Distinct.mem_ofList he)
    exact ⟨e', hbuilt.edges ▸ he', rfl⟩
  constructor
  · refine ⟨graphs.callGraph.edges.filter (·.source == p), ?_, ?_⟩
    · rw [InsensitiveGraph.edgesOutOf, Value.key_map_of_hashable hp, hstored.outOf hp]
    · exact fun e he => hmem e (List.mem_of_mem_filter he)
  · refine ⟨graphs.callGraph.edges.filter (·.target == p), ?_, ?_⟩
    · rw [InsensitiveGraph.edgesInto, Value.key_map_of_hashable hp, hstored.into hp]
    · exact fun e he => hmem e (List.mem_of_mem_filter he)

end Queries

/-- The title of the edges of a context is worded with its id and the node. -/
theorem worded_contextEdges {names : List String} {id : String} (hid : id ∈ names)
    {node : Option String} (hnode : node.getD "" ∈ names) (into : Bool) (loaded : LoadedTable)
    (graph : SensitiveGraph) (ctx : Value) :
    Report.Worded names
      (contextEdges loaded graph id ctx (node.map Text.ofString) into).2 := by
  cases into with
  | true => exact Report.worded_about (by decide) hid
  | false =>
      cases node with
      | none => exact Report.worded_about (by decide) hid
      | some node =>
          exact ((Report.worded_about (by decide) hid).append
            (Report.worded_ofString (by decide))).append (Report.worded_name hnode)

section Perform

variable {s : Setting} {i : Invocation} {bytes : List UInt8}
  (hnull : (Path.ofText i.file).hasNull = false)
  (hread : s.tree.read (Path.ofText i.file) = .ok bytes)
include hnull hread

theorem withGraphs_of_loadEscape {f : Failure} (h : LoadEscape s i.path? bytes f)
    (next : LoadedTable → Graphs → List Event → Reply) :
    (s.withGraphs i.file i.path? next).ending = .escaped f := by
  rw [withGraphs, build_of_loadEscape hnull hread h]
  simp only [refuse, h.not_reported, Bool.false_eq_true, if_false]

/-- A query ends as what it does with the graphs, or as its loading fails. -/
theorem withGraphs_ends {next : LoadedTable → Graphs → List Event → Reply}
    (hnext : ∀ loaded graphs events config j, LoadedTable.parse j = .ok loaded →
      (transform (.ofConfig config .standard) loaded.table.toSource).1 = .ok graphs →
      s.build i.file i.path? = (.ok (loaded, graphs), events) →
      Ends s i bytes (next loaded graphs events)) :
    Ends s i bytes (s.withGraphs i.file i.path? next) := by
  rcases build_cases hnull hread with ⟨f, hescape, hbuild⟩ | ⟨f, events, hreported, hbuild⟩ |
    ⟨loaded, graphs, events, config, j, hparse, hgraphs, hbuild⟩
  · exact .escaped (withGraphs_of_loadEscape hnull hread hescape next) (.inl hescape)
  · rw [withGraphs, hbuild]
    exact refuse_ends hbuild hreported bytes
  · rw [withGraphs, hbuild]
    exact hnext loaded graphs events config j hparse hgraphs hbuild

theorem stats_ends : Ends s i bytes (s.stats i.file i.path?) := by
  apply withGraphs_ends hnull hread
  intro loaded graphs events config j _ _ hbuild
  obtain ⟨shown, hshown⟩ := Report.stats_shown s.width graphs.stats
  refine .shown hbuild ?_
  rw [succeed, hshown]
  rfl

theorem edges_ends (haction : i.action = .edges) :
    Ends s i bytes (s.edges i.file i.contextId ((i.words.value? nodeOption).map Text.ofString)
      (i.words.has intoOption) i.path?) := by
  have hid : i.contextId ∈ i.names := List.mem_cons_self
  have hnode : (i.words.value? nodeOption).getD "" ∈ i.names := by simp [Invocation.names]
  have hunknown : Report.Worded i.names ("Unknown context: " ++ i.contextId) :=
    Report.worded_about (by decide) hid
  apply withGraphs_ends hnull hread
  intro loaded graphs events config j hparse hgraphs hbuild
  cases hctx : loaded.contexts.get? i.contextId with
  | none =>
      rcases s.complain_cases events ("Unknown context: " ++ i.contextId) with
        ⟨hending, houtput⟩ | ⟨f, hending, hspoils⟩
      · exact .unknownContext hbuild haction hctx hending houtput
      · obtain ⟨fault, rfl, name, hname, hbracket⟩ := hunknown.of_spoils hspoils
        exact .escaped hending (.inr (.name hname hbracket))
  | some ctx =>
      obtain ⟨found, hfound, hmem⟩ := contextEdges_eq_ok hparse hgraphs hctx
        ((i.words.value? nodeOption).map Text.ofString) (i.words.has intoOption)
      have htitle := worded_contextEdges hid hnode (i.words.has intoOption) loaded
        graphs.contextGraph ctx
      simp only [hfound]
      apply showFound_ends hbuild bytes (Report.worded_quoted (by decide) hid)
      intro f hfails
      rw [Report.sensitiveEdges_eq fun e he => legible_of_mem hparse hgraphs (hmem e he)] at hfails
      refine unshowable_of_table hbuild htitle ?_ hfails
      intro e he cell hcell
      rcases sensitiveRow_cases e cell hcell with hsimple | hpart
      · exact .inl hsimple
      · exact .inr ⟨e, hmem e he, hpart⟩

/-- Calls of a procedure that are found in the graphs are shown, or something cannot be shown. -/
theorem calls_ends {ask : Graphs → Except Failure (List InsensitiveEdge)} {none title : Text}
    (hask : ∀ (loaded : LoadedTable) (graphs : Graphs) (classifier : Classifier),
      (transform classifier loaded.table.toSource).1 = .ok graphs →
      ∃ found, ask graphs = .ok found ∧
        ∀ e ∈ found, ∃ e' ∈ graphs.contextGraph.edges, e = e'.toInsensitive)
    (hnone : Report.Worded i.names none) (htitle : Report.Worded i.names title) :
    Ends s i bytes (s.withGraphs i.file i.path? fun _ graphs events =>
      s.showFound events (ask graphs) none (Report.insensitiveEdges s.width title)) := by
  apply withGraphs_ends hnull hread
  intro loaded graphs events config j hparse hgraphs hbuild
  obtain ⟨found, hfound, hmem⟩ := hask loaded graphs _ hgraphs
  simp only [hfound]
  apply showFound_ends hbuild bytes hnone
  intro f hfails
  have hlegible : ∀ e ∈ found, ∃ e' : SensitiveEdge, e'.Legible ∧ e = e'.toInsensitive := by
    intro e he
    obtain ⟨e', he', heq⟩ := hmem e he
    exact ⟨e', legible_of_mem hparse hgraphs he', heq⟩
  rw [Report.insensitiveEdges_eq hlegible] at hfails
  refine unshowable_of_table hbuild htitle ?_ hfails
  intro e he cell hcell
  obtain ⟨e', he', rfl⟩ := hmem e he
  rcases sensitiveRow_cases e' cell (insensitiveRow_subset e' hcell) with hsimple | hpart
  · exact .inl hsimple
  · exact .inr ⟨e', he', hpart⟩

theorem callees_ends {p : String} (hp : p ∈ i.names) :
    Ends s i bytes (s.callees i.file p i.path?) := by
  apply calls_ends hnull hread
  · exact fun _ _ _ hgraphs => (callEdges_eq_ok hgraphs rfl).1
  · exact Report.worded_quoted (by decide) hp
  · exact Report.worded_about (by decide) hp

theorem callers_ends {p : String} (hp : p ∈ i.names) :
    Ends s i bytes (s.callers i.file p i.path?) := by
  apply calls_ends hnull hread
  · exact fun _ _ _ hgraphs => (callEdges_eq_ok hgraphs rfl).2
  · exact Report.worded_quoted (by decide) hp
  · exact Report.worded_about (by decide) hp

/-- Every query ends in one of the ways, and by what escapes from loading if anything does. -/
theorem perform_ends (haction : i.action ∈ queries) :
    Ends s i bytes (s.perform i) ∧
      ∀ f, LoadEscape s i.path? bytes f → (s.perform i).ending = .escaped f := by
  have hprocedure : (i.values.drop 1).headD "" ∈ i.names := by simp [Invocation.names]
  have hescapes (next : LoadedTable → Graphs → List Event → Reply) (f : Failure)
      (h : LoadEscape s i.path? bytes f) :
      (s.withGraphs i.file i.path? next).ending = .escaped f :=
    withGraphs_of_loadEscape hnull hread h next
  simp only [queries, List.mem_cons, List.not_mem_nil, or_false] at haction
  rcases haction with haction | haction | haction | haction
  · simp only [perform, haction]
    exact ⟨stats_ends hnull hread, hescapes _⟩
  · simp only [perform, haction]
    exact ⟨edges_ends hnull hread haction, hescapes _⟩
  · simp only [perform, haction]
    exact ⟨callees_ends hnull hread hprocedure, hescapes _⟩
  · simp only [perform, haction]
    exact ⟨callers_ends hnull hread hprocedure, hescapes _⟩

end Perform

end Setting

/-- A query that is run is about a file that can be read. -/
theorem CommandSpec.file_of_request {c : CommandSpec} (hc : c ∈ commands)
    (hquery : c.action ∈ queries) {t : FileTree} {words : List String} {i : Invocation}
    (h : c.request t words = .ok (.run i)) :
    (Path.ofText i.file).hasNull = false ∧ ∃ bytes, t.read (Path.ofText i.file) = .ok bytes := by
  have hfirst : ∀ c ∈ commands, c.action ∈ queries → c.arguments.head? = some tableArgument := by
    decide
  obtain ⟨arguments, harguments⟩ := List.head?_eq_some_iff.mp (hfirst c hc hquery)
  have htaken := (c.of_request h).2
  rw [harguments] at htaken
  obtain ⟨file, values, hcheck, hvalues⟩ := takeArguments_cons_eq_ok htaken
  rw [Invocation.file, hvalues]
  exact checkArgument_eq_ok rfl hcheck

/-- How queries end, whatever their files and their words. One that is run ends in one of the ways
above, and what escapes from loading always ends it. Words that ask for no run end with help, with
what is wrong about them, or by a null character in one of them. -/
theorem query_endings (s : Setting) (name : String) {c : CommandSpec} (hc : c ∈ commands)
    (hquery : c.action ∈ queries) (words : List String) :
    (∀ i, c.request s.tree words = .ok (.run i) →
      ∃ bytes, s.tree.read (Path.ofText i.file) = .ok bytes ∧
        Ends s i bytes (s.runCommand name c words) ∧
        ∀ f, LoadEscape s i.path? bytes f → (s.runCommand name c words).ending = .escaped f) ∧
    ((∀ i, c.request s.tree words ≠ .ok (.run i)) →
      (s.runCommand name c words).ending = .exit 0 ∨
      (s.runCommand name c words).ending = .exit 2 ∨
      (s.runCommand name c words).ending = .escaped .nullInPath ∧
        ∃ word ∈ words, (Path.ofText word).hasNull = true) := by
  constructor
  · intro i hrequest
    obtain ⟨hnull, bytes, hread⟩ := c.file_of_request hc hquery hrequest
    have haction : i.action ∈ queries := by
      rw [c.action_of_request hrequest]
      exact hquery
    rw [Setting.runCommand, hrequest]
    exact ⟨bytes, hread, Setting.perform_ends hnull hread haction⟩
  · intro hnone
    cases hrequest : c.request s.tree words with
    | error refusal =>
        rw [Setting.runCommand, hrequest]
        cases refusal with
        | usage fault => exact .inr (.inl rfl)
        | failure f =>
            obtain ⟨rfl, hword⟩ := c.request_eq_failure hrequest
            exact .inr (.inr ⟨rfl, hword⟩)
    | ok request =>
        rw [Setting.runCommand, hrequest]
        cases request with
        | help => exact .inl rfl
        | version => exact .inl rfl
        | run i => exact absurd hrequest (hnone i)

/-- A command that takes a table only is run on the file that is named. -/
theorem CommandSpec.request_table {c : CommandSpec} (hoptions : c.options = [pathOption])
    (harguments : c.arguments = [tableArgument]) {t : FileTree} {file : String}
    {bytes : List UInt8} (hword : looksLikeOption file = false)
    (hnull : (Path.ofText file).hasNull = false) (hstat : statText t file = some (.file bytes)) :
    c.request t [file] = .ok (.run ⟨c.action, ⟨[], [file]⟩, [file]⟩) := by
  have hsorted : sortWords [pathOption, helpOption] true .empty [file] = .ok ⟨[], [file]⟩ := by
    simp [sortWords, hword, ne_dashes hword, Words.empty]
  have hcheck : checkArgument t tableArgument file = .ok () := by
    simp [checkArgument, tableArgument, hnull, hstat]
  have htaken : takeArguments t [tableArgument] [file] = .ok ([file], []) := by
    rw [takeArguments, hcheck]
    rfl
  rw [request_eq, hoptions, harguments]
  simp only [List.cons_append, List.nil_append, hsorted, htaken]
  rfl

/-- A project with an empty table, whose configuration is a list. -/
def listedConfig : FileTree :=
  ⟨⟨[(["work"], .directory), (["work", "t.json"], .file [0x7B, 0x7D]),
    (["work", Project.folder], .directory),
    (["work", Project.folder, Project.fileName], .file [0x5B, 0x5D])]⟩, ["work"]⟩

theorem query_endings_listed_config :
    (run listedConfig 80 ["stats", "t.json"]).ending = .escaped (.notMapping "list") := by
  have hc : commands.getLast (by decide) ∈ commands := List.getLast_mem (by decide)
  have hprobe : listedConfig.probe (Project.configPath (.ofLocation ["work"])) =
      .ok (some (.file [0x5B, 0x5D])) := by decide
  have hdecode : Text.Utf8.decode [0x5B, 0x5D] = .ok ['[', ']'] := by decide +kernel
  have hread : Json.read (Text.unifyBreaks ['[', ']']) = .ok (.array []) := by cbv
  have hescape : LoadEscape ⟨listedConfig, 80, false⟩ none [0x7B, 0x7D] (.notMapping "list") :=
    .config (.load rfl (.noObject hprobe hdecode hread fun _ h => (by cases h)))
  have hstat : statText listedConfig "t.json" = some (.file [0x7B, 0x7D]) := by decide +kernel
  obtain ⟨bytes, hbytes, _, hescapes⟩ :=
    (query_endings ⟨listedConfig, 80, false⟩ (program.path ++ " stats") hc (by decide)
      ["t.json"]).1 _ (CommandSpec.request_table rfl rfl (by decide) (by decide) hstat)
  cases hbytes
  exact (congrArg Reply.ending (run_command listedConfig 80 hc ["t.json"])).trans
    (hescapes _ hescape)

/-- A table file of one byte, which begins no character. -/
def strayByte : FileTree :=
  ⟨⟨[(["work"], .directory), (["work", "t.json"], .file [0xFF])]⟩, ["work"]⟩

/-- A table that is no text ends a query without a message. -/
theorem stray_byte_escapes :
    (run strayByte 80 ["stats", "t.json"]).ending =
      .escaped (.undecodable ⟨0xFF, 0, 1, .invalidStart⟩) := by
  have hc : commands.getLast (by decide) ∈ commands := List.getLast_mem (by decide)
  have hdecode : Text.Utf8.decode [0xFF] = .error ⟨0xFF, 0, 1, .invalidStart⟩ := by decide +kernel
  have hconfig : (⟨strayByte, 80, false⟩ : Setting).projectConfig none = .ok (.default "") := rfl
  have hstat : statText strayByte "t.json" = some (.file [0xFF]) := by decide +kernel
  have hperform := Setting.perform_ends (s := ⟨strayByte, 80, false⟩)
    (i := ⟨.stats, ⟨[], ["t.json"]⟩, ["t.json"]⟩) (by decide) rfl (by decide)
  refine (congrArg Reply.ending (run_command strayByte 80 hc ["t.json"])).trans ?_
  rw [Setting.runCommand, CommandSpec.request_table rfl rfl (by decide) (by decide) hstat]
  exact hperform.2 _ (.table hconfig (.undecodable hdecode))

end CommandLine

end CallGraphs
