import CallGraphs.Classifier
import CallGraphs.InsensitiveGraph
import CallGraphs.TransitionTable
/-!
# From transitions to graphs

One pass over the transitions of an analysis makes a context-sensitive edge for every pair of a call
site and a target, and forgets its contexts for the context-insensitive graph. Both graphs are
frozen at the end. An entry that cannot be turned into edges ends the pass, and nothing is handed
out.
-/

namespace CallGraphs

/-- What a finished analysis hands over: its procedures, and its call sites with their targets. -/
structure Source where
  methods : List Value
  transitions : List (Value × Value)

/-- A transition table as a source. -/
def TransitionTable.toSource (t : TransitionTable) : Source where
  methods := t.methods
  transitions := t.transitions.entries.map fun e => (e.1, .mapping e.2.entries)

/-- Counts over both graphs. -/
structure Stats extends IndexStats where
  insensitiveEdges : Nat
  collapsedEdges : Nat

/-- The two graphs of one pass. -/
structure Graphs where
  callGraph : InsensitiveGraph
  contextGraph : SensitiveGraph
  stats : Stats

/-- A pass under way. -/
structure Progress where
  index : GraphIndex
  graph : InsensitiveGraph
  collapsed : Nat
  events : List Event

namespace Progress

def report (p : Progress) (events : List Event) : Progress :=
  { p with events := p.events ++ events }

/-- Add an edge to both graphs and count it if the second knows it already. The report of it comes
last, so that the edge is there even if the report cannot be formed. -/
def addEdge (p : Progress) (e : SensitiveEdge) : Outcome Progress Unit :=
  let indexed := p.index.addEdge e
  let p := { p with index := indexed.state }
  match indexed.answer with
  | .error f => .fail p f
  | .ok _ =>
    let stored := p.graph.addEdge e.toInsensitive
    let p := { p with graph := stored.state }
    match stored.answer with
    | .error f => .fail p f
    | .ok new =>
      let p := { p with collapsed := if new then p.collapsed else p.collapsed + 1 }
      match (Event.added e).fault? with
      | some fault => .fail p (.unformed fault)
      | none => .done (p.report [.added e]) ()

end Progress

/-- A call site taken apart, with the procedure of its calling context and the kind of its call. -/
structure Caller where
  source : Value
  context : Value
  instruction : Value
  kind : CallKind

/-- The edge from a caller to a target analysed in a context. -/
def Caller.edge (c : Caller) (target targetContext : Value) : SensitiveEdge :=
  ⟨c.source, c.context, c.instruction, target, targetContext, c.kind⟩

/-- The failure of taking a call site apart: a missing part is a fault of the table. -/
def siteFailure (site : Value) (fault : AccessFault) : Failure :=
  if fault.isMissing then .ofTableFault (.undecomposable site) else .access fault

/-- The calling context and the call node of a call site. -/
def decompose (site : Value) : Except Failure (Value × Value) :=
  match site.getCallingContext with
  | .error fault => .error (siteFailure site fault)
  | .ok ctx =>
    match site.getCallNode with
    | .error fault => .error (siteFailure site fault)
    | .ok node => .ok (ctx, node)

/-- The procedure of a calling context. One that has none is a fault of the table, but a context
that fails to tell fails in its own way. -/
def resolveMethod (ctx site : Value) : Except Failure Value :=
  match ctx.isContext, ctx.getMethod with
  | false, _ => .error (.ofTableFault (.noProcedure ctx site))
  | true, .error fault => .error (.access fault)
  | true, .ok method =>
    if method.isNull then .error (.ofTableFault (.noProcedure ctx site)) else .ok method

/-- Add the edges from a caller to each of its targets, in order. -/
def addTargets (c : Caller) (p : Progress) : List (Value × Value) → Outcome Progress Unit
  | [] => .done p ()
  | (target, targetContext) :: rest =>
    (p.addEdge (c.edge target targetContext)).andThen fun p _ => addTargets c p rest

/-- Add the edges of one entry. It is taken apart first, then its procedure is found, then its call
is classified, and only then its targets are looked at. -/
def addEntry (classifier : Classifier) (p : Progress) (site targets : Value) :
    Outcome Progress Unit :=
  match decompose site with
  | .error f => .fail p f
  | .ok (ctx, node) =>
    match resolveMethod ctx site with
    | .error f => .fail p f
    | .ok method =>
      let classified := classifier.classify node
      let p := p.report classified.2
      match classified.1 with
      | .error f => .fail p f
      | .ok kind =>
        match targets.items? with
        | none => .fail p (.ofTableFault (.targetsNotMapping site targets))
        | some items => addTargets ⟨method, ctx, node, kind⟩ p items

/-- Add the edges of every entry, up to the first failure. -/
def addEntries (classifier : Classifier) (p : Progress) : List (Value × Value) → Outcome Progress Unit
  | [] => .done p ()
  | (site, targets) :: rest =>
    (addEntry classifier p site targets).andThen fun p _ => addEntries classifier p rest

/-- The graph with procedures added one after another. -/
def InsensitiveGraph.addProcedures (g : InsensitiveGraph) : List Value → Outcome InsensitiveGraph Unit
  | [] => .done g ()
  | p :: ps => (g.addProcedure p).andThen fun g _ => g.addProcedures ps

/-- What is reported of a failure that ends a pass. -/
def abortEvents : Failure → List Event
  | .table fault => [.aborting fault]
  | _ => []

/-- The frozen graphs and the counts of a pass that has come to its end. -/
def finish (p : Progress) : Except Failure (Graphs × Event) :=
  match p.index.freeze.answer, p.graph.freeze.answer, p.index.freeze.state.stats with
  | .ok contextGraph, .ok _, .ok counts =>
    let callGraph := p.graph.freeze.state
    let stats : Stats :=
      { counts with insensitiveEdges := callGraph.size, collapsedEdges := p.collapsed }
    .ok (⟨callGraph, contextGraph, stats⟩, .built stats.edges callGraph.size)
  | .error f, _, _ => .error f
  | _, .error f, _ => .error f
  | _, _, .error f => .error f

/-- Build both graphs from a source. The events are those reported up to the end or the failure. -/
def transform (classifier : Classifier) (source : Source) : Except Failure Graphs × List Event :=
  let index := GraphIndex.empty.setProcedures source.methods
  match index.answer with
  | .error f => (.error f, [])
  | .ok _ =>
    let graph := InsensitiveGraph.empty.addProcedures source.methods
    match graph.answer with
    | .error f => (.error f, [])
    | .ok _ =>
      let start : Progress :=
        ⟨index.state, graph.state, 0, [.building source.transitions.length source.methods.length]⟩
      let run := addEntries classifier start source.transitions
      match run.answer with
      | .error f => (.error f, run.state.events ++ abortEvents f)
      | .ok _ =>
        match finish run.state with
        | .error f => (.error f, run.state.events)
        | .ok (graphs, built) => (.ok graphs, run.state.events ++ [built])

end CallGraphs
