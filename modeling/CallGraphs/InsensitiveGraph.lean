import CallGraphs.Edge
import CallGraphs.GraphIndex
import CallGraphs.Multigraph
/-!
# The context-insensitive call graph

Procedures as nodes and calls as edges with the contexts forgotten. Every edge is stored once: a
second one with the same source, instruction, target and kind is not new.
-/

namespace CallGraphs

/-- The graph, its edges in the order of insertion, and their index by instruction, source and
target. -/
structure InsensitiveGraph where
  graph : Multigraph InsensitiveEdge
  edges : List InsensitiveEdge
  byInstruction : OrdMap Value (List InsensitiveEdge)
  outOf : OrdMap Value (List InsensitiveEdge)
  into : OrdMap Value (List InsensitiveEdge)
  frozen : Bool

/-- Counts over the graph. -/
structure InsensitiveStats where
  procedures : Nat
  edges : Nat
  edgeKinds : OrdMap CallKind Nat

namespace InsensitiveEdge

/-- The key of an edge among those between the same procedures. -/
def key (e : InsensitiveEdge) : EdgeKey :=
  (e.instruction, e.kind)

end InsensitiveEdge

namespace InsensitiveGraph

def empty : InsensitiveGraph :=
  ⟨.empty, [], .empty, .empty, .empty, false⟩

/-- The refusal of a change after the end. -/
def refusal : Failure :=
  .frozen .insensitive

/-- The procedures, in order. -/
def procedures (g : InsensitiveGraph) : List Value :=
  g.graph.nodes

/-- Put the outcome of a step on the multigraph into the whole. -/
def lift {α : Type} (g : InsensitiveGraph) (o : Outcome (Multigraph InsensitiveEdge) α) :
    Outcome InsensitiveGraph α :=
  ⟨{ g with graph := o.state }, o.answer⟩

/-- Add a procedure, with or without calls. -/
def addProcedure (g : InsensitiveGraph) (procedure : Value) : Outcome InsensitiveGraph Unit :=
  if g.frozen then .fail g refusal else g.lift (g.graph.addNode procedure)

/-- The graph with a new edge listed and indexed. -/
def store (g : InsensitiveGraph) (e : InsensitiveEdge) : InsensitiveGraph :=
  { g with
    edges := g.edges ++ [e]
    byInstruction := g.byInstruction.push e.instruction e
    outOf := g.outOf.push e.source e
    into := g.into.push e.target e }

/-- Add an edge unless it is there. The answer tells whether it was new. -/
def addEdge (g : InsensitiveGraph) (e : InsensitiveEdge) : Outcome InsensitiveGraph Bool :=
  if g.frozen then .fail g refusal
  else
    match g.graph.hasEdge e.source e.target e.key with
    | .error f => .fail g f
    | .ok true => .done g false
    | .ok false =>
      (g.lift (g.graph.addEdge e.source e.target e.key e)).andThen fun g _ => .done (g.store e) true

/-- Add whatever is offered as an edge. An edge of either type is added as it is. -/
def offer (g : InsensitiveGraph) (v : Value) : Outcome InsensitiveGraph Bool :=
  match v.callEdge? with
  | some e => g.addEdge e
  | none => if g.frozen then .fail g refusal else .fail g (.access (v.lacks "instruction"))

/-- End the construction. -/
def freeze (g : InsensitiveGraph) : Outcome InsensitiveGraph Unit :=
  if g.frozen then .fail g refusal else .done { g with frozen := true } ()

/-- The edges that leave a procedure. -/
def edgesOutOf (g : InsensitiveGraph) (procedure : Value) : Except Failure (List InsensitiveEdge) :=
  procedure.key.map g.outOf.bucket

/-- The edges that enter a procedure. -/
def edgesInto (g : InsensitiveGraph) (procedure : Value) : Except Failure (List InsensitiveEdge) :=
  procedure.key.map g.into.bucket

/-- The edges of an instruction. -/
def edgesOutOfUnit (g : InsensitiveGraph) (instruction : Value) :
    Except Failure (List InsensitiveEdge) :=
  instruction.key.map g.byInstruction.bucket

/-- Whether a value is an edge of the graph. -/
def contains (g : InsensitiveGraph) (v : Value) : Except Failure Bool :=
  match v.insensitiveEdge? with
  | some e => g.graph.hasEdge e.source e.target e.key
  | none => .ok false

/-- The number of edges. -/
def size (g : InsensitiveGraph) : Nat :=
  g.edges.length

/-- Counts over the graph. -/
def stats (g : InsensitiveGraph) : InsensitiveStats where
  procedures := g.procedures.length
  edges := g.edges.length
  edgeKinds := countKinds (g.edges.map InsensitiveEdge.kind)

end InsensitiveGraph

end CallGraphs
