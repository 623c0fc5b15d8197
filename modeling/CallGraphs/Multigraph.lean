import CallGraphs.Outcome
import CallGraphs.Value.Equality
/-!
# Multigraphs

Directed graphs with parallel edges told apart by a key. Nodes, the targets of a node and the edges
between two nodes keep the order in which they came in; of equal values, the first stays.
-/

namespace CallGraphs

/-- What tells parallel edges apart: the instruction and its kind. -/
abbrev EdgeKey := Value × CallKind

/-- For every node its targets, and for every target the edges by key. -/
structure Multigraph (ε : Type) where
  adjacency : OrdMap Value (OrdMap Value (OrdMap EdgeKey ε))

namespace Multigraph

variable {ε : Type}

def empty : Multigraph ε :=
  ⟨.empty⟩

/-- The nodes, in order. -/
def nodes (g : Multigraph ε) : List Value :=
  g.adjacency.keys

/-- The graph with a node, which must not be the absent value. -/
def addNode (g : Multigraph ε) (v : Value) : Outcome (Multigraph ε) Unit :=
  .withKey g v <|
    if g.adjacency.contains v then .done g ()
    else if v.isNull then .fail g .nullNode
    else .done ⟨g.adjacency.insert v .empty⟩ ()

/-- The edges between two nodes by key. -/
def between (g : Multigraph ε) (u v : Value) : OrdMap EdgeKey ε :=
  ((g.adjacency.get? u).bind (·.get? v)).getD .empty

/-- Whether there is an edge of a key. Source, target and key are looked up one after another, and a
look-up that finds nothing ends the search. -/
def hasEdge (g : Multigraph ε) (u v : Value) (key : EdgeKey) : Except Failure Bool :=
  match u.unhashable? with
  | some x => .error (.unhashable x)
  | none =>
    match g.adjacency.get? u with
    | none => .ok false
    | some targets =>
      match v.unhashable? with
      | some x => .error (.unhashable x)
      | none =>
        match targets.get? v with
        | none => .ok false
        | some edges =>
          match key.1.unhashable? with
          | some x => .error (.unhashable x)
          | none => .ok (edges.contains key)

/-- The graph with an edge between two nodes of it. -/
def link (g : Multigraph ε) (u v : Value) (key : EdgeKey) (e : ε) : Multigraph ε :=
  ⟨g.adjacency.alter u fun targets =>
    (targets.getD .empty).alter v fun edges => (edges.getD .empty).insert key e⟩

/-- Add an edge. The two nodes are added first, and stay when the key turns out to be none. -/
def addEdge (g : Multigraph ε) (u v : Value) (key : EdgeKey) (e : ε) :
    Outcome (Multigraph ε) Unit :=
  (g.addNode u).andThen fun g _ =>
    (g.addNode v).andThen fun g _ => .withKey g key.1 (.done (g.link u v key e) ())

/-- The edges grouped by source, then by target, then by key. -/
def edges (g : Multigraph ε) : List (Value × Value × EdgeKey × ε) :=
  g.adjacency.entries.flatMap fun (u, targets) =>
    targets.entries.flatMap fun (v, edges) => edges.entries.map fun (key, e) => (u, v, key, e)

end Multigraph

end CallGraphs
