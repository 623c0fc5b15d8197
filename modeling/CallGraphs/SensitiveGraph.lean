import CallGraphs.Edge
import CallGraphs.Distinct
import CallGraphs.Failure
/-!
# The context-sensitive call graph

A finished graph: the edges in the order in which they were found, and an index of them by source
context, by call site and by target context. A query is a look-up; an unknown key has no edges.
-/

namespace CallGraphs

/-- What was offered as an edge: an edge, or a value that turned out not to be one. -/
inductive Offer where
  | edge (e : SensitiveEdge)
  | stray (v : Value)

namespace Offer

def toValue : Offer → Value
  | edge e => e.toValue
  | stray v => v

def edge? : Offer → Option SensitiveEdge
  | edge e => some e
  | stray _ => none

end Offer

/-- The graph with its three indices. -/
structure SensitiveGraph where
  outOfContext : OrdMap Value (List SensitiveEdge)
  outOfCallSite : OrdMap Value (List SensitiveEdge)
  intoContext : OrdMap Value (List SensitiveEdge)
  offers : List Offer
  procedures : List Value

namespace SensitiveGraph

/-- The edges, in order. -/
def edges (g : SensitiveGraph) : List SensitiveEdge :=
  g.offers.filterMap Offer.edge?

/-- The edges that leave a context. -/
def edgesOutOfContext (g : SensitiveGraph) (ctx : Value) : Except Failure (List SensitiveEdge) :=
  ctx.key.map g.outOfContext.bucket

/-- The edges that leave one call site. -/
def edgesOutOfCallSite (g : SensitiveGraph) (ctx instruction : Value) :
    Except Failure (List SensitiveEdge) :=
  (Value.site ctx instruction).key.map g.outOfCallSite.bucket

/-- The edges that resume in a context. -/
def edgesIntoContext (g : SensitiveGraph) (ctx : Value) : Except Failure (List SensitiveEdge) :=
  ctx.key.map g.intoContext.bucket

/-- Whether a context is on either end of some edge. -/
def hasContext (g : SensitiveGraph) (ctx : Value) : Except Failure Bool :=
  ctx.key.map fun ctx => g.outOfContext.contains ctx || g.intoContext.contains ctx

/-- The contexts: those that edges leave, then the others that edges resume in. -/
def contexts (g : SensitiveGraph) : List Value :=
  Distinct.extend g.outOfContext.keys g.intoContext.keys

/-- The call sites that edges leave. -/
def callSites (g : SensitiveGraph) : List Value :=
  g.outOfCallSite.keys

/-- The number of edges. -/
def size (g : SensitiveGraph) : Nat :=
  g.offers.length

end SensitiveGraph

namespace Value

/-- The texts by which a value that has the fields of a call site is put in order for display. -/
def siteKey (v : Value) : Except Failure (Text × Text) :=
  match v.siteParts with
  | .error fault => .error (.access fault)
  | .ok (ctx, node) => do return (← ctx.plain.formed, ← node.plain.formed)

/-- The texts by which a call site is put in order for display; nothing else has them. -/
def sortKey (v : Value) : Except Failure (Text × Text) :=
  match v.siteParts with
  | .error _ => .error (.access (v.lacks "sort_key"))
  | .ok _ => v.siteKey

/-- Order of two sort keys, by the first text and then by the second. -/
def keyLE (a b : Text × Text) : Bool :=
  a.1.numbers < b.1.numbers || (a.1 == b.1 && !(b.2.numbers < a.2.numbers))

/-- Sort keys for every value, or the first failure. -/
def sortKeys : List Value → Except Failure (List ((Text × Text) × Value))
  | [] => .ok []
  | v :: vs =>
    match v.siteKey with
    | .error f => .error f
    | .ok k => (sortKeys vs).map ((k, v) :: ·)

/-- Call sites in display order; equal keys keep their order. -/
def sortSites (sites : List Value) : Except Failure (List Value) :=
  (sortKeys sites).map fun keyed => (keyed.mergeSort fun a b => keyLE a.1 b.1).map Prod.snd

end Value

end CallGraphs
