import CallGraphs.Outcome
import CallGraphs.SensitiveGraph
/-!
# Building the context-sensitive graph

A builder collects edges and indexes each of them three times. It works until it is frozen, which
hands out the finished graph; afterwards every change is refused.
-/

namespace CallGraphs

/-- Counts over the indices. -/
structure IndexStats where
  procedures : Nat
  edges : Nat
  contexts : Nat
  callSites : Nat
  edgeKinds : OrdMap CallKind Nat

/-- The number of edges of each kind, in the order of the first edge of the kind. -/
def countKinds (kinds : List CallKind) : OrdMap CallKind Nat :=
  kinds.foldl (fun m k => m.alter k fun n => n.getD 0 + 1) .empty

/-- A graph under construction. -/
structure GraphIndex where
  outOfContext : OrdMap Value (List SensitiveEdge)
  outOfCallSite : OrdMap Value (List SensitiveEdge)
  intoContext : OrdMap Value (List SensitiveEdge)
  offers : List Offer
  procedures : List Value
  frozen : Bool

namespace GraphIndex

def empty : GraphIndex :=
  ⟨.empty, .empty, .empty, [], [], false⟩

/-- The refusal of a change after the end. -/
def refusal : Failure :=
  .frozen .sensitive

/-- The index with a procedure known. -/
def addProcedure (g : GraphIndex) (procedure : Value) : Outcome GraphIndex Unit :=
  .withKey g procedure (.done { g with procedures := Distinct.insert g.procedures procedure } ())

/-- The index with procedures known one after another, up to the first that cannot be a key. -/
def addProcedures (g : GraphIndex) : List Value → Outcome GraphIndex Unit
  | [] => .done g ()
  | p :: ps => (g.addProcedure p).andThen fun g _ => g.addProcedures ps

/-- Make the procedures of an analysis known. -/
def setProcedures (g : GraphIndex) (procedures : List Value) : Outcome GraphIndex Unit :=
  if g.frozen then .fail g refusal else g.addProcedures procedures

/-- Make known whatever a value yields. -/
def setProceduresOf (g : GraphIndex) (v : Value) : Outcome GraphIndex Unit :=
  if g.frozen then .fail g refusal
  else
    match v.elements? with
    | some procedures => g.addProcedures procedures
    | none => .fail g (.notIterable v.typeName)

/-- The index with an edge listed, but not yet found by any key. -/
def list (g : GraphIndex) (o : Offer) : GraphIndex :=
  { g with offers := g.offers ++ [o] }

def indexSource (g : GraphIndex) (e : SensitiveEdge) : Outcome GraphIndex Unit :=
  .withKey g e.sourceContext
    (.done { g with outOfContext := g.outOfContext.push e.sourceContext e } ())

def indexCallSite (g : GraphIndex) (e : SensitiveEdge) : Outcome GraphIndex Unit :=
  .withKey g e.callSite (.done { g with outOfCallSite := g.outOfCallSite.push e.callSite e } ())

def indexTarget (g : GraphIndex) (e : SensitiveEdge) : Outcome GraphIndex Unit :=
  .withKey g e.targetContext
    (.done { g with intoContext := g.intoContext.push e.targetContext e } ())

/-- Add an edge: list it, index it by source context, call site and target context, and make its two
procedures known. A part that cannot be a key stops the rest. -/
def addEdge (g : GraphIndex) (e : SensitiveEdge) : Outcome GraphIndex Unit :=
  if g.frozen then .fail g refusal
  else
    ((g.list (.edge e)).indexSource e).andThen fun g _ =>
      (g.indexCallSite e).andThen fun g _ =>
        (g.indexTarget e).andThen fun g _ =>
          (g.addProcedure e.source).andThen fun g _ => g.addProcedure e.target

/-- Add whatever is offered as an edge. A value that is none is listed before that shows. -/
def offer (g : GraphIndex) (v : Value) : Outcome GraphIndex Unit :=
  match v.sensitiveEdge? with
  | some e => g.addEdge e
  | none =>
    if g.frozen then .fail g refusal
    else .fail (g.list (.stray v)) (.access (v.lacks "source_context"))

/-- The finished graph over the same indices. -/
def view (g : GraphIndex) : SensitiveGraph :=
  ⟨g.outOfContext, g.outOfCallSite, g.intoContext, g.offers, g.procedures⟩

/-- End the construction and hand out the graph. -/
def freeze (g : GraphIndex) : Outcome GraphIndex SensitiveGraph :=
  if g.frozen then .fail g refusal else .done { g with frozen := true } g.view

/-- The kinds of the listed edges, or the first that has none. -/
def kinds : List Offer → Except AccessFault (List CallKind)
  | [] => .ok []
  | o :: os =>
    match o.toValue.edgeKind? with
    | some k => (kinds os).map (k :: ·)
    | none => .error (o.toValue.lacks "kind")

/-- Counts over the indices. -/
def stats (g : GraphIndex) : Except Failure IndexStats :=
  match kinds g.offers with
  | .error fault => .error (.access fault)
  | .ok ks =>
    .ok
      { procedures := g.procedures.length
        edges := g.offers.length
        contexts := g.view.contexts.length
        callSites := g.outOfCallSite.size
        edgeKinds := countKinds ks }

end GraphIndex

end CallGraphs
