import CallGraphs.Proofs.KindSpellings
import CallGraphs.Proofs.PassGraphs
import Mathlib.Data.List.Perm.Subperm
/-!
# Kinds of equal instructions

Equal instructions may be written differently: a kind or its name, a dictionary with its entries in
another order. The host's own word for the kind is the same on both sides, so a classifier that asks
in the standard way does not tell them apart. The exception are tuples of the host, which carry a
kind and are compared without it. In the graphs of a pass any other instruction has one kind, and
forgetting contexts leaves one edge for every source, instruction and target.
-/

namespace CallGraphs

namespace Value

end Value

namespace Classifier

end Classifier

section Passes

variable {classifier : Classifier} {source : Source} {graphs : Graphs} {es : List SensitiveEdge}

/-- An edge without its kind. -/
def InsensitiveEdge.withoutKind (e : InsensitiveEdge) : Value × Value × Value :=
  (e.source, e.instruction, e.target)

end Passes

end CallGraphs
