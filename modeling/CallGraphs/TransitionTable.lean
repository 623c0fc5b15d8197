import CallGraphs.Distinct
import CallGraphs.Outcome
import CallGraphs.Value.Equality
/-!
# Transition tables

What an analysis has found: for every call site the procedures it reaches and the context in which
each of them is analysed, and the set of all procedures, those without calls included.
-/

namespace CallGraphs

/-- The procedures in the order in which they became known, and the targets of each call site. -/
structure TransitionTable where
  methods : List Value
  transitions : OrdMap Value (OrdMap Value Value)

namespace TransitionTable

def empty : TransitionTable :=
  ⟨[], .empty⟩

instance : Inhabited TransitionTable :=
  ⟨empty⟩

/-- The table with a further procedure. -/
def addMethod (t : TransitionTable) (method : Value) : Outcome TransitionTable Unit :=
  .withKey t method (.done { t with methods := Distinct.insert t.methods method } ())

/-- The procedure that makes the calls of a call site. -/
def caller (site : Value) : Except AccessFault Value :=
  match site.getCallingContext with
  | .error fault => .error fault
  | .ok ctx => ctx.getMethod

/-- The table with the target of a call site recorded, in place of an earlier context for the same
target. -/
def record (t : TransitionTable) (site target ctx : Value) : TransitionTable :=
  { t with transitions := t.transitions.alter site fun old => (old.getD .empty).insert target ctx }

/-- Record that a call site reaches a target analysed in a context. The caller and the target become
known procedures first. -/
def addTransition (t : TransitionTable) (site target ctx : Value) : Outcome TransitionTable Unit :=
  match caller site with
  | .error fault => .fail t (.access fault)
  | .ok source =>
    (if source.isNull then Outcome.done t () else t.addMethod source).andThen fun t _ =>
      (t.addMethod target).andThen fun t _ =>
        .withKey t site (.done (t.record site target ctx) ())

/-- The targets of a call site with their contexts. -/
def targets (t : TransitionTable) (site : Value) : List (Value × Value) :=
  ((t.transitions.get? site).getD .empty).entries

/-- The targets of a call site, which must be able to be a key. -/
def getTargets (t : TransitionTable) (site : Value) : Except Failure (List (Value × Value)) :=
  site.key.map t.targets

/-- The call sites with a target that is analysed in a context. -/
def callers (t : TransitionTable) (ctx : Value) : List Value :=
  (t.transitions.entries.filter fun e => e.2.values.any (ctx == ·)).map Prod.fst

/-- The number of recorded pairs of a call site and a target. -/
def size (t : TransitionTable) : Nat :=
  t.transitions.values.foldr (fun targets n => targets.size + n) 0

end TransitionTable

end CallGraphs
