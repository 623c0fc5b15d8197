import CallGraphs.Value.Display
import CallGraphs.Value.Equality
/-!
# Call edges

An edge of the context-sensitive graph keeps the context on both ends; forgetting the contexts gives
an edge of the context-insensitive one. An edge that is offered to the latter with its contexts
stays as it is, but they count for nothing there.
-/

namespace CallGraphs

/-- A call edge for which contexts do not count; it may still have them. -/
structure InsensitiveEdge where
  source : Value
  instruction : Value
  target : Value
  kind : CallKind
  contexts : Option (Value × Value)

/-- A call edge with the context of each end. -/
structure SensitiveEdge where
  source : Value
  sourceContext : Value
  instruction : Value
  target : Value
  targetContext : Value
  kind : CallKind

namespace InsensitiveEdge

def toValue (e : InsensitiveEdge) : Value :=
  match e.contexts with
  | none => .insensitive e.source e.instruction e.target e.kind
  | some (ctx, ctx') => .sensitive e.source ctx e.instruction e.target ctx' e.kind

/-- Edges are the same when all their parts but the contexts are equal. -/
def same (a b : InsensitiveEdge) : Bool :=
  a.source == b.source && a.instruction == b.instruction && a.target == b.target && a.kind == b.kind

instance : BEq InsensitiveEdge :=
  ⟨same⟩

end InsensitiveEdge

namespace SensitiveEdge

def toValue (e : SensitiveEdge) : Value :=
  .sensitive e.source e.sourceContext e.instruction e.target e.targetContext e.kind

/-- The call site that an edge leaves. -/
def callSite (e : SensitiveEdge) : Value :=
  .site e.sourceContext e.instruction

/-- The edge with its contexts forgotten. -/
def toInsensitive (e : SensitiveEdge) : InsensitiveEdge :=
  ⟨e.source, e.instruction, e.target, e.kind, none⟩

/-- Edges are equal when all their parts are. -/
def same (a b : SensitiveEdge) : Bool :=
  a.source == b.source && a.sourceContext == b.sourceContext && a.instruction == b.instruction &&
    a.target == b.target && a.targetContext == b.targetContext && a.kind == b.kind

instance : BEq SensitiveEdge :=
  ⟨same⟩

end SensitiveEdge

namespace Value

/-- The context-sensitive edge that a value is. -/
def sensitiveEdge? : Value → Option SensitiveEdge
  | sensitive source ctx instr target ctx' k => some ⟨source, ctx, instr, target, ctx', k⟩
  | _ => none

/-- The context-insensitive edge that a value is. -/
def insensitiveEdge? : Value → Option InsensitiveEdge
  | insensitive source instr target k => some ⟨source, instr, target, k, none⟩
  | _ => none

/-- The edge that a value of either type is where contexts do not count. -/
def callEdge? : Value → Option InsensitiveEdge
  | insensitive source instr target k => some ⟨source, instr, target, k, none⟩
  | sensitive source ctx instr target ctx' k => some ⟨source, instr, target, k, some (ctx, ctx')⟩
  | _ => none

/-- The kind of a value that is an edge of either graph. -/
def edgeKind? : Value → Option CallKind
  | sensitive _ _ _ _ _ k => some k
  | insensitive _ _ _ k => some k
  | _ => none

end Value

end CallGraphs
