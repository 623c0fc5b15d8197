import CallGraphs.Value.Equality
/-!
# Asking values

The questions that contexts, call sites and instructions are asked. A value answers by its type:
what it does not have is a missing attribute.
-/

namespace CallGraphs

/-- Why a question has no answer. -/
inductive AccessFault where
  | missing (typeName : String) (name : Text)
  | badContext (fault : HostFault)
  | badSite (fault : HostFault)
  deriving DecidableEq, Repr

namespace AccessFault

def message : AccessFault → Text
  | missing typeName name =>
    "\x27" ++ typeName ++ "\x27 object has no attribute \x27" ++ name ++ "\x27"
  | badContext _ => "bad context"
  | badSite _ => "bad site"

/-- Whether the fault reads as a missing attribute. -/
def isMissing : AccessFault → Bool
  | missing .. => true
  | badContext fault => fault == .noAttribute
  | badSite fault => fault == .noAttribute

end AccessFault

namespace Value

/-- The fault of asking a value for something that its type lacks. -/
def lacks (v : Value) (name : Text) : AccessFault :=
  .missing v.typeName name

/-- The procedure of a context. -/
def getMethod : Value → Except AccessFault Value
  | context method _ => .ok method
  | host _ method => .ok method
  | badContext fault => .error (.badContext fault)
  | v => .error (v.lacks "get_method")

/-- The calling context of a call site. -/
def getCallingContext : Value → Except AccessFault Value
  | site ctx _ => .ok ctx
  | halfSite ctx => .ok ctx
  | badSite fault => .error (.badSite fault)
  | v => .error (v.lacks "get_calling_context")

/-- The call node of a call site. -/
def getCallNode : Value → Except AccessFault Value
  | site _ node => .ok node
  | badSite _ => .ok null
  | v => .error (v.lacks "get_call_node")

/-- Whether a value answers as a context, be it with a failure. -/
def isContext : Value → Bool
  | context .. | host .. | badContext _ => true
  | _ => false

/-- Whether a value answers both questions of a call site, be it with a failure. -/
def isCallSite : Value → Bool
  | site .. => true
  | badSite _ => true
  | _ => false

/-- The fields of the library's own records, and of host objects that have any. -/
def attributes : Value → List (Text × Value)
  | kind k =>
    ("value", text k.name) :: ("_value_", text k.name) :: ("name", text k.constant) ::
      ("_name_", text k.constant) :: CallKind.all.map fun k' => (Text.ofString k'.constant, kind k')
  | context method value => [("method", method), ("value", value)]
  | instruction id invokeKind => [("id", text id), ("invoke_kind", ofOption invokeKind)]
  | site ctx node => [("calling_context", ctx), ("call_node", node)]
  | sensitive source ctx instr target ctx' k =>
    [("source", source), ("source_context", ctx), ("instruction", instr), ("target", target),
     ("target_context", ctx'), ("kind", kind k)]
  | insensitive source instr target k =>
    [("source", source), ("instruction", instr), ("target", target), ("kind", kind k)]
  | unit invokeKind => [("invoke_kind", invokeKind)]
  | unitTuple _ invokeKind => [("invoke_kind", invokeKind)]
  | _ => []

/-- A field of a value by its name. -/
def getAttribute (v : Value) (name : Text) : Except AccessFault Value :=
  match v.attributes.lookup name with
  | some w => .ok w
  | none => .error (v.lacks name)

/-- The items of a value that is a mapping. -/
def items? : Value → Option (List (Value × Value))
  | record fields => some (fields.map fun f => (text f.1, f.2))
  | mapping items => some items
  | _ => none

/-- The text of a value that is one; a call kind counts as its name. -/
def text? : Value → Option Text
  | text t => some t
  | kind k => some k.name
  | _ => none

/-- Whether a value is one of the library's records. -/
def isRecord : Value → Bool
  | context .. | instruction .. | site .. | sensitive .. | insensitive .. => true
  | _ => false

/-- What a value yields one after another, if it can be walked through. -/
def elements? (v : Value) : Option (List Value) :=
  match v with
  | list items => some items
  | tuple items => some items
  | unitTuple items _ => some items
  | record fields => some (fields.map fun f => text f.1)
  | mapping items => some (items.map Prod.fst)
  | _ =>
    match v.text? with
    | some t => some (t.points.map fun p => text ⟨[p]⟩)
    | none =>
      if v.isRecord then some (v.attributes.map fun f => tuple [text f.1, f.2]) else none

/-- The two texts by which call sites are sorted for display need both fields of a call site. -/
def siteParts (v : Value) : Except AccessFault (Value × Value) :=
  match v with
  | site ctx node => .ok (ctx, node)
  | v => .error (v.lacks "calling_context")

end Value

end CallGraphs
