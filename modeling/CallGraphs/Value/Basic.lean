import CallGraphs.CallKind
import CallGraphs.Json.Basic
/-!
# Values

What an analysis hands over is opaque to the graphs: procedures, contexts and instructions are
values that are only compared, looked up and shown. Beside plain data there are the library's own
records (contexts, instructions, call sites and edges) and objects of the host program, of which
only some answer the questions that a call site or a context is asked.
-/

namespace CallGraphs

/-- The failure that a broken object of the host reports. -/
inductive HostFault where
  | badValue
  | noAttribute
  deriving DecidableEq, Repr

def HostFault.name : HostFault → String
  | badValue => "ValueError"
  | noAttribute => "AttributeError"

/-- A value of the host program. -/
inductive Value where
  | null
  | bool (b : Bool)
  | int (n : Int)
  | float (x : Binary64)
  | text (t : Text)
  | kind (k : CallKind)
  | list (items : List Value)
  | tuple (items : List Value)
  /-- A plain dictionary with text keys. -/
  | record (fields : List (Text × Value))
  /-- A mapping of the host, given by its items; keys may repeat. -/
  | mapping (items : List (Value × Value))
  /-- A calling environment: its procedure and what distinguishes it from others of that procedure. -/
  | context (method value : Value)
  /-- A call instruction with the host's own name for its kind. -/
  | instruction (id : Text) (invokeKind : Option Text)
  /-- A call instruction within a calling context. -/
  | site (context node : Value)
  | sensitive (source sourceContext instruction target targetContext : Value) (kind : CallKind)
  | insensitive (source instruction target : Value) (kind : CallKind)
  /-- A host object that answers nothing. -/
  | bare (name : Text)
  /-- A host instruction that carries an invocation kind. -/
  | unit (invokeKind : Value)
  /-- A host tuple that carries an invocation kind, which has no part in comparing it. -/
  | unitTuple (items : List Value) (invokeKind : Value)
  /-- A host context that names its procedure. -/
  | host (name : Text) (method : Value)
  /-- A host call site that has a calling context but no call node. -/
  | halfSite (context : Value)
  /-- A host context whose procedure cannot be had. -/
  | badContext (fault : HostFault)
  /-- A host call site whose calling context cannot be had. -/
  | badSite (fault : HostFault)

namespace Value

instance : Inhabited Value :=
  ⟨null⟩

/-- The name of a value's type, as messages give it. -/
def typeName : Value → String
  | null => "NoneType"
  | bool _ => "bool"
  | int _ => "int"
  | float _ => "float"
  | text _ => "str"
  | kind _ => "CallKind"
  | list _ => "list"
  | tuple _ => "tuple"
  | record _ => "dict"
  | mapping _ => "Map"
  | context .. => "MethodContext"
  | instruction .. => "Instruction"
  | site .. => "CallSite"
  | sensitive .. => "ContextSensitiveEdge"
  | insensitive .. => "ContextInsensitiveEdge"
  | bare _ => "Bare"
  | unit _ => "Unit"
  | unitTuple .. => "UnitTuple"
  | host .. => "Host"
  | halfSite _ => "HalfSite"
  | badContext _ => "BadContext"
  | badSite _ => "BadSite"

/-- Whether a value is the absent value. -/
def isNull : Value → Bool
  | null => true
  | _ => false

/-- An optional text as a value. -/
def ofOption : Option Text → Value
  | none => null
  | some t => text t

mutual

/-- A document as a value. -/
def ofJson : Json → Value
  | .null => null
  | .bool b => bool b
  | .int n => int n.value
  | .float x => float x
  | .text t => text t
  | .array items => list (ofJsons items)
  | .object members => record (ofMembers members)
termination_by structural j => j

def ofJsons : List Json → List Value
  | [] => []
  | j :: js => ofJson j :: ofJsons js
termination_by structural js => js

def ofMembers : List (Text × Json) → List (Text × Value)
  | [] => []
  | (name, j) :: js => (name, ofJson j) :: ofMembers js
termination_by structural js => js

end

end Value

end CallGraphs
