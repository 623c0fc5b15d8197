import CallGraphs.Schema
import CallGraphs.Value.Access
/-!
# Checked records

The library's records made from named fields. A field that is missing or of the wrong type is an
issue, and all issues of one record are reported together.
-/

namespace CallGraphs

namespace Value

/-- A field that may hold anything. -/
def anyField (fields : List (Text × Value)) (name : String) : Checked Value :=
  match fields.lookup (name : Text) with
  | some v => .ok v
  | none => Checked.within (.field name) (.refuse .required (record fields))

/-- A value that is text. -/
def asText (v : Value) : Checked Text :=
  match v.text? with
  | some t => .ok t
  | none => .refuse .string v

/-- A value that is a call kind, or exactly the name of one. -/
def asKind (v : Value) : Checked CallKind :=
  match v with
  | kind k => .ok k
  | text t =>
    match CallKind.ofName? t with
    | some k => .ok k
    | none => .refuse .callKind v
  | v => .refuse .callKind v

/-- A field of a checked type. -/
def checkedField {α : Type} (fields : List (Text × Value)) (name : String)
    (check : Value → Checked α) : Checked α :=
  Checked.within (.field name) <|
    match fields.lookup (name : Text) with
    | some v => check v
    | none => .refuse .required (record fields)

/-- The checked record, or the issues under the model's name. -/
def built {α : Type} (model : String) (make : α → Value) : Checked α → Except Invalid Value
  | .ok a => .ok (make a)
  | .error issues => .error ⟨model, issues⟩

/-- A context from its fields; the distinguishing value may be left out. -/
def newContext (fields : List (Text × Value)) : Except Invalid Value :=
  built "MethodContext" (fun method => context method ((fields.lookup ("value" : Text)).getD null))
    (anyField fields "method")

/-- An instruction from its fields; the kind may be left out. -/
def newInstruction (fields : List (Text × Value)) : Except Invalid Value :=
  let invokeKind : Checked (Option Text) :=
    match fields.lookup ("invoke_kind" : Text) with
    | none => .ok none
    | some null => .ok none
    | some v => Checked.within (.field "invoke_kind") ((asText v).map some)
  built "Instruction" (fun (id, k) => instruction id k)
    (Checked.both (checkedField fields "id" asText) invokeKind)

/-- A call site from its fields. -/
def newSite (fields : List (Text × Value)) : Except Invalid Value :=
  built "CallSite" (fun (ctx, node) => site ctx node)
    (Checked.both (anyField fields "calling_context") (anyField fields "call_node"))

/-- A context-sensitive edge from its fields. -/
def newSensitive (fields : List (Text × Value)) : Except Invalid Value :=
  let any := anyField fields
  built "ContextSensitiveEdge"
    (fun (source, ctx, instr, target, ctx', k) => sensitive source ctx instr target ctx' k)
    (Checked.both (any "source") (Checked.both (any "source_context") (Checked.both (any "instruction")
      (Checked.both (any "target") (Checked.both (any "target_context")
        (checkedField fields "kind" asKind))))))

/-- A context-insensitive edge from its fields. -/
def newInsensitive (fields : List (Text × Value)) : Except Invalid Value :=
  let any := anyField fields
  built "ContextInsensitiveEdge" (fun (source, instr, target, k) => insensitive source instr target k)
    (Checked.both (any "source") (Checked.both (any "instruction") (Checked.both (any "target")
      (checkedField fields "kind" asKind))))

end Value

end CallGraphs
