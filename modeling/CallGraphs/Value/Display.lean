import CallGraphs.Number.Decimal
import CallGraphs.Text.Draft
import CallGraphs.Text.Quoted
import CallGraphs.Value.Basic
/-!
# Text of values

Two texts for every value: the exact one, which quotes text and names types and fields, and the
plain one, in which text stands for itself and records have short forms. Either can fail to be
formed. The calls that a value takes are its own: one for plain data, and more where a type has its
own way to be shown.
-/

namespace CallGraphs

namespace CallKind

/-- The name with its type. -/
def qualified (k : CallKind) : String :=
  "CallKind." ++ k.constant

/-- The exact text of a kind. -/
def exact (k : CallKind) : String :=
  "<" ++ k.qualified ++ ": " ++ Text.quote k.name ++ ">"

end CallKind

namespace Value

/-- The truth values as words. -/
def boolText (b : Bool) : String :=
  if b then "True" else "False"

/-- The exact text of an optional text. -/
def optionText : Option Text → String
  | none => "None"
  | some t => t.quote

mutual

/-- The exact text of a value. -/
def exact : Value → Draft
  | null => .within 1 "None"
  | bool b => .within 1 (boolText b)
  | int n => .within 1 (.ofInt n)
  | float x => .within 1 x.text
  | text t => .within 1 t.quote
  | kind k => .within 3 k.exact
  | list items => .within 1 ("[" ++ exactItems items ++ "]")
  | tuple items => .within 1 (exactTuple items)
  | record fields => .within 1 ("\x7b" ++ exactFields fields ++ "\x7d")
  | mapping _ => .within 2 "<Map>"
  | context method value =>
    .within 5 ("MethodContext(method=" ++ method.exact ++ ", value=" ++ value.exact ++ ")")
  | instruction id invokeKind =>
    .within 5 ("Instruction(id=" ++ id.quote ++ ", invoke_kind=" ++ optionText invokeKind ++ ")")
  | site ctx node =>
    .within 5 ("CallSite(calling_context=" ++ ctx.exact ++ ", call_node=" ++ node.exact ++ ")")
  | sensitive source ctx instr target ctx' k =>
    .within 5 ("ContextSensitiveEdge(source=" ++ source.exact ++ ", source_context=" ++ ctx.exact ++
      ", instruction=" ++ instr.exact ++ ", target=" ++ target.exact ++
      ", target_context=" ++ ctx'.exact ++ ", kind=" ++ k.exact ++ ")")
  | insensitive source instr target k =>
    .within 5 ("ContextInsensitiveEdge(source=" ++ source.exact ++ ", instruction=" ++ instr.exact ++
      ", target=" ++ target.exact ++ ", kind=" ++ k.exact ++ ")")
  | bare name => .within 2 ("<Bare " ++ name ++ ">")
  | unit invokeKind => .within 2 ("<Unit " ++ invokeKind.exact ++ ">")
  | unitTuple items _ => .within 1 (exactTuple items)
  | host name _ => .within 2 ("<Host " ++ name ++ ">")
  | halfSite _ => .within 2 "<HalfSite>"
  | badContext fault => .within 2 ("<BadContext " ++ fault.name ++ ">")
  | badSite fault => .within 2 ("<BadSite " ++ fault.name ++ ">")
termination_by structural v => v

/-- The items of a tuple between its brackets; a single one is followed by a comma. -/
def exactTuple : List Value → Draft
  | [] => "()"
  | [v] => "(" ++ v.exact ++ ",)"
  | v :: vs => "(" ++ v.exact ++ ", " ++ exactItems vs ++ ")"
termination_by structural vs => vs

def exactItems : List Value → Draft
  | [] => ""
  | [v] => v.exact
  | v :: vs => v.exact ++ ", " ++ exactItems vs
termination_by structural vs => vs

def exactFields : List (Text × Value) → Draft
  | [] => ""
  | [(name, v)] => name.quote ++ ": " ++ v.exact
  | (name, v) :: fs => name.quote ++ ": " ++ v.exact ++ ", " ++ exactFields fs
termination_by structural fs => fs

end

/-- The plain text of a value. -/
def plain : Value → Draft
  | text t => t
  | int n => .within 1 (.ofInt n)
  | kind k => .within 5 k.qualified
  | instruction id _ => .within 3 id
  | context method value => .within 3 (method.plain ++ "@" ++ value.plain)
  | site ctx node => .within 3 (ctx.plain ++ ":" ++ node.plain)
  | sensitive source ctx instr target ctx' k =>
    .within 3 (source.plain ++ "[" ++ ctx.plain ++ "] --[" ++ instr.plain ++ ":" ++ k.name ++
      "]--> " ++ target.plain ++ "[" ++ ctx'.plain ++ "]")
  | insensitive source instr target k =>
    .within 3 (source.plain ++ " --[" ++ instr.plain ++ ":" ++ k.name ++ "]--> " ++ target.plain)
  | v => .within 1 v.exact
termination_by structural v => v

end Value

end CallGraphs
