import CallGraphs.Expression.Basic
import CallGraphs.Expression.Fault
import CallGraphs.FileTree
import CallGraphs.Json.Reader
import CallGraphs.Schema
import CallGraphs.Text.Utf8
import CallGraphs.Value.Assign
import CallGraphs.Value.Hashing
/-!
# Failures

Everything that can go wrong, as causes, and the wording of each.
-/

namespace CallGraphs

/-- The two graphs, as messages name them. -/
inductive GraphKind where
  | sensitive
  | insensitive
  deriving DecidableEq, Repr

def GraphKind.text : GraphKind → String
  | sensitive => "context-sensitive call graph"
  | insensitive => "context-insensitive call graph"

/-- A transition table that cannot be turned into edges. -/
inductive TableFault where
  /-- The call site lacks a calling context or a call node. -/
  | undecomposable (site : Value)
  /-- The calling context has no procedure. -/
  | noProcedure (context site : Value)
  /-- The targets of the call site are not a mapping. -/
  | targetsNotMapping (site targets : Value)
  /-- A document refers to a context that it does not declare. -/
  | unknownContext (id : Text)

def TableFault.message : TableFault → Draft
  | undecomposable site =>
    "Call site " ++ site.exact ++ " does not expose a calling context and call node"
  | noProcedure context site =>
    "Calling context " ++ context.exact ++ " of call site " ++ site.plain ++ " has no procedure"
  | targetsNotMapping site targets =>
    "Targets of call site " ++ site.plain ++ " are not a mapping: " ++ targets.exact
  | unknownContext id => "Unknown context id: " ++ id

/-- A transition table document that cannot be read. -/
inductive DocumentFault where
  | unreadable (path : String) (error : OsError)
  | malformed (path : String) (error : Json.ReadError)
  | notObject (path : String)
  | invalid (error : Invalid)
  | duplicateContext (id : Text)
  | conflictingKinds (node : Text) (old new : Option Text)

namespace DocumentFault

/-- An instruction's kind between the quotes of a message. -/
def kindText (k : Option Text) : Text :=
  k.getD "None"

def message : DocumentFault → Text
  | unreadable path error => "Cannot read " ++ path ++ ": " ++ error.message
  | malformed path error => path ++ " is not valid JSON: " ++ error.message
  | notObject path => path ++ " must contain a JSON object"
  | invalid error => "Invalid transition table document: " ++ error.text
  | duplicateContext id => "Duplicate context id: " ++ id
  | conflictingKinds node old new =>
    "Node '" ++ node ++ "' is declared as both '" ++ kindText old ++ "' and '" ++ kindText new ++ "'"

end DocumentFault

/-- A configuration that cannot be read or changed. -/
inductive ConfigFault where
  | malformed (path : String) (error : Json.ReadError)
  | invalid (path : String) (error : Invalid)
  | badValue (value : Value) (key : Text) (issues : List Issue)

def ConfigFault.message : ConfigFault → Text
  | malformed path error => "Invalid configuration in " ++ path ++ ": " ++ error.message
  | invalid path error => "Invalid configuration in " ++ path ++ ": " ++ error.text
  | badValue value key issues =>
    "Invalid value " ++ value.exact.text ++ " for " ++ key ++ ": " ++
      "; ".intercalate (issues.map fun i => i.rule.message)

/-- A tag of a marked-up text that cannot be read. -/
inductive MarkupFault where
  /-- A closing tag at a position that no open tag matches. -/
  | unmatched (tag : String) (position : Nat)
  /-- A closing tag without name at a position where no tag is open. -/
  | nothingOpen (position : Nat)
  /-- Parameters whose argument is not a well-formed expression. -/
  | malformedArgument (argument parameters : String) (fault : Expression.Fault)
  /-- Parameters whose argument is not a literal. -/
  | noLiteral (parameters : String) (fault : Expression.LiteralFault)
  /-- A colour that lacks one of its numbers. -/
  | missingNumber
  deriving DecidableEq, Repr

def MarkupFault.message : MarkupFault → String
  | unmatched tag position =>
    "closing tag '" ++ tag ++ "' at position " ++ toString position ++ " doesn't match any open tag"
  | nothingOpen position =>
    "closing tag '[/]' at position " ++ toString position ++ " has nothing to close"
  | malformedArgument argument parameters fault =>
    "error parsing " ++ Text.quote argument ++ " in " ++ Text.quote parameters ++ "; " ++
      fault.message
  | noLiteral parameters fault => "error parsing " ++ Text.quote parameters ++ "; " ++ fault.message
  | missingNumber => "invalid literal for int() with base 10: ''"

/-- Everything that can go wrong. -/
inductive Failure where
  | unhashable (type : Unhashable)
  /-- A text that cannot be formed. -/
  | unformed (fault : TextFault)
  /-- A text that should spell a number. -/
  | noNumber (text : Text)
  /-- A value that should name a call kind. -/
  | noKind (value : Value)
  | access (fault : AccessFault)
  | assign (fault : AssignFault)
  | notIterable (typeName : String)
  /-- A value that has to be a number is none. -/
  | notNegatable (typeName : String)
  | nullNode
  | frozen (graph : GraphKind)
  | frozenView
  | table (fault : TableFault)
  | document (fault : DocumentFault)
  | config (fault : ConfigFault)
  | unknownKey (key : Text)
  | notMapping (typeName : String)
  | invalid (error : Invalid)
  | unreadableJson (error : Json.ReadError)
  | undecodable (fault : Text.Utf8.Fault)
  /-- A text to print that holds half a pair. -/
  | unprintable (halves : Text.Halves)
  /-- A text to store that holds half a pair. -/
  | unstorable (halves : Text.Halves)
  /-- A path with a null character in it. -/
  | nullInPath
  | os (error : OsError)
  | markup (fault : MarkupFault)

namespace Failure

/-- Two hexadecimal digits. -/
def byteText (b : UInt8) : String :=
  "0x" ++ String.ofList (Text.hex 2 b.toNat)

def utf8Text (f : Text.Utf8.Fault) : String :=
  let place :=
    if f.length = 1 then "byte " ++ byteText f.byte ++ " in position " ++ toString f.position
    else
      "bytes in position " ++ toString f.position ++ "-" ++ toString (f.position + f.length - 1)
  "'utf-8' codec can't decode " ++ place ++ ": " ++ f.reason.text

def halvesText (h : Text.Halves) : String :=
  let place :=
    if h.length = 1 then
      "character '\\u" ++ String.ofList (Text.hex 4 h.unit) ++ "' in position " ++ toString h.position
    else
      "characters in position " ++ toString h.position ++ "-" ++ toString (h.position + h.length - 1)
  "'utf-8' codec can't encode " ++ place ++ ": surrogates not allowed"

/-- The wording of a failure. -/
def message : Failure → Text
  | unhashable type => "unhashable type: '" ++ type.typeName ++ "'"
  | unformed fault => fault.message
  | noNumber text => "could not convert string to float: " ++ text.quote
  | noKind value => value.exact.text ++ " is not a valid CallKind"
  | access fault => fault.message
  | assign fault => fault.message
  | notIterable typeName => "'" ++ typeName ++ "' object is not iterable"
  | notNegatable typeName => "bad operand type for unary -: '" ++ typeName ++ "'"
  | nullNode => "None cannot be a node"
  | frozen graph => "The " ++ graph.text ++ " is frozen and can no longer be modified"
  | frozenView => "Frozen graph can't be modified"
  | table fault => fault.message.text
  | document fault => fault.message
  | config fault => fault.message
  | unknownKey key => key.quote
  | notMapping typeName =>
    "ctxgraph.config.ProjectConfig() argument after ** must be a mapping, not " ++ typeName
  | invalid error => error.text
  | unreadableJson error => error.message
  | undecodable fault => utf8Text fault
  | unprintable halves => halvesText halves
  | unstorable halves => "Error serializing to JSON: UnicodeEncodeError: " ++ halvesText halves
  | nullInPath => "embedded null byte"
  | os error => error.message
  | markup fault => fault.message

/-- The failure that a fault of a table comes to. Its message is formed on the spot, and where that
fails there is no fault of the table to speak of. -/
def ofTableFault (fault : TableFault) : Failure :=
  match fault.message.fault? with
  | none => table fault
  | some stop => unformed stop

/-- Whether a command reports the failure as a message of its own; any other ends the command. -/
def isReported : Failure → Bool
  | frozen _ | table _ | document _ | config _ => true
  | _ => false

end Failure

/-- The text of a draft, or the failure of forming it. -/
def Draft.formed (d : Draft) : Except Failure Text :=
  d.form.mapError Failure.unformed

namespace FileTree

/-- The text of a file, with line breaks unified. -/
def readText (t : FileTree) (p : Path) : Except Failure (List Char) :=
  if p.hasNull then .error .nullInPath
  else
    match t.read p with
    | .error e => .error (.os e)
    | .ok bytes =>
      match Text.Utf8.decode bytes with
      | .error fault => .error (.undecodable fault)
      | .ok cs => .ok (Text.unifyBreaks cs)

end FileTree

namespace Value

/-- The value as a key, or the failure of looking it up. -/
def key (v : Value) : Except Failure Value :=
  match v.unhashable? with
  | none => .ok v
  | some u => .error (.unhashable u)

end Value

end CallGraphs
