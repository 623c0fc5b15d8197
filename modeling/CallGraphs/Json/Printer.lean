import CallGraphs.Json.Basic
import CallGraphs.Number.Decimal
import CallGraphs.Text.Quoted
/-!
# Writing JSON

Documents as text, on one line or with two spaces of indentation for each level. Characters outside
ASCII are written as they are, except that half a pair is written as an escape; an empty array or
object takes one line in either form.
-/

namespace CallGraphs

namespace Json

/-- One character of a string. -/
def escapeChar (c : Char) : List Char :=
  if c = '\x22' then ['\\', '\x22']
  else if c = '\\' then ['\\', '\\']
  else if c = '\x08' then ['\\', 'b']
  else if c = '\x0c' then ['\\', 'f']
  else if c = '\n' then ['\\', 'n']
  else if c = '\r' then ['\\', 'r']
  else if c = '\t' then ['\\', 't']
  else if c.toNat < 0x20 then '\\' :: 'u' :: Text.hex 4 c.toNat
  else [c]

/-- One code point of a string. -/
def escapePoint : CodePoint → List Char
  | .half i => Text.escapeCode (CodePoint.half i).number
  | .char c => escapeChar c

/-- A string between its quotes. -/
def quoteText (t : Text) : List Char :=
  '\x22' :: t.points.flatMap escapePoint ++ ['\x22']

/-- The text of a floating point number. -/
def floatText : Binary64 → List Char
  | .nan _ => "NaN".toList
  | .infinite negative => (if negative then "-Infinity" else "Infinity").toList
  | x => x.text.toList

/-- The text of a value that has no parts. -/
def atomText : Json → List Char
  | null => "null".toList
  | bool b => (if b then "true" else "false").toList
  | int n => (toString n.value).toList
  | float x => floatText x
  | text t => quoteText t
  | array _ => ['[', ']']
  | object _ => ['\x7b', '\x7d']

mutual

/-- A document on one line. -/
def compact : Json → List Char
  | array items => '[' :: compactItems items ++ [']']
  | object members => '\x7b' :: compactMembers members ++ ['\x7d']
  | j => atomText j
termination_by structural j => j

def compactItems : List Json → List Char
  | [] => []
  | item :: items =>
    compact item ++ (if items.isEmpty then [] else ',' :: compactItems items)
termination_by structural items => items

def compactMembers : List (Text × Json) → List Char
  | [] => []
  | (name, value) :: members =>
    quoteText name ++ ':' :: compact value ++
      (if members.isEmpty then [] else ',' :: compactMembers members)
termination_by structural members => members

end

/-- A line break and the indentation of a level. -/
def newLine (level : Nat) : List Char :=
  '\n' :: List.replicate (2 * level) ' '

mutual

/-- A document with one line for each part, at a level of indentation. -/
def indented (level : Nat) : Json → List Char
  | array (item :: items) =>
    '[' :: newLine (level + 1) ++ indentedItems (level + 1) (item :: items) ++ newLine level ++ [']']
  | object (m :: members) =>
    '\x7b' :: newLine (level + 1) ++ indentedMembers (level + 1) (m :: members) ++ newLine level
      ++ ['\x7d']
  | j => atomText j
termination_by structural j => j

def indentedItems (level : Nat) : List Json → List Char
  | [] => []
  | item :: items =>
    indented level item ++
      (if items.isEmpty then [] else ',' :: newLine level ++ indentedItems level items)
termination_by structural items => items

def indentedMembers (level : Nat) : List (Text × Json) → List Char
  | [] => []
  | (name, value) :: members =>
    quoteText name ++ ':' :: ' ' :: indented level value ++
      (if members.isEmpty then [] else ',' :: newLine level ++ indentedMembers level members)
termination_by structural members => members

end

/-- A document with indentation. -/
def pretty (j : Json) : String :=
  String.ofList (indented 0 j)

end Json

end CallGraphs
