import CallGraphs.Number.Binary64
import CallGraphs.Number.Whole
import CallGraphs.OrdMap
import CallGraphs.Text.Basic
/-!
# JSON documents

Decoded documents. Whole numbers and floating point numbers are different, and no whole number is
longer than can be read. Objects keep the order of their members, and a member that is given twice
keeps its first place and its last value.
-/

namespace CallGraphs

/-- A decoded document. -/
inductive Json where
  | null
  | bool (b : Bool)
  | int (n : Whole)
  | float (x : Binary64)
  | text (t : Text)
  | array (items : List Json)
  | object (members : List (Text × Json))

namespace Json

instance : Inhabited Json :=
  ⟨null⟩

/-- The object that reading the members one after another gives. -/
def ofMembers (members : List (Text × Json)) : Json :=
  object (OrdMap.ofList members).entries

/-- A member of an object. -/
def member? (j : Json) (name : Text) : Option Json :=
  match j with
  | object members => members.lookup name
  | _ => none

end Json

end CallGraphs
