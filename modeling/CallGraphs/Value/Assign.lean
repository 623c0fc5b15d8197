import CallGraphs.Schema
import CallGraphs.Value.Members
/-!
# Setting fields of values

Records never change and plain data has no fields to set; objects of other classes take any field
except those that belong to the class itself.
-/

namespace CallGraphs

/-- Why a field cannot be set. -/
inductive AssignFault where
  | frozen (error : Invalid)
  | missing (typeName : String) (name : Text)
  | readOnly (typeName : String) (name : Text)
  | notWritable (typeName : String) (name : Text)
  | ofKind (name : Text)
  | notClass (typeName : String)
  | notDictionary (typeName : String)

def AssignFault.message : AssignFault → Text
  | frozen error => error.text
  | missing typeName name => (AccessFault.missing typeName name).message
  | readOnly typeName name =>
    "\x27" ++ typeName ++ "\x27 object attribute \x27" ++ name ++ "\x27 is read-only"
  | notWritable typeName name =>
    "attribute \x27" ++ name ++ "\x27 of \x27" ++ typeName ++ "\x27 objects is not writable"
  | ofKind name => "<enum \x27Enum\x27> cannot set attribute \x27" ++ name ++ "\x27"
  | notClass typeName => "__class__ must be set to a class, not \x27" ++ typeName ++ "\x27 object"
  | notDictionary typeName =>
    "__dict__ must be set to a dictionary, not a \x27" ++ typeName ++ "\x27"

namespace Value

/-- The parts of a number that have a name. -/
def numberParts : Value → List String
  | bool _ | int _ => ["denominator", "imag", "numerator", "real"]
  | float _ => ["imag", "real"]
  | _ => []

/-- The fault of setting a field of plain data. -/
def plainAssignFault (v : Value) (name : Text) : AssignFault :=
  if v.numberParts.any fun s => s == name then
    .notWritable (match v with
      | float _ => "float"
      | _ => "int") name
  else if v.hasMember name then .readOnly v.typeName name
  else .missing v.typeName name

/-- The fault of setting a field that belongs to the class of an object. -/
def objectAssignFault? (v : Value) (name : Text) (wanted : Value) : Option AssignFault :=
  if name == "__dict__" then
    match wanted with
    | record _ => none
    | _ => some (.notDictionary wanted.typeName)
  else if name == "__weakref__" && v.hasMember name then some (.notWritable v.typeName name)
  else none

/-- What keeps a field of a value from being set. -/
def assignFault? (v : Value) (name : Text) (wanted : Value) : Option AssignFault :=
  if v.isRecord && name.points.head? != some (.char '_') then
    some (.frozen ⟨v.typeName, [⟨.frozen, [.field name.lossy], wanted⟩]⟩)
  else if name == "__class__" then some (.notClass wanted.typeName)
  else
    match v with
    | null | bool _ | int _ | float _ | text _ | list _ | tuple _ | record _ =>
      some (v.plainAssignFault name)
    | kind _ =>
      if name == "name" || name == "value" then some (.ofKind name)
      else v.objectAssignFault? name wanted
    | v => v.objectAssignFault? name wanted

end Value

end CallGraphs
