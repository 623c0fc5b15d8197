import CallGraphs.Text.Basic
/-!
# Call kinds

How a call instruction reaches its target.
-/

namespace CallGraphs

/-- The dispatch of a call. An instruction that is no recognised call is `invalid`. -/
inductive CallKind where
  | virtual
  | static
  | special
  | invalid
  deriving DecidableEq, Repr, Inhabited

namespace CallKind

/-- The kinds, in the order in which they are listed to the user. -/
def all : List CallKind :=
  [virtual, static, special, invalid]

/-- The name by which documents and reports call a kind. -/
def name : CallKind → String
  | virtual => "virtual"
  | static => "static"
  | special => "special"
  | invalid => "invalid"

/-- The name in capitals, as the exact text gives it. -/
def constant : CallKind → String
  | virtual => "VIRTUAL"
  | static => "STATIC"
  | special => "SPECIAL"
  | invalid => "INVALID"

/-- The kind of that exact name. -/
def ofName? (t : Text) : Option CallKind :=
  all.find? fun k => k.name == t

@[simp] theorem ofName?_name (k : CallKind) : ofName? k.name = some k := by
  cases k <;> decide

end CallKind

end CallGraphs
