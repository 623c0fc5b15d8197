/-!
# Paths

Paths as lists of names. Writing a path drops empty names and single dots; only resolving it removes
the step to the parent directory.
-/

namespace CallGraphs

/-- A place in a file tree: the names from the top down. -/
abbrev Location := List String

/-- A written path: the slashes it begins with, of which two are kept apart from one, and its names. -/
structure Path where
  slashes : Nat
  names : List String
  deriving DecidableEq, Repr

namespace Path

/-- The number of slashes that a path is written with, given how many its text begins with. -/
def slashesOf (n : Nat) : Nat :=
  if n = 2 then 2 else min n 1

/-- The path that a text spells. -/
def ofText (s : String) : Path :=
  let cs := s.toList
  ⟨slashesOf (cs.takeWhile (· == '/')).length,
   ((cs.splitOn '/').map String.ofList).filter fun name => name != "" && name != "."⟩

/-- Whether a path starts from the top. -/
def absolute (p : Path) : Bool :=
  p.slashes != 0

/-- The text of a path. -/
def text (p : Path) : String :=
  if p.slashes = 0 ∧ p.names.isEmpty then "."
  else String.ofList (List.replicate p.slashes '/') ++ "/".intercalate p.names

/-- A place as a path. -/
def ofLocation (l : Location) : Path :=
  ⟨1, l⟩

/-- The path reached by following `q` from `p`. -/
def append (p q : Path) : Path :=
  if q.absolute then q else { p with names := p.names ++ q.names }

instance : Append Path :=
  ⟨append⟩

/-- A name below a path. -/
def child (p : Path) (name : String) : Path :=
  { p with names := p.names ++ [name] }

/-- The last name of a path. -/
def name (p : Path) : String :=
  p.names.getLast?.getD ""

/-- Whether a name holds a null character, which no name in a file tree does. -/
def hasNull (p : Path) : Bool :=
  p.names.any fun name => name.toList.contains '\x00'

/-- One step down, or up for the parent's name. -/
def enter (l : Location) (name : String) : Location :=
  if name = ".." then l.dropLast else l ++ [name]

/-- The place that a path means, seen from `here`. -/
def resolve (here : Location) (p : Path) : Location :=
  p.names.foldl enter (if p.absolute then [] else here)

end Path

end CallGraphs
