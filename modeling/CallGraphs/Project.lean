import CallGraphs.Config
import CallGraphs.Outcome
/-!
# Projects

A directory is a project if it has a settings folder. The configuration is a file in that folder.
-/

namespace CallGraphs

namespace Project

/-- The name of the settings folder. -/
def folder : String := ".ctxgraph"

/-- The name of the configuration file. -/
def fileName : String := "config.json"

/-- The settings folder of a project. -/
def folderOf (root : Path) : Path :=
  root.child folder

/-- The configuration file of a project. -/
def configPath (root : Path) : Path :=
  (folderOf root).child fileName

/-- The directories at and above a place, the nearest first. -/
def upward : Location → List Location
  | [] => [[]]
  | name :: names => ((upward names).map (name :: ·)) ++ [[]]

/-- The first of some places that has a settings folder. -/
def firstProject (t : FileTree) : List Location → Except Failure (Option Location)
  | [] => .ok none
  | l :: ls =>
    match t.probe (folderOf (.ofLocation l)) with
    | .error e => .error (.os e)
    | .ok entry => if entry = some .directory then .ok (some l) else firstProject t ls

/-- The place that a path means. -/
def placeOf (t : FileTree) (p : Path) : Except Failure Location :=
  if p.hasNull then .error .nullInPath else .ok (p.resolve t.here)

/-- The nearest project at or above a starting point, by default the current place. -/
def find (t : FileTree) : Option Path → Except Failure (Option Location)
  | none => firstProject t (upward t.here)
  | some p =>
    match placeOf t p with
    | .error f => .error f
    | .ok here => firstProject t (upward here)

/-- The configuration that a file's text gives. -/
def configOfText (path : Path) (cs : List Char) : Except Failure Config :=
  match Json.read cs with
  | .error (.malformed fault line column position) =>
    .error (.config (.malformed path.text (.malformed fault line column position)))
  | .error e => .error (.unreadableJson e)
  | .ok (.object members) =>
    match Config.ofJson (.object members) with
    | .ok c => .ok c
    | .error e => .error (.config (.invalid path.text e))
  | .ok j => .error (.notMapping (Value.ofJson j).typeName)

/-- The configuration of a project: that of its file, or the default under the name of its root. -/
def load (t : FileTree) (root : Path) : Except Failure Config :=
  match t.probe (configPath root) with
  | .error e => .error (.os e)
  | .ok none => .ok (.default root.name)
  | .ok (some _) =>
    match t.readText (configPath root) with
    | .error f => .error f
    | .ok cs => configOfText (configPath root) cs

/-- Write the configuration of a project. The folder is made first, and stays if the file cannot be
written. -/
def save (t : FileTree) (root : Path) (config : Config) : Outcome FileTree Unit :=
  if root.hasNull then .fail t .nullInPath
  else
    match t.makeDirectories (folderOf root) with
    | (t', .error e) => .fail t' (.os e)
    | (t', .ok _) =>
      match config.checkedText with
      | .error f => .fail t' f
      | .ok text =>
        match t'.write (configPath root) (Text.Utf8.encode text.toList) with
        | .error e => .fail t' (.os e)
        | .ok t'' => .done t'' ()

end Project

end CallGraphs
