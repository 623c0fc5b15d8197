import CallGraphs.OrdMap
import CallGraphs.Path
import CallGraphs.Text.Quoted
/-!
# File trees

Directories and files as a value, with the operations that the commands need. A path is followed name
by name, so every directory on the way must exist. Names and paths have a greatest length in bytes.
-/

namespace CallGraphs

/-- What stands at a place. -/
inductive Entry where
  | directory
  | file (bytes : List UInt8)
  deriving DecidableEq

/-- Why an operation on files fails. -/
inductive OsFault where
  | noEntry
  | alreadyExists
  | notDirectory
  | isDirectory
  | nameTooLong
  deriving DecidableEq, Repr

namespace OsFault

def number : OsFault → Nat
  | noEntry => 2
  | alreadyExists => 17
  | notDirectory => 20
  | isDirectory => 21
  | nameTooLong => 36

def text : OsFault → String
  | noEntry => "No such file or directory"
  | alreadyExists => "File exists"
  | notDirectory => "Not a directory"
  | isDirectory => "Is a directory"
  | nameTooLong => "File name too long"

end OsFault

/-- A failed operation and the path it was asked for. -/
structure OsError where
  fault : OsFault
  path : String
  deriving DecidableEq, Repr

def OsError.message (e : OsError) : String :=
  "[Errno " ++ toString e.fault.number ++ "] " ++ e.fault.text ++ ": " ++ Text.quote e.path

/-- Entries by place, and the place that relative paths start from. The top is always a directory. -/
structure FileTree where
  entries : OrdMap Location Entry
  here : Location

namespace FileTree

/-- What stands at a place. -/
def entry? (t : FileTree) (l : Location) : Option Entry :=
  if l.isEmpty then some .directory else t.entries.get? l

/-- Whether a directory stands at a place. -/
def isDirectory (t : FileTree) (l : Location) : Bool :=
  t.entry? l == some .directory

/-- The greatest length of a name. -/
def nameLimit : Nat := 255

/-- The greatest length of a path. -/
def pathLimit : Nat := 4095

/-- Whether a name is longer than a directory can hold. -/
def isLongName (name : String) : Bool :=
  nameLimit < name.utf8ByteSize

/-- Whether a path is too long to be followed at all. -/
def isLongPath (p : Path) : Bool :=
  pathLimit < p.text.utf8ByteSize

/-- The place that a path starts from. -/
def start (t : FileTree) (p : Path) : Location :=
  if p.absolute then [] else t.here

/-- Follow the names of a path from a place, each of which must lead on from a directory. -/
def follow (t : FileTree) : Location → List String → Except OsFault Location
  | l, [] => .ok l
  | l, name :: names =>
    match t.entry? l with
    | none => .error .noEntry
    | some (.file _) => .error .notDirectory
    | some .directory =>
      if isLongName name then .error .nameTooLong else t.follow (Path.enter l name) names

/-- The place that a path leads to, which need not hold anything. -/
def locate (t : FileTree) (p : Path) : Except OsError Location :=
  match if isLongPath p then .error .nameTooLong else t.follow (t.start p) p.names with
  | .ok l => .ok l
  | .error fault => .error ⟨fault, p.text⟩

/-- What stands at the end of a path. -/
def stat (t : FileTree) (p : Path) : Except OsError Entry :=
  match t.locate p with
  | .error e => .error e
  | .ok l =>
    match t.entry? l with
    | some entry => .ok entry
    | none => .error ⟨.noEntry, p.text⟩

/-- What stands at the end of a path, if anything does. Only a name that is too long is an error; one
with a null character leads nowhere. -/
def probe (t : FileTree) (p : Path) : Except OsError (Option Entry) :=
  if p.hasNull then .ok none
  else
    match t.stat p with
    | .ok entry => .ok (some entry)
    | .error e => if e.fault = .nameTooLong then .error e else .ok none

/-- The bytes of a file. -/
def read (t : FileTree) (p : Path) : Except OsError (List UInt8) :=
  match t.stat p with
  | .error e => .error e
  | .ok .directory => .error ⟨.isDirectory, p.text⟩
  | .ok (.file bytes) => .ok bytes

/-- The tree with an entry at a place. -/
def put (t : FileTree) (l : Location) (entry : Entry) : FileTree :=
  { t with entries := t.entries.insert l entry }

/-- The tree with a file's content replaced, or with a new file in an existing directory. -/
def write (t : FileTree) (p : Path) (bytes : List UInt8) : Except OsError FileTree :=
  match t.locate p with
  | .error e => .error e
  | .ok l => if t.isDirectory l then .error ⟨.isDirectory, p.text⟩ else .ok (t.put l (.file bytes))

/-- The tree with a directory at a path and at every step towards it, as far as there can be one, and
what stood in the way. Once a step is new the error is about the next one, else about the whole
path. -/
def makeDirectories (t : FileTree) (p : Path) : FileTree × Except OsError Unit :=
  if isLongPath p then (t, .error ⟨.nameTooLong, p.text⟩) else go t (t.start p) false [] p.names
where
  go (t : FileTree) (l : Location) (fresh : Bool) (done : List String) :
      List String → FileTree × Except OsError Unit
    | [] => (t, .ok ())
    | name :: names =>
      let next := Path.enter l name
      let refuse (fault : OsFault) : FileTree × Except OsError Unit :=
        (t, .error ⟨fault, (if fresh then { p with names := done ++ [name] } else p).text⟩)
      if isLongName name then refuse .nameTooLong
      else
        match t.entry? next with
        | some .directory => go t next fresh (done ++ [name]) names
        | some (.file _) => refuse (if fresh || names.isEmpty then .alreadyExists else .notDirectory)
        | none => go (t.put next .directory) next true (done ++ [name]) names

/-- The places of the files of a name, in the order of their first creation. -/
def filesNamed (t : FileTree) (suffix : List String) : List (Location × List UInt8) :=
  t.entries.entries.filterMap fun e =>
    match e.2 with
    | .file bytes => if suffix.isSuffixOf e.1 then some (e.1, bytes) else none
    | .directory => none

end FileTree

end CallGraphs
