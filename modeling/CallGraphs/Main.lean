import CallGraphs.CommandLine.Run
/-!
# The program

Reads the files that a command line may be about into a file tree, runs the command, writes back the
configuration files that changed, and prints.
-/

namespace CallGraphs.Main

/-- The spellings of paths that a word may hold: itself, or the value of an option in it. -/
def spellings (word : String) : List String :=
  [word, String.ofList (word.toList.drop 2), ((CommandLine.splitValue word).2).getD ""]

/-- The places that a command line may be about, with everything above them and the configuration of
each. -/
def places (here : Location) (words : List String) : List Location :=
  let named := words.flatMap fun w => (spellings w).map fun s => (Path.ofText s).resolve here
  let above := (here :: named).flatMap Project.upward
  Distinct.ofList (above.flatMap fun l =>
    [l, l ++ [Project.folder], l ++ [Project.folder, Project.fileName]])

/-- What stands at a place on disk. -/
def probe (l : Location) : IO (Option Entry) := do
  try
    let bytes ← IO.FS.readBinFile (Path.ofLocation l).text
    return some (.file bytes.toList)
  catch
    | .inappropriateType .. => return some .directory
    | _ => return none

/-- The tree of what stands at some places on disk. -/
def treeOf (here : Location) (ls : List Location) : IO FileTree :=
  ls.foldlM (fun t l => do
    match ← probe l with
    | some entry => return t.put l entry
    | none => return t) ⟨.empty, here⟩

/-- Write the configuration files that differ between two trees. -/
def writeChanges (before after : FileTree) : IO Unit :=
  (after.filesNamed [Project.folder, Project.fileName]).forM fun (l, bytes) =>
    if before.entry? l == some (.file bytes) then pure ()
    else do
      IO.FS.createDirAll (Path.ofLocation l.dropLast).text
      IO.FS.writeBinFile (Path.ofLocation l).text (ByteArray.mk bytes.toArray)

/-- A duration in milliseconds with two decimal places. -/
def millis (nanos : Nat) : String :=
  let hundredths := nanos / 10000
  let digits := toString (hundredths % 100)
  toString (hundredths / 100) ++ "." ++ (if digits.length = 1 then "0" ++ digits else digits)

/-- The width of the output. -/
def outputWidth : IO Nat := do
  return ((← IO.getEnv "COLUMNS").bind String.toNat?).getD 80

/-- The text on the error channel for a run that a failure ended. -/
def endingText : CommandLine.Ending → String
  | .exit _ => ""
  | .escaped f => f.message.spelled ++ "\n"

/-- Run a command line. -/
def execute (words : List String) : IO UInt32 := do
  let here := (Path.ofText (← IO.currentDir).toString).names
  let tree ← treeOf here (places here words)
  let width ← outputWidth
  let start ← IO.monoNanosNow
  let reply ← IO.lazyPure fun _ => CommandLine.run tree width words
  let stop ← IO.monoNanosNow
  writeChanges tree reply.tree
  IO.eprint (reply.log (millis (stop - start)))
  IO.print reply.output
  IO.eprint (reply.errors ++ endingText reply.ending)
  return UInt32.ofNat reply.code

end CallGraphs.Main

def main (words : List String) : IO UInt32 :=
  CallGraphs.Main.execute words
