import CallGraphs.CommandLine.Arguments
import CallGraphs.Document
import CallGraphs.Project
import CallGraphs.Report
/-!
# Running commands

A command maps a file tree and the words of a command line to a new tree, texts for the two output
channels, what was logged, and how the run ended. Failures that a user can mend are shown as
messages; all others end the run.
-/

namespace CallGraphs.CommandLine

/-- How a run ends: with an exit code, or by a failure that is not shown as a message. -/
inductive Ending where
  | exit (code : Nat)
  | escaped (failure : Failure)

/-- What a run leaves behind. `errors` is text for the error channel apart from the log. -/
structure Reply where
  tree : FileTree
  output : String
  errors : String
  events : List Event
  ending : Ending

namespace Reply

/-- The exit code of a run; a failure that escapes counts as one. -/
def code (r : Reply) : Nat :=
  match r.ending with
  | .exit n => n
  | .escaped _ => 1

/-- The log as text, given the text for the time that was needed. Half pairs are logged as escapes.
-/
def log (elapsed : String) (r : Reply) : String :=
  String.join (r.events.map fun e => (e.line elapsed).spelled)

/-- A reply that shows texts one after another. A text that cannot be shown ends the run there. -/
def saying (tree : FileTree) (events : List Event) (code : Nat) (output : String) :
    List Report.Shown → Reply
  | [] => ⟨tree, output, "", events, .exit code⟩
  | .ok text :: rest => saying tree events code (output ++ text) rest
  | .error failure :: _ => ⟨tree, output, "", events, .escaped failure⟩

end Reply

/-- Where commands run: the files, the width of the output, and whether everything is logged. -/
structure Setting where
  tree : FileTree
  width : Nat
  verbose : Bool

namespace Setting

/-- The events that are logged. -/
def logged (s : Setting) (events : List Event) : List Event :=
  Event.atLeast (if s.verbose then .debug else .warning) events

/-- Show texts and end well. -/
def succeed (s : Setting) (events : List Event) (texts : List Report.Shown) : Reply :=
  .saying s.tree (s.logged events) 0 "" texts

/-- A text on the output channel. -/
def tell (s : Setting) (text : String) : Reply :=
  s.succeed [] [.ok text]

/-- Show an error message and end with code one. -/
def complain (s : Setting) (events : List Event) (text : Text) : Reply :=
  .saying s.tree (s.logged events) 1 "" [Report.message s.width .error text]

/-- End by a failure, shown as a message if a user can mend it. -/
def refuse (s : Setting) (events : List Event) (f : Failure) : Reply :=
  if f.isReported then s.complain events f.message
  else ⟨s.tree, "", "", s.logged events, .escaped f⟩

/-- The project that a path option names, if it is not empty, or else the enclosing one. -/
def projectRoot (s : Setting) (path : Option String) : Except Failure (Option Path) :=
  let named := path.getD ""
  if named.isEmpty then (Project.find s.tree none).map fun l => l.map .ofLocation
  else (Project.placeOf s.tree (Path.ofText named)).map fun l => some (.ofLocation l)

/-- The configuration of the project, or the default outside of any. -/
def projectConfig (s : Setting) (path : Option String) : Except Failure Config :=
  match s.projectRoot path with
  | .error f => .error f
  | .ok none => .ok (.default "")
  | .ok (some root) => Project.load s.tree root

/-- Load a table and build both graphs from it. -/
def build (s : Setting) (file : String) (path : Option String) :
    Except Failure (LoadedTable × Graphs) × List Event :=
  match s.projectConfig path with
  | .error f => (.error f, [])
  | .ok config =>
    match LoadedTable.load s.tree (Path.ofText file) with
    | .error f => (.error f, [])
    | .ok loaded =>
      let (answer, events) :=
        transform (.ofConfig config.classifier Resolver.standard) loaded.table.toSource
      (answer.map fun graphs => (loaded, graphs), events)

/-- Build the graphs of a table and go on with them, or end by the failure. -/
def withGraphs (s : Setting) (file : String) (path : Option String)
    (next : LoadedTable → Graphs → List Event → Reply) : Reply :=
  match s.build file path with
  | (.error f, events) => s.refuse events f
  | (.ok (loaded, graphs), events) => next loaded graphs events

/-- Go on with the project to manage, which has to be a directory. -/
def withProject (s : Setting) (path : Option String) (next : Path → Reply) : Reply :=
  match s.projectRoot path with
  | .error f => s.refuse [] f
  | .ok none => s.complain [] "No ctxgraph project here. Run 'ctxgraph init' or pass --path."
  | .ok (some root) =>
    match s.tree.probe root with
    | .error e => s.refuse [] (.os e)
    | .ok entry =>
      if entry = some .directory then next root
      else s.complain [] ("Not a directory: " ++ root.text)

/-- Write a configuration and show a text. -/
def saveConfig (s : Setting) (root : Path) (config : Config) (text : Text) : Reply :=
  let saved := Project.save s.tree root config
  let s := { s with tree := saved.state }
  match saved.answer with
  | .error f => s.refuse [] f
  | .ok _ => s.succeed [] [Report.message s.width .success text]

/-- Make a directory a project. -/
def init (s : Setting) (path : Option String) : Reply :=
  match Project.placeOf s.tree (Path.ofText (path.getD "")) with
  | .error f => s.refuse [] f
  | .ok place =>
    let root := Path.ofLocation place
    match s.tree.probe root with
    | .error e => s.refuse [] (.os e)
    | .ok none => s.complain [] ("Path does not exist: " ++ root.text)
    | .ok (some _) =>
      match Project.load s.tree root with
      | .error f => s.refuse [] f
      | .ok config =>
        s.saveConfig root { config with name := root.name }
          ("Configuration saved to " ++ (Project.folderOf root).text)

/-- Show the counts of a table. -/
def stats (s : Setting) (file : String) (path : Option String) : Reply :=
  s.withGraphs file path fun _ graphs events =>
    s.succeed events [Report.stats s.width graphs.stats]

/-- Show found edges, or that there are none. -/
def showFound (s : Setting) (events : List Event) {ε : Type} (found : Except Failure (List ε))
    (none : Text) (table : List ε → Report.Shown) : Reply :=
  match found with
  | .error f => s.refuse events f
  | .ok [] => s.succeed events [Report.message s.width .warning none]
  | .ok edges =>
    s.succeed events
      [Report.message s.width .info ("Found " ++ toString edges.length ++ " edge(s)"), table edges]

/-- The edges of a context: those into it, those of one call node, or all out of it, with a title.
-/
def contextEdges (loaded : LoadedTable) (graph : SensitiveGraph) (id : Text) (ctx : Value)
    (node : Option Text) (into : Bool) : Except Failure (List SensitiveEdge) × Text :=
  if into then (graph.edgesIntoContext ctx, "Edges into " ++ id)
  else
    match node with
    | some n =>
      ((match loaded.instructions.get? n with
        | some instr => graph.edgesOutOfCallSite ctx instr
        | none => .ok []), "Edges out of " ++ id ++ " at " ++ n)
    | none => (graph.edgesOutOfContext ctx, "Edges out of " ++ id)

/-- List the edges of a context. -/
def edges (s : Setting) (file : String) (id : Text) (node : Option Text) (into : Bool)
    (path : Option String) : Reply :=
  s.withGraphs file path fun loaded graphs events =>
    match loaded.contexts.get? id with
    | none => s.complain events ("Unknown context: " ++ id)
    | some ctx =>
      let (found, title) := contextEdges loaded graphs.contextGraph id ctx node into
      s.showFound events found ("No edges found for '" ++ id ++ "'")
        (Report.sensitiveEdges s.width title)

/-- List the calls out of a procedure. -/
def callees (s : Setting) (file : String) (procedure : Text) (path : Option String) : Reply :=
  s.withGraphs file path fun _ graphs events =>
    s.showFound events (graphs.callGraph.edgesOutOf (.text procedure))
      ("No callees found for '" ++ procedure ++ "'")
      (Report.insensitiveEdges s.width ("Calls from " ++ procedure))

/-- List the calls into a procedure. -/
def callers (s : Setting) (file : String) (procedure : Text) (path : Option String) : Reply :=
  s.withGraphs file path fun _ graphs events =>
    s.showFound events (graphs.callGraph.edgesInto (.text procedure))
      ("No callers found for '" ++ procedure ++ "'")
      (Report.insensitiveEdges s.width ("Calls into " ++ procedure))

/-- Show the configuration: its stored text, read again. -/
def configShow (s : Setting) (path : Option String) : Reply :=
  s.withProject path fun root =>
    match Project.load s.tree root with
    | .error f => s.refuse [] f
    | .ok config =>
      match config.checkedText with
      | .error f => s.refuse [] f
      | .ok text =>
        match Json.read text.toList with
        | .error e => s.refuse [] (.unreadableJson e)
        | .ok j => s.tell (j.pretty ++ "\n")

/-- The message for a key that names no setting. -/
def complainKey (s : Setting) (key : String) : Reply :=
  s.complain [] ("Unknown config key: " ++ key)

/-- Show one setting. -/
def configGet (s : Setting) (key : String) (path : Option String) : Reply :=
  s.withProject path fun root =>
    match Project.load s.tree root with
    | .error f => s.refuse [] f
    | .ok config =>
      match config.get key with
      | .error _ => s.complainKey key
      | .ok j => s.succeed [] [Report.print s.width (key ++ " = " ++ (Value.ofJson j).plain.text)]

/-- A setting's value as typed: read as data if it can be, else taken as text. -/
def typedValue (text : String) : Except Failure Json :=
  match Json.read text.toList with
  | .ok j => .ok j
  | .error (.malformed _ _ _ _) => .ok (.text text)
  | .error e => .error (.unreadableJson e)

/-- Change one setting. -/
def configSet (s : Setting) (key text : String) (path : Option String) : Reply :=
  s.withProject path fun root =>
    match typedValue text with
    | .error f => s.refuse [] f
    | .ok value =>
      match Project.load s.tree root with
      | .error f => s.refuse [] f
      | .ok config =>
        match config.set key value with
        | .error (.unknownKey _) => s.complainKey key
        | .error f => s.refuse [] f
        | .ok config =>
          s.saveConfig root config ("Set " ++ key ++ " = " ++ (Value.ofJson value).plain.text)

/-- Carry out a command. -/
def perform (s : Setting) (i : Invocation) : Reply :=
  let path := i.words.value? pathOption
  let first := i.values.headD ""
  let second := (i.values.drop 1).headD ""
  match i.action with
  | .init => s.init path
  | .stats => s.stats first path
  | .edges =>
    s.edges first ((i.words.value? contextOption).getD "")
      ((i.words.value? nodeOption).map Text.ofString) (i.words.has intoOption) path
  | .callees => s.callees first second path
  | .callers => s.callers first second path
  | .configShow => s.configShow path
  | .configGet => s.configGet first path
  | .configSet => s.configSet first second path

/-- A text on the error channel, for a command line that is wrong. -/
def scold (s : Setting) (text : String) : Reply :=
  ⟨s.tree, "", text, [], .exit 2⟩

/-- The text for a fault of the command line. -/
def faultText (usage path : String) (f : UsageFault) : String :=
  (if f.showsUsage then usage ++ "Try '" ++ path ++ " --help' for help.\n\n" else "") ++
    "Error: " ++ f.message ++ "\n"

/-- Run a command under its full name. -/
def runCommand (s : Setting) (path : String) (c : CommandSpec) (words : List String) : Reply :=
  match c.request s.tree words with
  | .error (.usage f) => s.scold (faultText (c.usage path) path f)
  | .error (.failure f) => s.refuse [] f
  | .ok .help => s.tell (c.help path)
  | .ok .version => s.tell ""
  | .ok (.run i) => s.perform i

/-- The text for the version option. -/
def versionText : String :=
  Report.programName ++ ", version " ++ Report.version ++ "\n"

/-- Run a group: show what it has to say itself, or hand over to a member. Without any words it
shows its help as an error. -/
def runGroup (s : Setting) (g : GroupSpec) (words : List String)
    (next : Setting → String → List String → Reply) : Reply :=
  if words.isEmpty then s.scold g.help
  else
    match g.request words with
    | .error f => s.scold (faultText g.usage g.path f)
    | .ok .help => s.tell g.help
    | .ok .version => s.tell versionText
    | .ok (.member given name rest) =>
      next { s with verbose := s.verbose || given.has verboseOption } name rest

/-- Run one of some commands. -/
def runMember (s : Setting) (g : GroupSpec) (members : List CommandSpec) (name : String)
    (words : List String) : Reply :=
  match members.find? fun c => c.name == name with
  | some c => s.runCommand (g.path ++ " " ++ name) c words
  | none => s.scold (faultText g.usage g.path (.noSuchCommand name []))

end Setting

/-- Run the program on the words of a command line. -/
def run (tree : FileTree) (width : Nat) (words : List String) : Reply :=
  Setting.runGroup ⟨tree, width, false⟩ program words fun s name rest =>
    if name == configName then
      s.runGroup configGroup rest fun s name rest => s.runMember configGroup configCommands name rest
    else s.runMember program commands name rest

end CallGraphs.CommandLine
