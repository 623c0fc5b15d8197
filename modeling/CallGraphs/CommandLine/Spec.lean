import CallGraphs.Text.Width
/-!
# Commands

What the program offers on the command line: its commands with their options and arguments, and the
help texts that follow from them.
-/

namespace CallGraphs.CommandLine

/-- What an option does. -/
inductive OptionKind where
  | value
  | switch
  | version
  | help
  deriving DecidableEq, Repr

/-- An option. -/
structure OptionSpec where
  long : String
  short : Option Char
  kind : OptionKind
  about : String
  required : Bool
  deriving DecidableEq, Repr

namespace OptionSpec

/-- Whether a value follows the option. -/
def takesValue (o : OptionSpec) : Bool :=
  o.kind == .value

/-- Whether the option is dealt with before all others. -/
def isEager (o : OptionSpec) : Bool :=
  o.kind == .version || o.kind == .help

/-- The spellings of the option as help shows them. -/
def label (o : OptionSpec) : String :=
  (match o.short with
   | some c => "-" ++ c.toString ++ ", "
   | none => "") ++ o.long ++ (if o.takesValue then " TEXT" else "")

/-- The description of the option as help shows it. -/
def description (o : OptionSpec) : String :=
  o.about ++ (if o.required then "  [required]" else "")

end OptionSpec

/-- An argument, which may have to name an existing file. -/
structure ArgumentSpec where
  name : String
  isFile : Bool
  deriving DecidableEq, Repr

/-- What the commands do. -/
inductive Action where
  | init
  | stats
  | edges
  | callees
  | callers
  | configShow
  | configGet
  | configSet
  deriving DecidableEq, Repr

/-- A command that does something. -/
structure CommandSpec where
  name : String
  action : Action
  options : List OptionSpec
  arguments : List ArgumentSpec
  about : String
  brief : String

/-- The option that shows help. -/
def helpOption : OptionSpec :=
  ⟨"--help", none, .help, "Show this message and exit.", false⟩

/-- The option that names the project. -/
def pathOption : OptionSpec :=
  ⟨"--path", some 'p', .value, "Path to the project root.", false⟩

def contextOption : OptionSpec :=
  ⟨"--context", some 'c', .value, "Context id.", true⟩

def nodeOption : OptionSpec :=
  ⟨"--node", some 'n', .value, "Restrict to one call node.", false⟩

def intoOption : OptionSpec :=
  ⟨"--into", none, .switch, "Show edges resuming in the context.", false⟩

def versionOption : OptionSpec :=
  ⟨"--version", none, .version, "Show the version and exit.", false⟩

def verboseOption : OptionSpec :=
  ⟨"--verbose", some 'v', .switch, "Enable debug logging.", false⟩

def tableArgument : ArgumentSpec :=
  ⟨"TABLE_FILE", true⟩

def procedureArgument : ArgumentSpec :=
  ⟨"PROCEDURE", false⟩

/-- The commands, by name. -/
def commands : List CommandSpec :=
  [⟨"callees", .callees, [pathOption], [tableArgument, procedureArgument],
    "List context-insensitive call edges out of PROCEDURE.",
    "List context-insensitive call edges out of PROCEDURE."⟩,
   ⟨"callers", .callers, [pathOption], [tableArgument, procedureArgument],
    "List context-insensitive call edges into PROCEDURE.",
    "List context-insensitive call edges into PROCEDURE."⟩,
   ⟨"edges", .edges, [contextOption, nodeOption, intoOption, pathOption], [tableArgument],
    "List context-sensitive edges out of (or into) a context.",
    "List context-sensitive edges out of (or into) a context."⟩,
   ⟨"init", .init, [pathOption], [],
    "Create a .ctxgraph directory with the default configuration.",
    "Create a .ctxgraph directory with the default configuration."⟩,
   ⟨"stats", .stats, [pathOption], [tableArgument],
    "Build the call graphs for TABLE_FILE and show statistics.",
    "Build the call graphs for TABLE_FILE and show statistics."⟩]

/-- The commands that deal with the configuration, by name. -/
def configCommands : List CommandSpec :=
  [⟨"get", .configGet, [pathOption], [⟨"KEY", false⟩],
    "Print one setting, e.g. 'classifier.strict'.", "Print one setting, e.g."⟩,
   ⟨"set", .configSet, [pathOption], [⟨"KEY", false⟩, ⟨"VALUE", false⟩],
    "Change one setting. VALUE is read as JSON when it parses, else as text.",
    "Change one setting."⟩,
   ⟨"show", .configShow, [pathOption], [],
    "Print the whole configuration as JSON.", "Print the whole configuration as JSON."⟩]

/-- A command that only leads to others. -/
structure GroupSpec where
  path : String
  options : List OptionSpec
  about : String
  members : List (String × String)

/-- The command that leads to those on the configuration. -/
def configName : String := "config"

/-- The program itself. -/
def program : GroupSpec where
  path := "ctxgraph"
  options := [versionOption, verboseOption]
  about := "ctxgraph - call graphs from context-sensitive analysis results."
  members :=
    ((configName, "Manage ctxgraph configuration.") :: commands.map fun c => (c.name, c.brief)).mergeSort
      fun a b => decide (a.1 ≤ b.1)

/-- The commands on the configuration. -/
def configGroup : GroupSpec where
  path := "ctxgraph config"
  options := []
  about := "Manage ctxgraph configuration."
  members := configCommands.map fun c => (c.name, c.brief)

/-- Two columns of texts, the second one lined up. -/
def definitions (rows : List (String × String)) : String :=
  let width := (rows.map (·.1.length)).foldl max 0
  String.join (rows.map fun (label, text) =>
    "  " ++ label ++ String.ofList (Text.spaces (width - label.length + 2)) ++ text ++ "\n")

/-- The section of help on options. -/
def optionHelp (options : List OptionSpec) : String :=
  "\nOptions:\n" ++ definitions ((options ++ [helpOption]).map fun o => (o.label, o.description))

/-- The usage line of a command under its full name. -/
def CommandSpec.usage (path : String) (c : CommandSpec) : String :=
  " ".intercalate (("Usage: " ++ path) :: "[OPTIONS]" :: c.arguments.map (·.name)) ++ "\n"

/-- The help text of a command under its full name. -/
def CommandSpec.help (path : String) (c : CommandSpec) : String :=
  c.usage path ++ "\n  " ++ c.about ++ "\n" ++ optionHelp c.options

/-- The usage line of a group. -/
def GroupSpec.usage (g : GroupSpec) : String :=
  "Usage: " ++ g.path ++ " [OPTIONS] COMMAND [ARGS]...\n"

/-- The help text of a group. -/
def GroupSpec.help (g : GroupSpec) : String :=
  g.usage ++ "\n  " ++ g.about ++ "\n" ++ optionHelp g.options ++
    "\nCommands:\n" ++ definitions g.members

end CallGraphs.CommandLine
