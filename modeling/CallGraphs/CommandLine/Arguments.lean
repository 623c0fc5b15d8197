import CallGraphs.CommandLine.Spec
import CallGraphs.Failure
import CallGraphs.Text.Similarity
/-!
# Reading arguments

The words of a command line are options with their values and arguments. Faults of the words
themselves come first, then help and version, then missing and wrong arguments, and at last
arguments that are too many.
-/

namespace CallGraphs.CommandLine

/-- What can be wrong with a command line. -/
inductive UsageFault where
  | noSuchOption (name : String) (similar : List String)
  | needsValue (name : String)
  | takesNoValue (name : String)
  | missingArgument (name : String)
  | missingOption (long : String) (short : Option Char)
  | noFile (argument path : String)
  | directory (argument path : String)
  | tooMany (words : List String)
  | missingCommand
  | noSuchCommand (name : String) (similar : List String)
  deriving DecidableEq, Repr

namespace UsageFault

/-- Similar names as a question. -/
def suggestion : List String → String
  | [] => ""
  | [name] => " Did you mean " ++ Text.quote name ++ "?"
  | names => " (Did you mean one of: " ++ ", ".intercalate (names.map fun (name : String) => Text.quote name) ++ "?)"

def message : UsageFault → String
  | noSuchOption name similar => "No such option " ++ Text.quote name ++ "." ++ suggestion similar
  | needsValue name => "Option " ++ Text.quote name ++ " requires an argument."
  | takesNoValue name => "Option " ++ Text.quote name ++ " does not take a value."
  | missingArgument name => "Missing argument '" ++ name ++ "'."
  | missingOption long none => "Missing option '" ++ long ++ "'."
  | missingOption long (some c) => "Missing option '" ++ long ++ "' / '-" ++ c.toString ++ "'."
  | noFile argument path =>
    "Invalid value for '" ++ argument ++ "': File " ++ Text.quote path ++ " does not exist."
  | directory argument path =>
    "Invalid value for '" ++ argument ++ "': File " ++ Text.quote path ++ " is a directory."
  | tooMany [word] => "Got unexpected extra argument (" ++ word ++ ")"
  | tooMany words => "Got unexpected extra arguments (" ++ " ".intercalate words ++ ")"
  | missingCommand => "Missing command."
  | noSuchCommand name similar => "No such command " ++ Text.quote name ++ "." ++ suggestion similar

/-- Whether the usage line is shown with the fault. A wrong use of an option's value shows none. -/
def showsUsage : UsageFault → Bool
  | needsValue _ => false
  | takesNoValue _ => false
  | _ => true

end UsageFault

/-- The words of a command line, sorted: options in the order given, and the rest. -/
structure Words where
  given : List (OptionSpec × String)
  rest : List String

namespace Words

def empty : Words :=
  ⟨[], []⟩

/-- The last value given for an option. -/
def value? (w : Words) (o : OptionSpec) : Option String :=
  (w.given.reverse.find? fun g => g.1 == o).map (·.2)

/-- Whether an option is given. -/
def has (w : Words) (o : OptionSpec) : Bool :=
  w.given.any fun g => g.1 == o

/-- The first given option of those that are dealt with before all others. -/
def eager? (w : Words) : Option OptionSpec :=
  (w.given.map (·.1)).find? OptionSpec.isEager

end Words

/-- Whether a word is read as an option. -/
def looksLikeOption (word : String) : Bool :=
  match word.toList with
  | '-' :: _ :: _ => true
  | _ => false

/-- A word before its first equals sign, and what follows the sign if there is one. -/
def splitValue (word : String) : String × Option String :=
  let name := word.toList.takeWhile (· != '=')
  match word.toList.drop name.length with
  | _ :: value => (String.ofList name, some (String.ofList value))
  | [] => (word, none)

/-- The options of a word of short ones. The last of them may wait for its value. -/
def shortOptions (options : List OptionSpec) :
    List Char → Except UsageFault (List (OptionSpec × String) × Option (OptionSpec × Char))
  | [] => .ok ([], none)
  | c :: cs =>
    match options.find? fun o => o.short == some c with
    | none => .error (.noSuchOption ("-" ++ c.toString) [])
    | some o =>
      if o.takesValue then
        if cs.isEmpty then .ok ([], some (o, c)) else .ok ([(o, String.ofList cs)], none)
      else (shortOptions options cs).map fun r => ((o, "") :: r.1, r.2)

/-- The options that a word gives. The last of them may wait for its value; the text is its name as
written. -/
def optionsOf (options : List OptionSpec) (word : String) :
    Except UsageFault (List (OptionSpec × String) × Option (OptionSpec × String)) :=
  let (name, value) := splitValue word
  match options.find? fun o => o.long == name, value with
  | some o, some v => if o.takesValue then .ok ([(o, v)], none) else .error (.takesNoValue name)
  | some o, none => if o.takesValue then .ok ([], some (o, name)) else .ok ([(o, "")], none)
  | none, _ =>
    match word.toList with
    | '-' :: '-' :: _ =>
      .error (.noSuchOption name (Text.closeWords name (options.map (·.long))))
    | _ :: cs =>
      (shortOptions options cs).map fun r => (r.1, r.2.map fun (o, c) => (o, "-" ++ c.toString))
    | [] => .ok ([], none)

/-- Sort words into options and the rest. After a double dash all words are rest; so is, unless
options may follow arguments, everything from the first argument on. -/
def sortWords (options : List OptionSpec) (mixed : Bool) (done : Words) :
    List String → Except UsageFault Words
  | [] => .ok done
  | [word] =>
    if word = "--" then .ok done
    else if looksLikeOption word then
      match optionsOf options word with
      | .error f => .error f
      | .ok (given, none) => .ok { done with given := done.given ++ given }
      | .ok (_, some (_, name)) => .error (.needsValue name)
    else .ok { done with rest := done.rest ++ [word] }
  | word :: next :: rest =>
    if word = "--" then .ok { done with rest := done.rest ++ next :: rest }
    else if looksLikeOption word then
      match optionsOf options word with
      | .error f => .error f
      | .ok (given, none) =>
        sortWords options mixed { done with given := done.given ++ given } (next :: rest)
      | .ok (given, some (o, _)) =>
        sortWords options mixed { done with given := done.given ++ given ++ [(o, next)] } rest
    else if mixed then sortWords options mixed { done with rest := done.rest ++ [word] } (next :: rest)
    else .ok { done with rest := done.rest ++ word :: next :: rest }

/-- Why a command line is refused: by a fault of its own, or by a failure on the way. -/
inductive Refusal where
  | usage (fault : UsageFault)
  | failure (failure : Failure)

/-- What stands at a path as it is written. The empty path leads nowhere, and a slash or a dot at
the end leads into a directory only. -/
def statText (t : FileTree) (path : String) : Option Entry :=
  let found := (t.stat (Path.ofText path)).toOption
  if path.isEmpty then none
  else if path.endsWith "/" || path.endsWith "/." then found.filter (· == .directory)
  else found

/-- A value for an argument, checked. -/
def checkArgument (t : FileTree) (a : ArgumentSpec) (value : String) : Except Refusal Unit :=
  if a.isFile then
    if (Path.ofText value).hasNull then .error (.failure .nullInPath)
    else
      match statText t value with
      | none => .error (.usage (.noFile a.name value))
      | some .directory => .error (.usage (.directory a.name value))
      | some (.file _) => .ok ()
  else .ok ()

/-- The values of the arguments, and the words that are left over. -/
def takeArguments (t : FileTree) : List ArgumentSpec → List String →
    Except Refusal (List String × List String)
  | [], words => .ok ([], words)
  | a :: _, [] => .error (.usage (.missingArgument a.name))
  | a :: as, word :: words =>
    match checkArgument t a word with
    | .error f => .error f
    | .ok _ => (takeArguments t as words).map fun r => (word :: r.1, r.2)

/-- A command with its options and the values of its arguments. -/
structure Invocation where
  action : Action
  words : Words
  values : List String

/-- What a command line asks for. -/
inductive Request where
  | help
  | version
  | run (invocation : Invocation)

/-- The request that words make of a command. -/
def CommandSpec.request (c : CommandSpec) (t : FileTree) (words : List String) :
    Except Refusal Request := do
  let sorted ← (sortWords (c.options ++ [helpOption]) true .empty words).mapError .usage
  if sorted.eager?.isSome then return .help
  let (values, extra) ← takeArguments t c.arguments sorted.rest
  match c.options.find? fun o => o.required && !sorted.has o with
  | some o => throw (.usage (.missingOption o.long o.short))
  | none =>
    if extra.isEmpty then return .run ⟨c.action, sorted, values⟩
    else throw (.usage (.tooMany extra))

/-- What the words of a group ask for: something of its own, or one of its members with the words
that are left. -/
inductive GroupRequest where
  | help
  | version
  | member (words : Words) (name : String) (rest : List String)

/-- The request for something of a group's own. -/
def eagerRequest (words : Words) : Option GroupRequest :=
  words.eager?.map fun o => if o.kind == .version then .version else .help

/-- The request that words make of a group. A name that no member has and that looks like an option
is read as one before it is refused. -/
def GroupSpec.request (g : GroupSpec) (words : List String) : Except UsageFault GroupRequest := do
  let sorted ← sortWords (g.options ++ [helpOption]) false .empty words
  match eagerRequest sorted, sorted.rest with
  | some request, _ => return request
  | none, [] => throw .missingCommand
  | none, name :: rest =>
    if (g.members.lookup name).isSome then return .member sorted name rest
    let again ← if looksLikeOption name then
        sortWords (g.options ++ [helpOption]) false .empty sorted.rest
      else pure .empty
    match eagerRequest again with
    | some request => return request
    | none => throw (.noSuchCommand name (Text.closeWords name (g.members.map (·.1))))

end CallGraphs.CommandLine
