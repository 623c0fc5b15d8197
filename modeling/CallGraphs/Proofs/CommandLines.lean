import CallGraphs.CommandLine.Run
import CallGraphs.Proofs.OrderedMaps
/-!
# Command lines

How the words of a command line reach a command. The name of a command hands over to it with all the
words that follow, which are then options of the command and its arguments; after a double dash all
words are arguments. Whatever a reply shows, it leaves the tree as it was handed over.
-/

namespace CallGraphs.CommandLine

namespace Reply

/-- Showing texts changes no file. -/
@[simp] theorem saying_tree (tree : FileTree) (events : List Event) (code : Nat) (output : String)
    (texts : List Report.Shown) : (saying tree events code output texts).tree = tree := by
  induction texts generalizing output with
  | nil => rfl
  | cons text texts ih =>
      cases text with
      | ok text => exact ih (output ++ text)
      | error failure => rfl

end Reply

namespace Setting

@[simp] theorem succeed_tree (s : Setting) (events : List Event) (texts : List Report.Shown) :
    (s.succeed events texts).tree = s.tree :=
  Reply.saying_tree ..

@[simp] theorem tell_tree (s : Setting) (text : String) : (s.tell text).tree = s.tree :=
  s.succeed_tree ..

@[simp] theorem complain_tree (s : Setting) (events : List Event) (text : Text) :
    (s.complain events text).tree = s.tree :=
  Reply.saying_tree ..

@[simp] theorem complainKey_tree (s : Setting) (key : String) : (s.complainKey key).tree = s.tree :=
  s.complain_tree ..

@[simp] theorem refuse_tree (s : Setting) (events : List Event) (f : Failure) :
    (s.refuse events f).tree = s.tree := by
  rw [refuse]
  split
  · exact s.complain_tree ..
  · rfl

@[simp] theorem saveConfig_tree (s : Setting) (root : Path) (c : Config) (text : Text) :
    (s.saveConfig root c text).tree = (Project.save s.tree root c).state := by
  simp only [saveConfig]
  split
  · exact refuse_tree ..
  · exact succeed_tree ..

/-- A command on a project goes on with its root, or stops and changes nothing. -/
theorem withProject_cases (s : Setting) (path : Option String) (next : Path → Reply) :
    (s.withProject path next).tree = s.tree ∨
      ∃ root, s.projectRoot path = .ok (some root) ∧ s.withProject path next = next root := by
  unfold withProject
  split
  · exact .inl (s.refuse_tree ..)
  · exact .inl (s.complain_tree ..)
  · split
    · exact .inl (s.refuse_tree ..)
    · split
      · exact .inr ⟨_, ‹_›, rfl⟩
      · exact .inl (s.complain_tree ..)

end Setting

theorem ne_dashes {word : String} (h : looksLikeOption word = false) : word ≠ "--" := by
  rintro rfl
  exact absurd h (by decide)

/-- A word that is no option ends the options of a group. -/
theorem sortWords_name (options : List OptionSpec) {name : String}
    (hname : looksLikeOption name = false) (rest : List String) :
    sortWords options false .empty (name :: rest) = .ok ⟨[], name :: rest⟩ := by
  have hdashes := ne_dashes hname
  cases rest with
  | nil => simp [sortWords, hdashes, hname, Words.empty]
  | cons next rest => simp [sortWords, hdashes, hname, Words.empty]

theorem GroupSpec.request_member {g : GroupSpec} {name : String}
    (hname : looksLikeOption name = false) (hmember : (g.members.lookup name).isSome = true)
    (rest : List String) :
    g.request (name :: rest) = .ok (.member ⟨[], name :: rest⟩ name rest) := by
  rw [request, sortWords_name _ hname]
  change (if (g.members.lookup name).isSome then _ else _) = _
  rw [if_pos hmember]
  rfl

theorem Setting.runGroup_member (s : Setting) {g : GroupSpec} {name : String}
    (hname : looksLikeOption name = false) (hmember : (g.members.lookup name).isSome = true)
    (rest : List String) (next : Setting → String → List String → Reply) :
    s.runGroup g (name :: rest) next = next s name rest := by
  rw [runGroup, GroupSpec.request_member hname hmember]
  simp [Words.has]

/-- The names of the program's commands. -/
theorem isSome_lookup_program {name : String} (h : name ∈ configName :: commands.map (·.name)) :
    (program.members.lookup name).isSome = true := by
  have hperm := (List.mergeSort_perm
    ((configName, "Manage ctxgraph configuration.") :: commands.map fun c => (c.name, c.brief))
    fun a b => decide (a.1 ≤ b.1)).map Prod.fst
  have hkeys : name ∈ program.members.map Prod.fst := by
    refine hperm.mem_iff.mpr ?_
    simpa using h
  have hcontains := OrdMap.contains_eq_any_keys (⟨program.members⟩ : OrdMap String String) name
  change (program.members.lookup name).isSome = _ at hcontains
  rw [hcontains, List.any_eq_true]
  exact ⟨name, hkeys, beq_self_eq_true name⟩

theorem find?_name {members : List CommandSpec} (hnames : (members.map (·.name)).Nodup)
    {c : CommandSpec} (hc : c ∈ members) : members.find? (·.name == c.name) = some c := by
  induction members with
  | nil => cases hc
  | cons c' members ih =>
      obtain ⟨hnew, htail⟩ := List.nodup_cons.mp hnames
      rcases List.mem_cons.mp hc with rfl | hc
      · simp
      · have hne : (c'.name == c.name) = false := by
          simp only [beq_eq_false_iff_ne]
          intro heq
          exact hnew (List.mem_map.mpr ⟨c, hc, heq.symm⟩)
        rw [List.find?_cons, hne]
        exact ih htail hc

theorem Setting.runMember_name (s : Setting) (g : GroupSpec) {members : List CommandSpec}
    (hnames : (members.map (·.name)).Nodup) {c : CommandSpec} (hc : c ∈ members)
    (words : List String) :
    s.runMember g members c.name words = s.runCommand (g.path ++ " " ++ c.name) c words := by
  rw [runMember, find?_name hnames hc]

/-- The name of a command hands over to it. -/
theorem run_command (t : FileTree) (width : Nat) {c : CommandSpec} (hc : c ∈ commands)
    (words : List String) :
    run t width (c.name :: words) =
      (⟨t, width, false⟩ : Setting).runCommand (program.path ++ " " ++ c.name) c words := by
  have hname : ∀ c ∈ commands, looksLikeOption c.name = false ∧ (c.name == configName) = false := by
    decide
  have hmember : c.name ∈ configName :: commands.map (·.name) :=
    List.mem_cons_of_mem _ (List.mem_map_of_mem hc)
  rw [run, Setting.runGroup_member _ (hname c hc).1 (isSome_lookup_program hmember), (hname c hc).2]
  exact Setting.runMember_name _ program (by decide) hc words

/-- The name of a command on the configuration hands over to it. -/
theorem run_configCommand (t : FileTree) (width : Nat) {c : CommandSpec} (hc : c ∈ configCommands)
    (words : List String) :
    run t width (configName :: c.name :: words) =
      (⟨t, width, false⟩ : Setting).runCommand (configGroup.path ++ " " ++ c.name) c words := by
  have hname : ∀ c ∈ configCommands, looksLikeOption c.name = false ∧
      (configGroup.members.lookup c.name).isSome = true := by
    decide
  rw [run, Setting.runGroup_member _ (by decide) (isSome_lookup_program List.mem_cons_self),
    beq_self_eq_true, if_pos rfl, Setting.runGroup_member _ (hname c hc).1 (hname c hc).2]
  exact Setting.runMember_name _ configGroup (by decide) hc words

/-- The stages of reading the words of a command. -/
theorem CommandSpec.request_eq (c : CommandSpec) (t : FileTree) (words : List String) :
    c.request t words =
      match sortWords (c.options ++ [helpOption]) true .empty words with
      | .error fault => .error (.usage fault)
      | .ok sorted =>
        if sorted.eager?.isSome then .ok .help
        else
          match takeArguments t c.arguments sorted.rest with
          | .error refusal => .error refusal
          | .ok (values, extra) =>
            match c.options.find? fun o => o.required && !sorted.has o with
            | some o => .error (.usage (.missingOption o.long o.short))
            | none =>
              if extra.isEmpty then .ok (.run ⟨c.action, sorted, values⟩)
              else .error (.usage (.tooMany extra)) := by
  rw [request]
  cases sortWords (c.options ++ [helpOption]) true .empty words with
  | error fault => rfl
  | ok sorted =>
      change (if sorted.eager?.isSome then _ else _) = _
      by_cases heager : sorted.eager?.isSome = true
      · rw [if_pos heager]
        simp only [heager, if_true]
        rfl
      · rw [if_neg heager]
        simp only [heager, Bool.false_eq_true, if_false]
        cases takeArguments t c.arguments sorted.rest with
        | error refusal => rfl
        | ok taken => rfl

/-- A command that is run is the one that was named, on the values of its arguments. -/
theorem CommandSpec.of_request {c : CommandSpec} {t : FileTree} {words : List String}
    {i : Invocation} (h : c.request t words = .ok (.run i)) :
    i.action = c.action ∧ takeArguments t c.arguments i.words.rest = .ok (i.values, []) := by
  rw [request_eq] at h
  split at h
  · cases h
  · split at h
    · cases h
    · split at h
      · cases h
      · rename_i values extra htaken
        split at h
        · cases h
        · split at h
          · rename_i hextra
            cases h
            rw [htaken, List.isEmpty_iff.mp hextra]
            exact ⟨rfl, rfl⟩
          · cases h

theorem CommandSpec.action_of_request {c : CommandSpec} {t : FileTree} {words : List String}
    {i : Invocation} (h : c.request t words = .ok (.run i)) : i.action = c.action :=
  (c.of_request h).1

/-- The words of a command lead to carrying it out, or to a reply that changes nothing. -/
theorem Setting.runCommand_cases (s : Setting) (name : String) (c : CommandSpec)
    (words : List String) :
    (s.runCommand name c words).tree = s.tree ∨
      ∃ i, i.action = c.action ∧ s.runCommand name c words = s.perform i := by
  unfold runCommand
  split
  · exact .inl rfl
  · exact .inl (s.refuse_tree ..)
  · exact .inl (s.tell_tree ..)
  · exact .inl (s.tell_tree ..)
  · rename_i i hrequest
    exact .inr ⟨i, c.action_of_request hrequest, rfl⟩

theorem takeArguments_of_length (t : FileTree) {specs : List ArgumentSpec}
    (hfiles : ∀ a ∈ specs, a.isFile = false) {words : List String}
    (hlength : words.length = specs.length) : takeArguments t specs words = .ok (words, []) := by
  induction specs generalizing words with
  | nil =>
      rw [List.eq_nil_of_length_eq_zero hlength]
      rfl
  | cons a specs ih =>
      cases words with
      | nil => cases hlength
      | cons word words =>
          obtain ⟨ha, hspecs⟩ := List.forall_mem_cons.mp hfiles
          have hcheck : checkArgument t a word = .ok () := by
            rw [checkArgument, ha]
            rfl
          rw [takeArguments, hcheck, ih hspecs (Nat.succ.inj hlength)]
          rfl

/-- A path that is written as one of a file leads to a file. -/
theorem stat_of_statText {t : FileTree} {path : String} {bytes : List UInt8}
    (h : statText t path = some (.file bytes)) : t.stat (Path.ofText path) = .ok (.file bytes) := by
  rw [statText] at h
  split at h
  · cases h
  · split at h
    · obtain ⟨_, hdirectory⟩ := Option.filter_eq_some_iff.mp h
      cases hdirectory
    · cases hstat : t.stat (Path.ofText path) with
      | error e =>
          rw [hstat] at h
          cases h
      | ok entry =>
          rw [hstat] at h
          cases h
          rfl

/-- An argument that has to name a file names one. -/
theorem checkArgument_eq_ok {t : FileTree} {a : ArgumentSpec} (ha : a.isFile = true)
    {value : String} (h : checkArgument t a value = .ok ()) :
    (Path.ofText value).hasNull = false ∧ ∃ bytes, t.read (Path.ofText value) = .ok bytes := by
  rw [checkArgument, if_pos ha] at h
  split at h
  · cases h
  · rename_i hnull
    refine ⟨Bool.eq_false_iff.mpr hnull, ?_⟩
    split at h
    · cases h
    · cases h
    · rename_i bytes hstat
      exact ⟨bytes, by rw [FileTree.read, stat_of_statText hstat]⟩

/-- An argument is refused by a failure only for a null character. -/
theorem checkArgument_eq_failure {t : FileTree} {a : ArgumentSpec} {value : String} {f : Failure}
    (h : checkArgument t a value = .error (.failure f)) :
    f = .nullInPath ∧ (Path.ofText value).hasNull = true := by
  rw [checkArgument] at h
  split at h
  · split at h
    · rename_i hnull
      cases h
      exact ⟨rfl, hnull⟩
    · split at h <;> cases h
  · cases h

theorem takeArguments_eq_failure {t : FileTree} {specs : List ArgumentSpec} {words : List String}
    {f : Failure} (h : takeArguments t specs words = .error (.failure f)) :
    f = .nullInPath ∧ ∃ word ∈ words, (Path.ofText word).hasNull = true := by
  induction specs generalizing words with
  | nil => cases h
  | cons a specs ih =>
      cases words with
      | nil => cases h
      | cons word words =>
          rw [takeArguments] at h
          cases hcheck : checkArgument t a word with
          | error refusal =>
              rw [hcheck] at h
              cases h
              obtain ⟨hf, hnull⟩ := checkArgument_eq_failure hcheck
              exact ⟨hf, word, List.mem_cons_self, hnull⟩
          | ok _ =>
              rw [hcheck] at h
              cases htaken : takeArguments t specs words with
              | error refusal =>
                  rw [htaken] at h
                  cases h
                  obtain ⟨hf, word', hword', hnull⟩ := ih htaken
                  exact ⟨hf, word', List.mem_cons_of_mem _ hword', hnull⟩
              | ok taken =>
                  rw [htaken] at h
                  cases h

/-- The first value that is taken is one that was checked. -/
theorem takeArguments_cons_eq_ok {t : FileTree} {a : ArgumentSpec} {specs : List ArgumentSpec}
    {words values extra : List String}
    (h : takeArguments t (a :: specs) words = .ok (values, extra)) :
    ∃ word rest, checkArgument t a word = .ok () ∧ values = word :: rest := by
  cases words with
  | nil => cases h
  | cons word words =>
      rw [takeArguments] at h
      cases hcheck : checkArgument t a word with
      | error refusal =>
          rw [hcheck] at h
          cases h
      | ok _ =>
          rw [hcheck] at h
          cases htaken : takeArguments t specs words with
          | error refusal =>
              rw [htaken] at h
              cases h
          | ok taken =>
              rw [htaken] at h
              cases h
              exact ⟨word, taken.1, hcheck, rfl⟩

/-- The words that are left over by the options are words of the line. -/
theorem mem_of_mem_rest {options : List OptionSpec} {mixed : Bool} {done sorted : Words}
    {words : List String} (h : sortWords options mixed done words = .ok sorted) {word : String}
    (hword : word ∈ sorted.rest) : word ∈ done.rest ∨ word ∈ words := by
  fun_induction sortWords options mixed done words generalizing sorted <;> grind

theorem CommandSpec.request_eq_failure {c : CommandSpec} {t : FileTree} {words : List String}
    {f : Failure} (h : c.request t words = .error (.failure f)) :
    f = .nullInPath ∧ ∃ word ∈ words, (Path.ofText word).hasNull = true := by
  rw [request_eq] at h
  split at h
  · cases h
  · rename_i sorted hsorted
    split at h
    · cases h
    · split at h
      · rename_i refusal htaken
        cases h
        obtain ⟨hf, word, hword, hnull⟩ := takeArguments_eq_failure htaken
        rcases mem_of_mem_rest hsorted hword with hnone | hword
        · cases hnone
        · exact ⟨hf, word, hword, hnull⟩
      · split at h
        · cases h
        · split at h <;> cases h

/-- A command among some members, with the path option only and a number of arguments of which none
has to be a file. -/
def Offers (members : List CommandSpec) (name : String) (action : Action) (arity : Nat) : Prop :=
  ∃ c ∈ members, c.name = name ∧ c.action = action ∧ c.options = [pathOption] ∧
    c.arguments.length = arity ∧ ∀ a ∈ c.arguments, a.isFile = false

theorem offers_init : Offers commands "init" .init 0 := by
  unfold Offers
  decide

theorem offers_set : Offers configCommands "set" .configSet 2 := by
  unfold Offers
  decide

theorem offers_get : Offers configCommands "get" .configGet 1 := by
  unfold Offers
  decide

theorem offers_show : Offers configCommands "show" .configShow 0 := by
  unfold Offers
  decide

section Sorted

variable {words : List String} {sorted : Words}
  (hsorted : sortWords [pathOption, helpOption] true .empty words = .ok sorted)
  (heager : sorted.eager? = none)
include hsorted heager

/-- A command that gets as many arguments as it takes is carried out. -/
theorem Setting.runCommand_sorted (s : Setting) (name : String) {c : CommandSpec}
    (hoptions : c.options = [pathOption]) (hfiles : ∀ a ∈ c.arguments, a.isFile = false)
    (hlength : sorted.rest.length = c.arguments.length) :
    s.runCommand name c words = s.perform ⟨c.action, sorted, sorted.rest⟩ := by
  have hrequired : c.options.find? (fun o => o.required && !sorted.has o) = none := by
    rw [hoptions]
    rfl
  have hrequest : c.request s.tree words = .ok (.run ⟨c.action, sorted, sorted.rest⟩) := by
    rw [← List.singleton_append, ← hoptions] at hsorted
    rw [CommandSpec.request_eq, hsorted]
    simp only [heager, takeArguments_of_length s.tree hfiles hlength, hrequired]
    rfl
  rw [runCommand, hrequest]

theorem run_sorted (t : FileTree) (width : Nat) {name : String} {action : Action}
    (h : Offers commands name action sorted.rest.length) :
    run t width (name :: words) =
      (⟨t, width, false⟩ : Setting).perform ⟨action, sorted, sorted.rest⟩ := by
  obtain ⟨c, hc, rfl, rfl, hoptions, hlength, hfiles⟩ := h
  rw [run_command t width hc]
  exact Setting.runCommand_sorted hsorted heager _ _ hoptions hfiles hlength.symm

theorem run_config_sorted (t : FileTree) (width : Nat) {name : String} {action : Action}
    (h : Offers configCommands name action sorted.rest.length) :
    run t width ("config" :: name :: words) =
      (⟨t, width, false⟩ : Setting).perform ⟨action, sorted, sorted.rest⟩ := by
  obtain ⟨c, hc, rfl, rfl, hoptions, hlength, hfiles⟩ := h
  have hrun := run_configCommand t width hc words
  rw [configName] at hrun
  rw [hrun]
  exact Setting.runCommand_sorted hsorted heager _ _ hoptions hfiles hlength.symm

end Sorted

/-- Words that are no options are arguments. -/
theorem sortWords_arguments (options : List OptionSpec) {first second : String}
    (hfirst : looksLikeOption first = false) (hsecond : looksLikeOption second = false) :
    sortWords options true .empty [first, second] = .ok ⟨[], [first, second]⟩ := by
  simp [sortWords, hfirst, hsecond, ne_dashes hfirst, ne_dashes hsecond, Words.empty]

/-- After a double dash all words are arguments. -/
theorem sortWords_dashes (options : List OptionSpec) (mixed : Bool) (done : Words)
    (arguments : List String) :
    sortWords options mixed done ("--" :: arguments) =
      .ok { done with rest := done.rest ++ arguments } := by
  cases arguments with
  | nil => simp [sortWords]
  | cons word words => simp [sortWords]

/-- The words of a line that may name a path and gives its arguments after a double dash. -/
def lineWords (path : Option String) (arguments : List String) : List String :=
  match path with
  | none => "--" :: arguments
  | some p => pathOption.long :: p :: "--" :: arguments

theorem sortWords_lineWords (path : Option String) (arguments : List String) :
    sortWords [pathOption, helpOption] true .empty (lineWords path arguments) =
      .ok ⟨path.toList.map (pathOption, ·), arguments⟩ := by
  cases path with
  | none =>
      rw [lineWords, sortWords_dashes]
      rfl
  | some p =>
      have hname : optionsOf [pathOption, helpOption] pathOption.long =
          .ok ([], some (pathOption, pathOption.long)) := rfl
      have hoption : looksLikeOption pathOption.long = true := by decide
      have hdashes : pathOption.long ≠ "--" := by decide
      rw [lineWords, sortWords]
      simp only [hdashes, hoption, hname, if_false, if_true, sortWords_dashes]
      rfl

theorem eager?_path (path : Option String) (arguments : List String) :
    Words.eager? ⟨path.toList.map (pathOption, ·), arguments⟩ = none := by
  cases path <;> rfl

theorem value?_path (path : Option String) (arguments : List String) :
    Words.value? ⟨path.toList.map (pathOption, ·), arguments⟩ pathOption = path := by
  cases path with
  | none => rfl
  | some p => simp [Words.value?]

end CallGraphs.CommandLine
