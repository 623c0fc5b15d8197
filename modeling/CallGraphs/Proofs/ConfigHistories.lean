import CallGraphs.Proofs.SettingChanges
/-!
# The configuration of a project over many commands

The commands that make a project, change a setting and show settings are run one after another on
one project directory. The configuration file is never broken: after each of them it loads, and
gives what the commands made of the configuration at the start. A change that brings in half pairs
is the only one that is not stored as it was made.
-/

namespace CallGraphs.CommandLine

/-- The commands that deal with the configuration. -/
inductive ConfigCommand where
  | init
  | set (key text : String)
  | get (key : String)
  | showAll

/-- A command as it is typed, with the path that it names. -/
structure ConfigLine where
  command : ConfigCommand
  path : Option String

namespace ConfigLine

/-- The words of a line. -/
def words (x : ConfigLine) : List String :=
  match x.command with
  | .init => "init" :: lineWords x.path []
  | .set key text => "config" :: "set" :: lineWords x.path [key, text]
  | .get key => "config" :: "get" :: lineWords x.path [key]
  | .showAll => "config" :: "show" :: lineWords x.path []

/-- The reply to a line. -/
def reply (s : Setting) (x : ConfigLine) : Reply :=
  match x.command with
  | .init => s.init x.path
  | .set key text => s.configSet key text x.path
  | .get key => s.configGet key x.path
  | .showAll => s.configShow x.path

/-- The project that a line is about. -/
def project (s : Setting) (x : ConfigLine) : Except Failure (Option Path) :=
  match x.command with
  | .init => (Project.placeOf s.tree (.ofText (x.path.getD ""))).map fun l => some (.ofLocation l)
  | _ => s.projectRoot x.path

theorem run_words (t : FileTree) (width : Nat) (x : ConfigLine) :
    run t width x.words = x.reply ⟨t, width, false⟩ := by
  obtain ⟨command, path⟩ := x
  have hsorted := sortWords_lineWords path
  have heager := eager?_path path
  cases command with
  | init =>
      have hrun := run_sorted (hsorted []) (heager _) t width offers_init
      simp only [Setting.perform, value?_path] at hrun
      exact hrun
  | set key text =>
      have hrun := run_config_sorted (hsorted [key, text]) (heager _) t width offers_set
      simp only [Setting.perform, value?_path] at hrun
      exact hrun
  | get key =>
      have hrun := run_config_sorted (hsorted [key]) (heager _) t width offers_get
      simp only [Setting.perform, value?_path] at hrun
      exact hrun
  | showAll =>
      have hrun := run_config_sorted (hsorted []) (heager _) t width offers_show
      simp only [Setting.perform, value?_path] at hrun
      exact hrun

end ConfigLine

namespace ConfigCommand

/-- The configuration that a command makes of the present one, if it changes it. -/
def change (name : Text) (c : Config) : ConfigCommand → Option Config
  | .init => some { c with name := name }
  | .set key text =>
    match Setting.typedValue text with
    | .ok value => (c.set key value).toOption
    | .error _ => none
  | .get _ => none
  | .showAll => none

/-- The configuration after a command. -/
def applied (name : Text) (c : Config) (command : ConfigCommand) : Config :=
  (command.change name c).getD c

/-- The configuration that is stored after a command. Half pairs in the name or in a kind cannot be
stored, and the spellings are stored without theirs. -/
def stored (name : Text) (c : Config) (command : ConfigCommand) : Config :=
  match command.change name c with
  | none => c
  | some c' => if c'.halves? = none then c'.reread else c

/-- A command that makes no half pairs, or makes no difference to a configuration that cannot be
stored. -/
def Storable (name : Text) (c : Config) (command : ConfigCommand) : Prop :=
  ∀ c', command.change name c = some c' → c'.Whole ∨ c' = c ∧ c'.halves? ≠ none

theorem proper_typedValue {text : String} {value : Json}
    (h : Setting.typedValue text = .ok value) : value.Proper := by
  rw [Setting.typedValue] at h
  split at h
  · cases h
    exact Json.proper_of_read ‹_›
  · cases h
    exact .text _
  · cases h

theorem change_set {name : Text} {c c' : Config} {key text : String}
    (h : (set key text).change name c = some c') :
    ∃ value, Setting.typedValue text = .ok value ∧ c.set key value = .ok c' := by
  rw [change] at h
  split at h
  · rename_i value hvalue
    cases hset : c.set key value with
    | error f =>
        rw [hset] at h
        cases h
    | ok c₁ =>
        rw [hset] at h
        cases h
        exact ⟨value, hvalue, hset⟩
  · cases h

theorem distinct_change {name : Text} {c c' : Config} (hc : c.Distinct) {command : ConfigCommand}
    (h : command.change name c = some c') : c'.Distinct := by
  cases command with
  | init =>
      cases h
      exact hc
  | set key text =>
      obtain ⟨value, hvalue, hset⟩ := change_set h
      exact hc.set (proper_typedValue hvalue) hset
  | get key => cases h
  | showAll => cases h

theorem distinct_applied (name : Text) {c : Config} (hc : c.Distinct) (command : ConfigCommand) :
    (command.applied name c).Distinct := by
  rw [applied]
  cases h : command.change name c with
  | none => exact hc
  | some c' => exact distinct_change hc h

/-- What is stored is what was made exactly if the command is storable. -/
theorem stored_eq_applied_iff (name : Text) {c : Config} (hc : c.Distinct)
    (command : ConfigCommand) :
    command.stored name c = command.applied name c ↔ command.Storable name c := by
  rw [stored, applied, Storable]
  cases h : command.change name c with
  | none => simp
  | some c' =>
      have hdistinct := distinct_change hc h
      simp only [Option.getD_some, Option.some.injEq, forall_eq']
      by_cases hhalves : c'.halves? = none
      · rw [if_pos hhalves, Config.reread_eq_self_iff hhalves]
        simp [hdistinct, hhalves]
      · rw [if_neg hhalves]
        have hbroken : ¬ c'.Whole := fun hwhole => hhalves hwhole.halves?
        simp [hhalves, hbroken, eq_comm]

/-- A change without half pairs is stored. -/
theorem stored_of_change {name : Text} {c c' : Config} {command : ConfigCommand}
    (h : command.change name c = some c') (hwhole : c'.Whole) (hdistinct : c'.Distinct) :
    command.stored name c = c' := by
  rw [stored, h]
  simp only [hwhole.halves?, if_true]
  exact Config.reread_of_whole hwhole hdistinct

/-- Making a project of one that has its name already changes nothing. -/
theorem stored_init {name : Text} {c : Config} (hname : c.name = name) (hwhole : c.Whole)
    (hdistinct : c.Distinct) : init.stored name c = c := by
  refine stored_of_change ?_ hwhole hdistinct
  rw [change, ← hname]

/-- A project that was made has its name, unless half pairs were in the way. -/
theorem name_stored_init {name : Text} (hname : name.halves? = none) {c : Config}
    (hwhole : (init.stored name c).Whole) : (init.stored name c).name = name := by
  rw [stored, change] at hwhole ⊢
  by_cases hhalves : ({ c with name := name } : Config).halves? = none
  · simp only [hhalves, if_true]
    rfl
  · simp only [hhalves, if_false] at hwhole
    refine absurd ?_ hhalves
    rw [Config.halves?_eq_none_iff]
    exact ⟨hname, hwhole.kind⟩

theorem stored_cases (name : Text) (c : Config) (command : ConfigCommand) :
    command.stored name c = c ∨
      ∃ c', command.change name c = some c' ∧ c'.halves? = none ∧
        command.stored name c = c'.reread := by
  rw [stored]
  cases command.change name c with
  | none => exact .inl rfl
  | some c' =>
      by_cases hhalves : c'.halves? = none
      · exact .inr ⟨c', rfl, hhalves, if_pos hhalves⟩
      · exact .inl (if_neg hhalves)

/-- What is stored of a configuration without half pairs has none. -/
theorem whole_stored (name : Text) {c : Config} (hwhole : c.Whole) (command : ConfigCommand) :
    (command.stored name c).Whole := by
  rcases stored_cases name c command with hsame | ⟨c', _, hhalves, hreread⟩
  · rw [hsame]
    exact hwhole
  · rw [hreread]
    exact Config.whole_reread hhalves

/-- Only setting the name takes the name of the project away. -/
theorem name_stored {name : Text} {c : Config} (hname : c.name = name) {command : ConfigCommand}
    (hcommand : ∀ text, command ≠ .set "name" text) : (command.stored name c).name = name := by
  rcases stored_cases name c command with hsame | ⟨c', hchange, _, hreread⟩
  · rw [hsame]
    exact hname
  rw [hreread]
  change c'.name = name
  cases command with
  | init =>
      cases hchange
      rfl
  | set key text =>
      obtain ⟨value, _, hset⟩ := change_set hchange
      have hkey : (key : Text) ≠ "name" := by
        intro h
        apply hcommand text
        rw [Text.ofString_inj.mp h]
      rw [Config.name_set hset hkey]
      exact hname
  | get key => cases hchange
  | showAll => cases hchange

end ConfigCommand

namespace Setting

theorem configGet_tree (s : Setting) (key : String) (path : Option String) :
    (s.configGet key path).tree = s.tree := by
  unfold configGet
  rcases s.withProject_cases path _ with htree | ⟨root, _, hnext⟩
  · exact htree
  · rw [hnext]
    split
    · exact s.refuse_tree ..
    · split
      · exact s.complainKey_tree ..
      · exact s.succeed_tree ..

theorem configShow_tree (s : Setting) (path : Option String) :
    (s.configShow path).tree = s.tree := by
  unfold configShow
  rcases s.withProject_cases path _ with htree | ⟨root, _, hnext⟩
  · exact htree
  · rw [hnext]
    split
    · exact s.refuse_tree ..
    · split
      · exact s.refuse_tree ..
      · split
        · exact s.refuse_tree ..
        · exact s.tell_tree ..

end Setting

/-- Two ways of going through a list agree all the way exactly if they agree on each step of the
second. -/
theorem foldl_take_eq_iff {α β : Type} (f g : β → α → β) (b : β) (xs : List α) :
    (∀ n, (xs.take n).foldl f b = (xs.take n).foldl g b) ↔
      ∀ k x, xs[k]? = some x → f ((xs.take k).foldl g b) x = g ((xs.take k).foldl g b) x := by
  constructor
  · intro h k x hx
    have hnext := h (k + 1)
    rw [List.take_add_one, hx, Option.toList_some, List.foldl_concat, List.foldl_concat,
      h k] at hnext
    exact hnext
  · intro h n
    induction n with
    | zero => simp
    | succ n ih =>
        rw [List.take_add_one, List.foldl_append, List.foldl_append, ih]
        cases hx : xs[n]? with
        | none => rfl
        | some x => exact h n x hx

namespace ConfigLine

/-- What one line does: it saves the configuration that its command makes, or changes no file. -/
theorem reply_tree {s : Setting} {root : Path} {l : Location} {c : Config}
    (hhome : Project.Home s.tree root l) (hload : Project.load s.tree root = .ok c) {x : ConfigLine}
    (hx : x.project s = .ok (some root)) :
    (x.reply s).tree =
      match x.command.change root.name c with
      | none => s.tree
      | some c' => (Project.save s.tree root c').state := by
  obtain ⟨command, path⟩ := x
  cases command with
  | init =>
      cases hplace : Project.placeOf s.tree (.ofText (path.getD "")) with
      | error f =>
          simp only [project, hplace] at hx
          cases hx
      | ok place =>
          simp only [project, hplace] at hx
          cases hx
          simp only [reply, Setting.init, hplace, hhome.probe, hload]
          exact Setting.saveConfig_tree ..
  | set key text =>
      have hroot : s.projectRoot path = .ok (some root) := hx
      simp only [reply, Setting.configSet, Setting.withProject, hroot, hhome.probe, if_true,
        ConfigCommand.change]
      cases hvalue : Setting.typedValue text with
      | error f => exact s.refuse_tree ..
      | ok value =>
          simp only [hload]
          cases hset : c.set key value with
          | error f =>
              split
              · exact s.complainKey_tree ..
              · exact s.refuse_tree ..
              · cases ‹_›
          | ok c' => exact Setting.saveConfig_tree ..
  | get key => exact s.configGet_tree key path
  | showAll => exact s.configShow_tree path

/-- The tree after some lines. -/
def treeAfter (width : Nat) (t : FileTree) (lines : List ConfigLine) : FileTree :=
  lines.foldl (fun t x => (run t width x.words).tree) t

/-- Lines of which each is about the project when it is run. -/
def OnProject (width : Nat) (root : Path) : FileTree → List ConfigLine → Prop
  | _, [] => True
  | t, x :: lines => x.project ⟨t, width, false⟩ = .ok (some root) ∧
      OnProject width root (run t width x.words).tree lines

/-- The configuration that some lines make. -/
def appliedAll (name : Text) (c : Config) (lines : List ConfigLine) : Config :=
  lines.foldl (fun c x => x.command.applied name c) c

/-- The configuration that some lines store. -/
def storedAll (name : Text) (c : Config) (lines : List ConfigLine) : Config :=
  lines.foldl (fun c x => x.command.stored name c) c

theorem storedAll_append (name : Text) (c : Config) (lines more : List ConfigLine) :
    storedAll name c (lines ++ more) = storedAll name (storedAll name c lines) more :=
  List.foldl_append

/-- After one line the project is still there, and its configuration is the one that is stored. -/
theorem run_step {t : FileTree} {root : Path} {l : Location} {c : Config} (width : Nat)
    (hhome : Project.Home t root l) (hload : Project.load t root = .ok c) {x : ConfigLine}
    (hx : x.project ⟨t, width, false⟩ = .ok (some root)) :
    Project.Home (run t width x.words).tree root l ∧
      Project.load (run t width x.words).tree root = .ok (x.command.stored root.name c) := by
  have htree := reply_tree (s := ⟨t, width, false⟩) hhome hload hx
  rw [run_words, htree, ConfigCommand.stored]
  cases x.command.change root.name c with
  | none => exact ⟨hhome, hload⟩
  | some c' =>
      refine ⟨hhome.save c', ?_⟩
      rw [hhome.load_save c', hload]
      by_cases hhalves : c'.halves? = none
      · simp only [hhalves, if_true]
      · simp only [hhalves, if_false]

/-- After many lines the configuration is the one that they stored one after another. -/
theorem load_treeAfter {t : FileTree} {root : Path} {l : Location} {c : Config} {width : Nat}
    {lines : List ConfigLine} (hhome : Project.Home t root l) (hload : Project.load t root = .ok c)
    (hon : OnProject width root t lines) :
    Project.load (treeAfter width t lines) root = .ok (storedAll root.name c lines) := by
  induction lines generalizing t c with
  | nil => exact hload
  | cons x lines ih =>
      obtain ⟨hx, hrest⟩ := hon
      obtain ⟨hhome', hload'⟩ := run_step width hhome hload hx
      exact ih hhome' hload' hrest

theorem OnProject.of_append {width : Nat} {root : Path} {t : FileTree}
    {lines more : List ConfigLine} (h : OnProject width root t (lines ++ more)) :
    OnProject width root t lines := by
  induction lines generalizing t with
  | nil => exact trivial
  | cons x lines ih => exact ⟨h.1, ih h.2⟩

theorem distinct_appliedAll (name : Text) {c : Config} (hc : c.Distinct)
    (lines : List ConfigLine) : (appliedAll name c lines).Distinct := by
  induction lines generalizing c with
  | nil => exact hc
  | cons x lines ih => exact ih (ConfigCommand.distinct_applied name hc x.command)

/-- What is stored is what was made, all the way, exactly if each line is storable when its turn
comes. -/
theorem storedAll_eq_appliedAll_iff (name : Text) {c : Config} (hc : c.Distinct)
    (lines : List ConfigLine) :
    (∀ n, storedAll name c (lines.take n) = appliedAll name c (lines.take n)) ↔
      ∀ (k : Nat) (x : ConfigLine), lines[k]? = some x →
        x.command.Storable name (appliedAll name c (lines.take k)) := by
  unfold storedAll
  refine (foldl_take_eq_iff _ (fun c x => x.command.applied name c) c lines).trans ?_
  refine forall_congr' fun k => forall_congr' fun x => imp_congr_right fun _ => ?_
  exact ConfigCommand.stored_eq_applied_iff name (distinct_appliedAll name hc _) x.command

/-- Without half pairs, lines that do not set the name leave the project its name. -/
theorem storedAll_keeps {name : Text} {c : Config} (hname : c.name = name) (hwhole : c.Whole)
    {lines : List ConfigLine} (hlines : ∀ x ∈ lines, ∀ text, x.command ≠ .set "name" text) :
    (storedAll name c lines).name = name ∧ (storedAll name c lines).Whole := by
  induction lines generalizing c with
  | nil => exact ⟨hname, hwhole⟩
  | cons x lines ih =>
      obtain ⟨hx, hrest⟩ := List.forall_mem_cons.mp hlines
      have hwhole' := ConfigCommand.whole_stored name hwhole x.command
      exact ih (ConfigCommand.name_stored hname hx) hwhole' hrest

/-- Lines that name the project by an absolute path are about it in every tree. -/
theorem onProject_of_forall {width : Nat} {root : Path} {lines : List ConfigLine}
    (h : ∀ x ∈ lines, ∀ t, x.project ⟨t, width, false⟩ = .ok (some root)) (t : FileTree) :
    OnProject width root t lines := by
  induction lines generalizing t with
  | nil => exact trivial
  | cons x lines ih =>
      obtain ⟨hx, hlines⟩ := List.forall_mem_cons.mp h
      exact ⟨hx t, ih hlines _⟩

/-- Commands are run one after another on a project, whose configuration loads at the start. After
each of them it loads, as the one that they stored. This is the one that they made of it exactly as
long as no command makes half pairs. Making a project again changes nothing unless its name was set
in between, if making it the first time left no half pairs. -/
theorem config_follows_commands {t : FileTree} {root : Path} {l : Location} {c : Config}
    {width : Nat} {lines : List ConfigLine} (hhome : Project.Home t root l)
    (hload : Project.load t root = .ok c) (hon : OnProject width root t lines) :
    (∀ n, Project.load (treeAfter width t (lines.take n)) root =
        .ok (storedAll root.name c (lines.take n))) ∧
      ((∀ n, Project.load (treeAfter width t (lines.take n)) root =
          .ok (appliedAll root.name c (lines.take n))) ↔
        ∀ (k : Nat) (x : ConfigLine), lines[k]? = some x →
          x.command.Storable root.name (appliedAll root.name c (lines.take k))) ∧
      ∀ (before between after : List ConfigLine) (x y : ConfigLine) (c₁ c₂ : Config),
        lines = before ++ [x] ++ between ++ [y] ++ after →
        x.command = .init → y.command = .init →
        (∀ z ∈ between, ∀ text, z.command ≠ .set "name" text) →
        Project.load (treeAfter width t (before ++ [x])) root = .ok c₁ → c₁.Whole →
        Project.load (treeAfter width t (before ++ [x] ++ between)) root = .ok c₂ →
        Project.load (treeAfter width t (before ++ [x] ++ between ++ [y])) root = .ok c₂ := by
  have hstored : ∀ front back, lines = front ++ back →
      Project.load (treeAfter width t front) root = .ok (storedAll root.name c front) :=
    fun front back hlines => load_treeAfter hhome hload (hlines ▸ hon).of_append
  have htake := fun n => hstored _ _ (List.take_append_drop n lines).symm
  refine ⟨htake, ?_, ?_⟩
  · rw [← storedAll_eq_appliedAll_iff root.name (Project.distinct_of_load hload) lines]
    refine forall_congr' fun n => ?_
    rw [htake n, Except.ok.injEq]
  · intro before between after x y c₁ c₂ hlines hx hy hbetween h₁ hwhole h₂
    have hdistinct := Project.distinct_of_load h₂
    rw [hstored (before ++ [x]) (between ++ [y] ++ after) (by simp [hlines]), Except.ok.injEq] at h₁
    rw [hstored (before ++ [x] ++ between) ([y] ++ after) (by simp [hlines]), Except.ok.injEq,
      storedAll_append, h₁] at h₂
    rw [hstored (before ++ [x] ++ between ++ [y]) after hlines, Except.ok.injEq, storedAll_append,
      storedAll_append, h₁, h₂]
    have hfirst : ConfigCommand.init.stored root.name (storedAll root.name c before) = c₁ := by
      rw [storedAll_append] at h₁
      rw [← h₁, ← hx]
      rfl
    have hname : c₁.name = root.name := by
      rw [← hfirst] at hwhole ⊢
      exact ConfigCommand.name_stored_init (Text.halves?_ofString _) hwhole
    obtain ⟨hname₂, hwhole₂⟩ := storedAll_keeps hname hwhole hbetween
    rw [h₂] at hname₂ hwhole₂
    change y.command.stored root.name c₂ = c₂
    rw [hy]
    exact ConfigCommand.stored_init hname₂ hwhole₂ hdistinct

/-- Lines about one project: it is made, renamed, asked for a setting that is not there, made
strict, and made again. -/
def workLines : List ConfigLine :=
  [⟨.init, some "/work"⟩, ⟨.set "name" "other", some "/work"⟩, ⟨.get "nope", some "/work"⟩,
    ⟨.set "classifier.strict" "true", some "/work"⟩, ⟨.init, some "/work"⟩]

theorem workLines_project : ∀ x ∈ workLines, ∀ t,
    x.project ⟨t, 1000, false⟩ = .ok (some (.ofLocation ["work"])) := by
  simp only [workLines, List.forall_mem_cons]
  exact ⟨fun _ => rfl, fun _ => rfl, fun _ => rfl, fun _ => rfl, fun _ => rfl, nofun⟩

theorem config_follows_work_lines :
    Project.load (treeAfter 1000 Project.freshProject (workLines.take 5)) (.ofLocation ["work"]) =
      .ok ⟨"work", defaultAliases, true⟩ := by
  have hon := onProject_of_forall workLines_project Project.freshProject
  have hload :=
    (config_follows_commands Project.home_freshProject Project.load_freshProject hon).1 5
  have hmade : ConfigCommand.stored "work" (.default "work") .init = .default "work" :=
    ConfigCommand.stored_init rfl ⟨by decide, by decide, by decide⟩ nodup_defaultAliases
  have hrenamed : ConfigCommand.stored "work" (.default "work") (.set "name" "other") =
      ⟨"other", .default⟩ :=
    ConfigCommand.stored_of_change rfl ⟨by decide, by decide, by decide⟩ nodup_defaultAliases
  have hstrict : ConfigCommand.stored "work" ⟨"other", .default⟩ (.set "classifier.strict" "true") =
      ⟨"other", defaultAliases, true⟩ :=
    ConfigCommand.stored_of_change rfl ⟨by decide, by decide, by decide⟩ nodup_defaultAliases
  have hagain : ConfigCommand.stored "work" ⟨"other", defaultAliases, true⟩ .init =
      ⟨"work", defaultAliases, true⟩ :=
    ConfigCommand.stored_of_change rfl ⟨by decide, by decide, by decide⟩ nodup_defaultAliases
  have hget : ConfigCommand.stored "work" ⟨"other", .default⟩ (.get "nope") = ⟨"other", .default⟩ :=
    rfl
  have hname : ((Path.ofLocation ["work"]).name : Text) = "work" := rfl
  rw [hload]
  simp only [storedAll, workLines, List.take, List.foldl_cons, List.foldl_nil, hname, hmade,
    hrenamed, hget, hstrict, hagain]

/-- A line that sets a spelling which is half a pair. -/
def halfPairLine : ConfigLine :=
  ⟨.set "classifier.kind_aliases" "\x7b\"\\ud800\": \"static\"\x7d", some "/work"⟩

theorem typedValue_halfPair :
    Setting.typedValue "\x7b\"\\ud800\": \"static\"\x7d" =
      .ok (.object [(⟨[.half 0]⟩, .text "static")]) := by
  have hmembers : Json.readMembers 41 979 "\"\\ud800\": \"static\"\x7d".toList =
      .ok ([(⟨[.half 0]⟩, .text "static")], []) := by
    cbv
  have hread : Json.read ('\x7b' :: "\"\\ud800\": \"static\"\x7d".toList) =
      .ok (.object [(⟨[.half 0]⟩, .text "static")]) := by
    apply Json.read_of_readValue rfl (by decide)
    change (Json.readMembers 41 979 "\"\\ud800\": \"static\"\x7d".toList).map _ = _
    rw [hmembers]
    rfl
  have htext : "\x7b\"\\ud800\": \"static\"\x7d".toList =
      '\x7b' :: "\"\\ud800\": \"static\"\x7d".toList := rfl
  rw [Setting.typedValue, htext, hread]

/-- A spelling that is half a pair is not stored as it was set, although the command ends well. -/
theorem half_pair_not_stored :
    (run Project.freshProject 1000 halfPairLine.words).code = 0 ∧
      Project.load (treeAfter 1000 Project.freshProject [halfPairLine]) (.ofLocation ["work"]) =
        .ok ⟨"work", ⟨[("\ufffd\ufffd\ufffd", "static")]⟩, false⟩ ∧
      appliedAll "work" (.default "work") [halfPairLine] =
        ⟨"work", ⟨[(⟨[.half 0]⟩, "static")]⟩, false⟩ := by
  let value : Json := .object [(⟨[.half 0]⟩, .text "static")]
  let c : Config := ⟨"work", ⟨[(⟨[.half 0]⟩, "static")]⟩, false⟩
  have hvalue : Setting.typedValue "\x7b\"\\ud800\": \"static\"\x7d" = .ok value :=
    typedValue_halfPair
  have hset : (Config.default "work").set "classifier.kind_aliases" value = .ok c := rfl
  have hchange : halfPairLine.command.change "work" (.default "work") = some c := by
    simp only [halfPairLine, ConfigCommand.change, hvalue, hset]
    rfl
  have hroot : (⟨Project.freshProject, 1000, false⟩ : Setting).projectRoot (some "/work") =
      .ok (some (.ofLocation ["work"])) := rfl
  have hon : OnProject 1000 (.ofLocation ["work"]) Project.freshProject [halfPairLine] :=
    ⟨hroot, trivial⟩
  refine ⟨?_, ?_, ?_⟩
  · have hrun : run Project.freshProject 1000 halfPairLine.words =
        Setting.saveConfig ⟨Project.freshProject, 1000, false⟩ (.ofLocation ["work"]) c
          (setMessage "classifier.kind_aliases" value) := by
      rw [run_words]
      exact Setting.configSet_eq Project.home_freshProject hroot hvalue Project.load_freshProject
        hset
    have hanswer := Project.home_freshProject.save_answer (c := c) (by decide)
    obtain ⟨shown, hshown⟩ := Report.message_shown 1000 .success
      (show (setMessage "classifier.kind_aliases" value).halves? = none by decide) (by decide)
    rw [hrun]
    simp only [Setting.saveConfig, hanswer, hshown]
    rfl
  · rw [load_treeAfter Project.home_freshProject Project.load_freshProject hon]
    change Except.ok (ConfigCommand.stored "work" (.default "work") halfPairLine.command) = _
    rw [ConfigCommand.stored, hchange]
    rfl
  · change ConfigCommand.applied "work" (.default "work") halfPairLine.command = _
    rw [ConfigCommand.applied, hchange]
    rfl

end ConfigLine

end CallGraphs.CommandLine
