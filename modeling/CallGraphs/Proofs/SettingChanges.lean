import CallGraphs.Proofs.CommandLines
import CallGraphs.Proofs.SavedConfigs
import CallGraphs.Proofs.ShownMessages
/-!
# Changing a setting

The command that changes a setting writes the configuration file before it says so. If it fails
before that, no file has changed. It can still fail afterwards, when its message cannot be shown:
then the setting is changed all the same.
-/

namespace CallGraphs.CommandLine

/-- What is said of a setting that was changed. -/
def setMessage (key : String) (value : Json) : Text :=
  "Set " ++ key ++ " = " ++ (Value.ofJson value).plain.text

/-- A reply to the command that sets a key to a text: the setting was changed and saved, but what
was to be said of it could not be shown, since it has a bracket or half a pair in it. -/
def Unconfirmed (s : Setting) (key text : String) (path : Option String) (r : Reply) : Prop :=
  ∃ root value c c' f, s.projectRoot path = .ok (some root) ∧
    Setting.typedValue text = .ok value ∧ Project.load s.tree root = .ok c ∧
    c.set key value = .ok c' ∧ Project.load r.tree root = .ok c'.reread ∧
    Report.message s.width .success (setMessage key value) = .error f ∧ r.ending = .escaped f ∧
    (.char '[' ∈ (setMessage key value).points ∨ (setMessage key value).halves? ≠ none)

namespace Setting

/-- The way of a change up to the file: it stops without any effect, or the changed configuration is
saved. -/
theorem configSet_cases (s : Setting) (key text : String) (path : Option String) :
    (s.configSet key text path).tree = s.tree ∨
      ∃ root value c c', s.projectRoot path = .ok (some root) ∧ typedValue text = .ok value ∧
        Project.load s.tree root = .ok c ∧ c.set key value = .ok c' ∧
        s.configSet key text path = s.saveConfig root c' (setMessage key value) := by
  unfold configSet
  rcases s.withProject_cases path _ with htree | ⟨root, hroot, hnext⟩
  · exact .inl htree
  rw [hnext]
  split
  · exact .inl (s.refuse_tree ..)
  · rename_i value hvalue
    split
    · exact .inl (s.refuse_tree ..)
    · rename_i c hload
      split
      · exact .inl (s.complainKey_tree ..)
      · exact .inl (s.refuse_tree ..)
      · rename_i c' hset
        exact .inr ⟨root, value, c, c', hroot, hvalue, hload, hset, rfl⟩

/-- A change that nothing hinders is saved. -/
theorem configSet_eq {s : Setting} {root : Path} {l : Location} (hhome : Project.Home s.tree root l)
    {path : Option String} (hroot : s.projectRoot path = .ok (some root)) {text : String}
    {value : Json} (hvalue : typedValue text = .ok value) {c : Config}
    (hload : Project.load s.tree root = .ok c) {key : String} {c' : Config}
    (hset : c.set key value = .ok c') :
    s.configSet key text path = s.saveConfig root c' (setMessage key value) := by
  simp only [configSet, withProject, hroot, hhome.probe, if_true, hvalue, hload, hset]
  rfl

/-- Saving a configuration fails without changing a file, or it succeeds and only what is to be said
may fail. -/
theorem saveConfig_cases (s : Setting) (root : Path) (c : Config) (text : Text) :
    FileTree.SameFiles s.tree (s.saveConfig root c text).tree ∨
      Project.load (s.saveConfig root c text).tree root = .ok c.reread ∧
        ((s.saveConfig root c text).code = 0 ∨
          ∃ f, Report.message s.width .success text = .error f ∧
            (s.saveConfig root c text).ending = .escaped f) := by
  rw [saveConfig_tree]
  cases hanswer : (Project.save s.tree root c).answer with
  | error f => exact .inl (Project.save_eq_error hanswer).1
  | ok _ =>
      refine .inr ⟨(Project.load_of_save hanswer).2, ?_⟩
      simp only [saveConfig, hanswer]
      cases hshown : Report.message s.width .success text with
      | error f => exact .inr ⟨f, rfl, rfl⟩
      | ok shown => exact .inl rfl

end Setting

theorem run_config_set_cases (t : FileTree) (width : Nat) (words : List String) :
    (run t width ("config" :: "set" :: words)).tree = t ∨
      ∃ key text path, run t width ("config" :: "set" :: words) =
        (⟨t, width, false⟩ : Setting).configSet key text path := by
  obtain ⟨c, hc, hname, haction, _⟩ := offers_set
  have hrun := run_configCommand t width hc words
  rw [hname, configName] at hrun
  rw [hrun]
  rcases Setting.runCommand_cases ⟨t, width, false⟩ (configGroup.path ++ " " ++ "set") c words with
    htree | ⟨i, hi, hperform⟩
  · exact .inl htree
  · rw [haction] at hi
    refine .inr ⟨i.values.headD "", (i.values.drop 1).headD "", i.words.value? pathOption, ?_⟩
    simp only [hperform, Setting.perform, hi]

/-- Without options the two words are the key and the value. -/
theorem run_config_set (t : FileTree) (width : Nat) {key text : String}
    (hkey : looksLikeOption key = false) (htext : looksLikeOption text = false) :
    run t width ["config", "set", key, text] =
      (⟨t, width, false⟩ : Setting).configSet key text none :=
  run_config_sorted (sortWords_arguments _ hkey htext) rfl t width offers_set

/-- A run of the command that changes a setting which does not end well has left all files as they
were, or the setting was changed and saved and only the message about it could not be shown. -/
theorem failing_set_keeps_files (t : FileTree) (width : Nat) (words : List String)
    (hfail : (run t width ("config" :: "set" :: words)).code ≠ 0) :
    FileTree.SameFiles t (run t width ("config" :: "set" :: words)).tree ∨
      ∃ key text path,
        run t width ("config" :: "set" :: words) =
          (⟨t, width, false⟩ : Setting).configSet key text path ∧
        Unconfirmed ⟨t, width, false⟩ key text path
          (run t width ("config" :: "set" :: words)) := by
  rcases run_config_set_cases t width words with htree | ⟨key, text, path, hrun⟩
  · rw [htree]
    exact .inl (.refl t)
  rw [hrun] at hfail ⊢
  rcases Setting.configSet_cases ⟨t, width, false⟩ key text path with
    htree | ⟨root, value, c, c', hroot, hvalue, hload, hset, hsave⟩
  · rw [htree]
    exact .inl (.refl t)
  rcases Setting.saveConfig_cases ⟨t, width, false⟩ root c' (setMessage key value) with
    hsame | ⟨hsaved, hcode | ⟨f, hunshown, hends⟩⟩
  · rw [hsave]
    exact .inl hsame
  · rw [hsave] at hfail
    exact absurd hcode hfail
  · rw [← hsave] at hsaved hends
    refine .inr ⟨key, text, path, rfl, root, value, c, c', f, hroot, hvalue, hload, hset, hsaved,
      hunshown, hends, ?_⟩
    by_contra hplain
    rw [not_or, not_not] at hplain
    obtain ⟨shown, hshown⟩ := Report.message_shown width .success hplain.2 hplain.1
    rw [hshown] at hunshown
    cases hunshown

theorem failing_set_keeps_files_unknown_key :
    (run Project.freshProject 1000 ["config", "set", "no.key", "1"]).code ≠ 0 ∧
      FileTree.SameFiles Project.freshProject
        (run Project.freshProject 1000 ["config", "set", "no.key", "1"]).tree := by
  have hrun : run Project.freshProject 1000 ["config", "set", "no.key", "1"] =
      (⟨Project.freshProject, 1000, false⟩ : Setting).complainKey "no.key" :=
    run_config_set Project.freshProject 1000 (by decide) (by decide)
  have hending : (run Project.freshProject 1000 ["config", "set", "no.key", "1"]).ending =
      .exit 1 := by
    have hwhole : Text.halves? ("Unknown config key: " ++ ("no.key" : String)) = none := by decide
    obtain ⟨shown, hshown⟩ := Report.message_shown 1000 .error hwhole (by decide)
    rw [hrun, Setting.complainKey, Setting.complain, hshown]
    rfl
  have hcode : (run Project.freshProject 1000 ["config", "set", "no.key", "1"]).code ≠ 0 := by
    rw [Reply.code, hending]
    exact Nat.one_ne_zero
  refine ⟨hcode, ?_⟩
  rcases failing_set_keeps_files Project.freshProject 1000 ["no.key", "1"] hcode with
    hsame | ⟨_, _, _, _, _, _, _, _, f, _, _, _, _, _, _, hescaped, _⟩
  · exact hsame
  · cases hending.symm.trans hescaped

/-- A closing tag that nothing opened cannot be shown. -/
theorem message_closing_tag (width : Nat) :
    ∃ f, Report.message width .success (setMessage "name" (.text "[/x]")) = .error f := by
  let cs := "Set name = [/x]".toList
  have htext : (Report.Tone.success.mark : Text) ++ setMessage "name" (.text "[/x]") =
      .ofChars (Report.Tone.success.mark.toList ++ cs) := rfl
  have hwhole : (Text.ofChars (Report.Tone.success.mark.toList ++ cs)).halves? = none :=
    Text.halves?_eq_none_iff.mpr ⟨_, rfl⟩
  obtain ⟨style, _, mark, start, position, hread⟩ := Report.read_mark .success cs
  have hpieces : Markup.piecesFrom position 0 [] (' ' :: cs) =
      [.text " Set name = ".toList, .text [], .tag (position + 12) "/x".toList, .text []] := by
    simp [cs, Markup.piecesFrom, Markup.tag?, Markup.upToClose, Markup.startsTag, Markup.tagPieces,
      Markup.backslashes]
  rw [hpieces] at hread
  rw [Report.message, htext, Report.print, Report.showing, List.findSome?_singleton, hwhole,
    Text.charsWith_ofChars]
  simp only [Report.read, hread]
  exact ⟨_, rfl⟩

/-- A setting that looks like a closing tag is saved by a run that fails. -/
theorem failing_set_changes_name :
    Project.load Project.freshProject (.ofLocation ["work"]) = .ok (.default "work") ∧
      (run Project.freshProject 1000 ["config", "set", "name", "[/x]"]).code ≠ 0 ∧
      Project.load (run Project.freshProject 1000 ["config", "set", "name", "[/x]"]).tree
        (.ofLocation ["work"]) = .ok ⟨"[/x]", .default⟩ := by
  have hrun : run Project.freshProject 1000 ["config", "set", "name", "[/x]"] =
      (⟨Project.freshProject, 1000, false⟩ : Setting).saveConfig (.ofLocation ["work"])
        ⟨"[/x]", .default⟩ (setMessage "name" (.text "[/x]")) :=
    run_config_set Project.freshProject 1000 (by decide) (by decide)
  have hwhole : (⟨"[/x]", .default⟩ : Config).Whole := ⟨by decide, by decide, by decide⟩
  have hload := Project.home_freshProject.load_save ⟨"[/x]", .default⟩
  rw [if_pos hwhole.halves?, Config.reread_of_whole hwhole (Config.distinct_default _)] at hload
  obtain ⟨f, hunshown⟩ := message_closing_tag 1000
  refine ⟨Project.home_freshProject.load_of_absent (by decide), ?_, ?_⟩
  · have hanswer := Project.home_freshProject.save_answer hwhole.halves?
    rw [hrun]
    simp only [Setting.saveConfig, hanswer, hunshown]
    exact Nat.one_ne_zero
  · rw [hrun, Setting.saveConfig_tree]
    exact hload

end CallGraphs.CommandLine
