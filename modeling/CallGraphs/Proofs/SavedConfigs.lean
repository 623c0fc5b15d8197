import CallGraphs.Proofs.ConfigDocuments
import CallGraphs.Proofs.FileChanges
/-!
# Saved configurations

Saving makes the settings folder and writes the configuration file; loading reads it. A project
directory, in use or not, admits both. What was saved is read back, whatever the file held before,
unless there were half pairs in it.
-/

namespace CallGraphs

namespace Project

/-- The place of the settings folder of a project. -/
def folderAt (l : Location) : Location :=
  l ++ [folder]

/-- The place of the configuration file of a project. -/
def fileAt (l : Location) : Location :=
  l ++ [folder, fileName]

/-- A path that leads to a directory which is a project or can be made one: nothing stands where the
settings folder has to be, or a folder without a directory in place of the configuration file. -/
structure Home (t : FileTree) (root : Path) (l : Location) : Prop where
  noNull : root.hasNull = false
  short : FileTree.isLongPath (configPath root) = false
  leads : t.follow (t.start root) root.names = .ok l
  directory : t.entry? l = some .directory
  settings : t.entry? (folderAt l) = none ∧ t.entry? (fileAt l) = none ∨
    t.entry? (folderAt l) = some .directory ∧ t.entry? (fileAt l) ≠ some .directory

theorem folderAt_ne_nil (l : Location) : folderAt l ≠ [] := by
  simp [folderAt]

theorem fileAt_ne_nil (l : Location) : fileAt l ≠ [] := by
  simp [fileAt]

theorem folderAt_ne_fileAt (l : Location) : folderAt l ≠ fileAt l := by
  simp [folderAt, fileAt]

theorem hasNull_configPath (root : Path) : (configPath root).hasNull = root.hasNull := by
  have hfolder : '\x00' ∉ folder.toList := by decide
  have hfile : '\x00' ∉ fileName.toList := by decide
  simp [configPath, folderOf, Path.child, Path.hasNull, hfolder, hfile]

/-- The tree with the settings folder of a project. -/
def withFolder (t : FileTree) (l : Location) : FileTree :=
  if t.entry? (folderAt l) = none then t.put (folderAt l) .directory else t

namespace Home

variable {t : FileTree} {root : Path} {l : Location}

theorem short_folder (h : Home t root l) : FileTree.isLongPath (folderOf root) = false :=
  FileTree.isLongPath_of_child (by decide) h.short

theorem probe (h : Home t root l) : t.probe root = .ok (some .directory) := by
  have hshort := FileTree.isLongPath_of_child (by decide) h.short_folder
  have hlocate := FileTree.locate_eq_ok_iff.mpr ⟨hshort, h.leads⟩
  simp [FileTree.probe, FileTree.stat, h.noNull, hlocate, h.directory]

theorem makeDirectories (h : Home t root l) :
    t.makeDirectories (folderOf root) = (withFolder t l, .ok ()) := by
  have henter : Path.enter l folder = folderAt l := rfl
  have hname : FileTree.isLongName folder = false := by decide
  have hgo := FileTree.makeDirectories_go_append h.leads h.directory (folderOf root) [] [folder]
  rw [FileTree.makeDirectories, h.short_folder]
  change FileTree.makeDirectories.go (folderOf root) t (t.start root) false []
    (root.names ++ [folder]) = _
  rw [hgo, FileTree.makeDirectories.go]
  simp only [hname, henter, Bool.false_eq_true, if_false, FileTree.makeDirectories.go]
  rcases h.settings with ⟨hfolder, _⟩ | ⟨hfolder, _⟩
  · simp [withFolder, hfolder]
  · simp [withFolder, hfolder]

theorem keepsDirectories_withFolder (t : FileTree) (l : Location) :
    FileTree.KeepsDirectories t (withFolder t l) := by
  unfold withFolder
  split
  · exact FileTree.keepsDirectories_put (by simp [*]) _
  · exact .refl t

theorem folder_withFolder (h : Home t root l) :
    FileTree.entry? (withFolder t l) (folderAt l) = some .directory := by
  rcases h.settings with ⟨hfolder, _⟩ | ⟨hfolder, _⟩
  · rw [withFolder, if_pos hfolder, FileTree.entry?_put t (folderAt_ne_nil l), if_pos rfl]
  · rw [withFolder, if_neg (by simp [hfolder])]
    exact hfolder

theorem file_withFolder (t : FileTree) (l : Location) :
    FileTree.entry? (withFolder t l) (fileAt l) = t.entry? (fileAt l) := by
  unfold withFolder
  split
  · rw [FileTree.entry?_put t (folderAt_ne_nil l), if_neg (folderAt_ne_fileAt l).symm]
  · rfl

theorem file_ne_directory (h : Home t root l) : t.entry? (fileAt l) ≠ some .directory := by
  rcases h.settings with ⟨_, hfile⟩ | ⟨_, hfile⟩
  · simp [hfile]
  · exact hfile

/-- Where directories stay, a project with its settings folder stays one. -/
theorem of_keepsDirectories (h : Home t root l) {t' : FileTree}
    (hkeeps : FileTree.KeepsDirectories t t') (hfolder : t'.entry? (folderAt l) = some .directory)
    (hfile : t'.entry? (fileAt l) ≠ some .directory) : Home t' root l where
  noNull := h.noNull
  short := h.short
  leads := by
    rw [hkeeps.start]
    exact hkeeps.follow h.leads
  directory := hkeeps.directory h.directory
  settings := .inr ⟨hfolder, hfile⟩

theorem withFolder (h : Home t root l) : Home (Project.withFolder t l) root l := by
  refine h.of_keepsDirectories (keepsDirectories_withFolder t l) h.folder_withFolder ?_
  rw [file_withFolder]
  exact h.file_ne_directory

/-- Once there is a settings folder, the path of the configuration file leads into it. -/
theorem locate (h : Home t root l) (hfolder : t.entry? (folderAt l) = some .directory) :
    t.locate (configPath root) = .ok (fileAt l) := by
  have hfolderName : FileTree.isLongName folder = false := by decide
  have hfileName : FileTree.isLongName fileName = false := by decide
  have henter : Path.enter l folder = folderAt l := rfl
  have hleads : t.follow l [folder, fileName] = .ok (fileAt l) := by
    simp only [FileTree.follow, h.directory, hfolderName, henter, hfolder, hfileName,
      Bool.false_eq_true, if_false]
    simp [Path.enter, folderAt, fileAt, fileName]
  refine FileTree.locate_eq_ok_iff.mpr ⟨h.short, ?_⟩
  change t.follow (t.start root) ((root.names ++ [folder]) ++ [fileName]) = _
  rw [List.append_assoc, FileTree.follow_append _ h.leads]
  exact hleads

/-- Saving in a project fails only for half pairs, and then the settings folder is all that is new.
-/
theorem save_eq (h : Home t root l) (c : Config) :
    save t root c =
      match c.halves? with
      | some halves => .fail (Project.withFolder t l) (.unstorable halves)
      | none => .done ((Project.withFolder t l).put (fileAt l)
          (.file (Text.Utf8.encode c.text.toList))) () := by
  have hlocate := h.withFolder.locate h.folder_withFolder
  have hfile : (Project.withFolder t l).isDirectory (fileAt l) = false := by
    simpa [FileTree.isDirectory] using h.withFolder.file_ne_directory
  simp only [save, h.noNull, h.makeDirectories, Config.checkedText, Bool.false_eq_true, if_false]
  cases c.halves? with
  | some halves => rfl
  | none => simp [FileTree.write, hlocate, hfile]

theorem save_answer (h : Home t root l) {c : Config} (hhalves : c.halves? = none) :
    (save t root c).answer = .ok () := by
  rw [h.save_eq c, hhalves]
  rfl

theorem save (h : Home t root l) (c : Config) : Home (save t root c).state root l := by
  rw [h.save_eq c]
  cases c.halves? with
  | some halves => exact h.withFolder
  | none =>
      have hfile := h.withFolder.file_ne_directory
      refine h.withFolder.of_keepsDirectories (FileTree.keepsDirectories_put hfile _) ?_ ?_
      · change FileTree.entry? (FileTree.put _ _ _) _ = _
        rw [FileTree.entry?_put _ (fileAt_ne_nil l), if_neg (folderAt_ne_fileAt l)]
        exact h.folder_withFolder
      · change FileTree.entry? (FileTree.put _ _ _) _ ≠ _
        rw [FileTree.entry?_put _ (fileAt_ne_nil l), if_pos rfl]
        simp

end Home

theorem load_of_stat {t : FileTree} {root : Path} {bytes : List UInt8} {cs : List Char}
    (hnull : root.hasNull = false) (hstat : t.stat (configPath root) = .ok (.file bytes))
    (hdecode : Text.Utf8.decode bytes = .ok cs) :
    load t root = configOfText (configPath root) (Text.unifyBreaks cs) := by
  have hpath : (configPath root).hasNull = false := by rw [hasNull_configPath, hnull]
  simp [load, FileTree.probe, FileTree.readText, FileTree.read, hpath, hstat, hdecode]

/-- What a save does: it stops before it changes a file, or the last that it does is to write the
configuration file. -/
theorem save_cases (t : FileTree) (root : Path) (c : Config) :
    (∃ t' f, FileTree.SameFiles t t' ∧ save t root c = .fail t' f ∧
        (c.halves? = none → f = .nullInPath ∨ ∃ e, f = .os e)) ∨
      ∃ t' t'' : FileTree, root.hasNull = false ∧ c.halves? = none ∧
        t'.write (configPath root) (Text.Utf8.encode c.text.toList) = .ok t'' ∧
        save t root c = .done t'' () := by
  have hgrown := (FileTree.makeDirectories_grown t (folderOf root)).sameFiles
  obtain ⟨⟨t', made⟩, hmade⟩ : ∃ made, t.makeDirectories (folderOf root) = made := ⟨_, rfl⟩
  rw [hmade] at hgrown
  unfold save
  by_cases hnull : root.hasNull = true
  · exact .inl ⟨t, _, .refl t, if_pos hnull, fun _ => .inl rfl⟩
  rw [if_neg hnull, hmade, Config.checkedText]
  cases made with
  | error e => exact .inl ⟨t', _, hgrown, rfl, fun _ => .inr ⟨e, rfl⟩⟩
  | ok _ =>
      cases hhalves : c.halves? with
      | some halves => exact .inl ⟨t', _, hgrown, rfl, fun h => by cases h⟩
      | none =>
          cases hwrite : t'.write (configPath root) (Text.Utf8.encode c.text.toList) with
          | error e =>
              refine .inl ⟨t', .os e, hgrown, ?_, fun _ => .inr ⟨e, rfl⟩⟩
              simp only [hwrite]
          | ok t'' =>
              refine .inr ⟨t', t'', by simpa using hnull, rfl, hwrite, ?_⟩
              simp only [hwrite]

/-- A configuration that was saved can be stored and is read back, in whatever tree and whatever
its file held. -/
theorem load_of_save {t : FileTree} {root : Path} {c : Config}
    (h : (save t root c).answer = .ok ()) :
    c.halves? = none ∧ load (save t root c).state root = .ok c.reread := by
  rcases save_cases t root c with ⟨t', f, _, hsave, _⟩ | ⟨t', t'', hnull, hhalves, hwrite, hsave⟩
  · rw [hsave] at h
    cases h
  · rw [hsave]
    refine ⟨hhalves, ?_⟩
    change load t'' root = _
    have hstat := FileTree.write_eq_ok hwrite
    rw [load_of_stat hnull hstat (Text.Utf8.decode_encode _),
      Text.unifyBreaks_of_not_mem (Config.return_not_mem_text hhalves)]
    exact Config.configOfText_text hhalves _

/-- A save that fails has changed no file, and without half pairs in the name and the kinds only the
file tree refuses it. -/
theorem save_eq_error {t : FileTree} {root : Path} {c : Config} {f : Failure}
    (h : (save t root c).answer = .error f) :
    FileTree.SameFiles t (save t root c).state ∧
      (c.halves? = none → f = .nullInPath ∨ ∃ e, f = .os e) := by
  rcases save_cases t root c with ⟨t', f', hsame, hsave, hfault⟩ | ⟨t', t'', _, _, _, hsave⟩
  · rw [hsave] at h ⊢
    cases h
    exact ⟨hsame, hfault⟩
  · rw [hsave] at h
    cases h

/-- No spelling stands twice in a configuration that was loaded. -/
theorem distinct_of_load {t : FileTree} {root : Path} {c : Config} (h : load t root = .ok c) :
    c.Distinct := by
  rw [load] at h
  split at h
  · cases h
  · cases h
    exact Config.distinct_default _
  · split at h
    · cases h
    · exact Config.distinct_of_configOfText h

namespace Home

variable {t : FileTree} {root : Path} {l : Location}

theorem load_of_absent (h : Home t root l) (hfile : t.entry? (fileAt l) = none) :
    load t root = .ok (.default root.name) := by
  have hstat : t.stat (configPath root) = .error ⟨.noEntry, (configPath root).text⟩ := by
    rcases h.settings with ⟨hfolder, _⟩ | ⟨hfolder, _⟩
    · have henter : Path.enter l folder = folderAt l := rfl
      have hname : FileTree.isLongName folder = false := by decide
      have hleads : t.follow (t.start (configPath root)) (configPath root).names =
          .error .noEntry := by
        change t.follow (t.start root) (root.names ++ [folder] ++ [fileName]) = _
        rw [List.append_assoc, FileTree.follow_append _ h.leads]
        simp [FileTree.follow, h.directory, hname, henter, hfolder]
      have hlocate := FileTree.locate_of_follow_error h.short hleads
      simp [FileTree.stat, hlocate]
    · simp [FileTree.stat, h.locate hfolder, hfile]
  have hpath : (configPath root).hasNull = false := by rw [hasNull_configPath, h.noNull]
  simp [load, FileTree.probe, hpath, hstat]

/-- An empty settings folder changes nothing about the configuration. -/
theorem load_withFolder (h : Home t root l) :
    load (Project.withFolder t l) root = load t root := by
  rcases h.settings with ⟨_, hfile⟩ | ⟨hfolder, _⟩
  · rw [h.load_of_absent hfile]
    apply h.withFolder.load_of_absent
    rw [file_withFolder]
    exact hfile
  · rw [Project.withFolder, if_neg (by simp [hfolder])]

/-- After saving, the file gives the configuration as it is read back, or what it gave before if
there were half pairs that cannot be stored. -/
theorem load_save (h : Home t root l) (c : Config) :
    load (Project.save t root c).state root =
      if c.halves? = none then .ok c.reread else load t root := by
  by_cases hhalves : c.halves? = none
  · rw [if_pos hhalves]
    exact (load_of_save (h.save_answer hhalves)).2
  · rw [if_neg hhalves, h.save_eq c]
    obtain ⟨halves, hsome⟩ := Option.ne_none_iff_exists'.mp hhalves
    rw [hsome]
    exact h.load_withFolder

end Home

/-- A project without a configuration file. -/
def freshProject : FileTree :=
  ⟨⟨[(["work"], .directory), (["work", folder], .directory)]⟩, ["work"]⟩

theorem home_freshProject : Home freshProject (.ofLocation ["work"]) ["work"] :=
  ⟨by decide, by decide, by decide, by decide, .inr ⟨by decide, by decide⟩⟩

theorem load_freshProject :
    load freshProject (.ofLocation ["work"]) = .ok (.default (Path.ofLocation ["work"]).name) :=
  home_freshProject.load_of_absent (by decide)

/-- Saving, then loading. In every project directory a configuration in which no spelling stands
twice loads as it was saved, whatever the configuration file held, exactly if its texts are texts of
characters. With half pairs in the name or in a kind it is not saved and no file changes; with half
pairs in a spelling only, another one is loaded in its place. At any other path the same happens, or
the path is refused and with it the save. No configuration in which a spelling stands twice is ever
loaded as it was saved. -/
theorem load_saved_config (c : Config) :
    (c.Distinct → ∀ t root l, Home t root l →
      ((save t root c).answer = .ok () ∧ load (save t root c).state root = .ok c ↔ c.Whole) ∧
      (∀ halves, c.halves? = some halves →
        (save t root c).answer = .error (.unstorable halves) ∧
          FileTree.SameFiles t (save t root c).state ∧
          load (save t root c).state root = load t root) ∧
      (c.halves? = none → ¬ c.Whole →
        (save t root c).answer = .ok () ∧
          ∃ c', load (save t root c).state root = .ok c' ∧ c' ≠ c)) ∧
    (c.Whole → c.Distinct → ∀ t root,
      ((save t root c).answer = .ok () ∧ load (save t root c).state root = .ok c) ∨
        ∃ f, (save t root c).answer = .error f ∧ (f = .nullInPath ∨ ∃ e, f = .os e)) ∧
    ∀ t root, (save t root c).answer = .ok () → load (save t root c).state root = .ok c →
      c.Whole ∧ c.Distinct := by
  have hback : ∀ t root, (save t root c).answer = .ok () →
      load (save t root c).state root = .ok c → c.Whole ∧ c.Distinct := by
    intro t root hanswer hload
    obtain ⟨hhalves, hreread⟩ := load_of_save hanswer
    rw [hload] at hreread
    exact (Config.reread_eq_self_iff hhalves).mp (Except.ok.inj hreread).symm
  refine ⟨fun hdistinct t root l hhome => ⟨⟨?_, ?_⟩, ?_, ?_⟩, ?_, hback⟩
  · rintro ⟨hanswer, hload⟩
    exact (hback t root hanswer hload).1
  · intro hwhole
    have hanswer := hhome.save_answer hwhole.halves?
    have hload := (load_of_save hanswer).2
    rw [Config.reread_of_whole hwhole hdistinct] at hload
    exact ⟨hanswer, hload⟩
  · intro halves hhalves
    have hanswer : (save t root c).answer = .error (.unstorable halves) := by
      rw [hhome.save_eq c, hhalves]
      rfl
    have hload := hhome.load_save c
    rw [if_neg (by simp [hhalves])] at hload
    exact ⟨hanswer, (save_eq_error hanswer).1, hload⟩
  · intro hhalves hbroken
    have hanswer := hhome.save_answer hhalves
    refine ⟨hanswer, c.reread, (load_of_save hanswer).2, fun hsame => ?_⟩
    exact hbroken ((Config.reread_eq_self_iff hhalves).mp hsame).1
  · intro hwhole hdistinct t root
    cases hanswer : (save t root c).answer with
    | ok _ =>
        have hload := (load_of_save hanswer).2
        rw [Config.reread_of_whole hwhole hdistinct] at hload
        exact .inl ⟨rfl, hload⟩
    | error f => exact .inr ⟨f, rfl, (save_eq_error hanswer).2 hwhole.halves?⟩

/-- A configuration with quotes, backslashes, control characters, line separators and characters of
every width. -/
def trickyConfig : Config :=
  ⟨"say \"hi\" \\ \x07\r\n\u2028é😀",
    ⟨⟨[("", "static"), ("a\tb", "\u2029\x7f"), ("ключ", ""), ("\\u0041", "virtual")]⟩, true⟩⟩

/-- A project whose configuration file is no text. -/
def brokenProject : FileTree :=
  ⟨⟨[(["work"], .directory), (["work", folder], .directory),
    (["work", folder, fileName], .file [0xFF, 0x7B])]⟩, ["work"]⟩

theorem load_saved_config_tricky :
    load (save brokenProject (.ofLocation ["work"]) trickyConfig).state (.ofLocation ["work"]) =
      .ok trickyConfig := by
  have hwhole : trickyConfig.Whole := ⟨by decide, by decide, by decide⟩
  have hdistinct : trickyConfig.Distinct := by
    unfold Config.Distinct
    decide
  have hhome : Home brokenProject (.ofLocation ["work"]) ["work"] :=
    ⟨by decide, by decide, by decide, by decide, .inr ⟨by decide, by decide⟩⟩
  exact (((load_saved_config trickyConfig).1 hdistinct _ _ _ hhome).1.mpr hwhole).2

/-- A spelling that is half a pair is loaded as three replacement characters. -/
theorem half_pair_loads_replaced :
    let c : Config := ⟨"work", ⟨[(⟨[.half 0]⟩, "static")]⟩, false⟩
    (save freshProject (.ofLocation ["work"]) c).answer = .ok () ∧
      load (save freshProject (.ofLocation ["work"]) c).state (.ofLocation ["work"]) =
        .ok ⟨"work", ⟨[("\ufffd\ufffd\ufffd", "static")]⟩, false⟩ ∧
      load (save freshProject (.ofLocation ["work"]) c).state (.ofLocation ["work"]) ≠ .ok c := by
  intro c
  have hanswer := home_freshProject.save_answer (show c.halves? = none by decide)
  have hload := (load_of_save hanswer).2
  refine ⟨hanswer, hload, ?_⟩
  rw [hload]
  intro hsame
  have hspellings := congrArg (fun c => c.classifier.kindAliases.keys) (Except.ok.inj hsame)
  exact absurd hspellings (by decide)

end Project

end CallGraphs
