import CallGraphs.CommandLine.Run
import CallGraphs.Proofs.DocumentPasses
/-!
# Failures of loading

A query loads the configuration of a project and then a table. What a user can mend is reported: a
document that is malformed or says something wrong, a table that cannot be turned into graphs. Other
failures escape. They are a matter of bytes that are no text, of documents that are too deep or
whose numbers are too long, of a configuration that is no object or no file, and of paths that
cannot be followed. Here is for each of them when it arises; building the graphs adds none.
-/

namespace CallGraphs

theorem FileTree.probe_eq_some {t : FileTree} {p : Path} {entry : Entry}
    (h : t.probe p = .ok (some entry)) : p.hasNull = false ∧ t.stat p = .ok entry := by
  rw [probe] at h
  by_cases hnull : p.hasNull = true
  · rw [if_pos hnull] at h
    cases h
  · rw [if_neg hnull] at h
    refine ⟨Bool.eq_false_iff.mpr hnull, ?_⟩
    split at h
    · rename_i found hstat
      cases h
      exact hstat
    · split at h
      · cases h
      · cases h

theorem FileTree.readText_of_file {t : FileTree} {p : Path} {bytes : List UInt8}
    (hnull : p.hasNull = false) (hread : t.read p = .ok bytes) :
    t.readText p = ((Text.Utf8.decode bytes).mapError .undecodable).map Text.unifyBreaks := by
  rw [readText, hnull, hread]
  cases hdecode : Text.Utf8.decode bytes <;> simp [hdecode, Except.mapError, Except.map]

/-- Bytes that are no document, and not for being malformed: they are no text, or a number is too
long, or the nesting is too deep. -/
inductive Unfit (bytes : List UInt8) : Failure → Prop
  | undecodable {fault : Text.Utf8.Fault} (hdecode : Text.Utf8.decode bytes = .error fault) :
      Unfit bytes (.undecodable fault)
  | tooManyDigits {cs : List Char} {count : Nat} (hdecode : Text.Utf8.decode bytes = .ok cs)
      (hread : Json.read (Text.unifyBreaks cs) = .error (.tooManyDigits count)) :
      Unfit bytes (.unreadableJson (.tooManyDigits count))
  | tooDeep {cs : List Char} {inObject : Bool} (hdecode : Text.Utf8.decode bytes = .ok cs)
      (hread : Json.read (Text.unifyBreaks cs) = .error (.tooDeep inObject)) :
      Unfit bytes (.unreadableJson (.tooDeep inObject))

theorem Unfit.not_reported {bytes : List UInt8} {f : Failure} (h : Unfit bytes f) :
    f.isReported = false := by
  cases h <;> rfl

namespace LoadedTable

/-- What is wrong with data is always reported. -/
theorem isReported_of_parse {j : Json} {f : Failure} (h : parse j = .error f) :
    f.isReported = true := by
  rw [parse] at h
  cases hj : Document.ofJson j with
  | error e =>
      rw [hj] at h
      cases h
      rfl
  | ok d =>
      rw [hj] at h
      rcases ofDocument_cases d with ⟨_, _, _, _, _, _, hfails⟩ | ⟨_, _, l, hok, _⟩ |
        ⟨_, _, _, _, f', _, _, hbreaks, hfails⟩
      · cases hfails.symm.trans h
        rfl
      · cases hok.symm.trans h
      · cases hfails.symm.trans h
        cases hbreaks <;> rfl

/-- Loading the table of a file fails without a report exactly if its bytes are unfit. -/
theorem load_escapes_iff {t : FileTree} {p : Path} {bytes : List UInt8} {f : Failure}
    (hnull : p.hasNull = false) (hread : t.read p = .ok bytes) :
    load t p = .error f ∧ f.isReported = false ↔ Unfit bytes f := by
  rw [load, FileTree.readText_of_file hnull hread]
  constructor
  · rintro ⟨hload, hreported⟩
    cases hdecode : Text.Utf8.decode bytes with
    | error fault =>
        rw [hdecode] at hload
        cases hload
        exact .undecodable hdecode
    | ok cs =>
        simp only [hdecode, Except.mapError, Except.map] at hload
        split at hload
        · cases hload
          cases hreported
        · rename_i e hmalformed hj
          cases hload
          cases e with
          | malformed fault line column position =>
              exact absurd rfl (hmalformed fault line column position)
          | tooManyDigits count => exact .tooManyDigits hdecode hj
          | tooDeep inObject => exact .tooDeep hdecode hj
        · rw [isReported_of_parse hload] at hreported
          cases hreported
        · cases hload
          cases hreported
  · intro h
    refine ⟨?_, h.not_reported⟩
    cases h with
    | undecodable hdecode =>
        rw [hdecode]
        rfl
    | tooManyDigits hdecode hj => simp only [hdecode, Except.mapError, Except.map, hj]
    | tooDeep hdecode hj => simp only [hdecode, Except.mapError, Except.map, hj]

theorem load_eq_ok {t : FileTree} {p : Path} {l : LoadedTable} (h : load t p = .ok l) :
    ∃ cs j, t.readText p = .ok cs ∧ Json.read cs = .ok j ∧ parse j = .ok l := by
  rw [load] at h
  split at h
  · cases h
  · cases h
  · rename_i cs hread
    split at h
    · cases h
    · cases h
    · rename_i members hj
      exact ⟨cs, .object members, hread, hj, h⟩
    · cases h

end LoadedTable

namespace Project

theorem firstProject_eq_error {t : FileTree} {ls : List Location} {f : Failure}
    (h : firstProject t ls = .error f) : ∃ e, f = .os e := by
  induction ls with
  | nil => cases h
  | cons l ls ih =>
      rw [firstProject] at h
      split at h
      · cases h
        exact ⟨_, rfl⟩
      · split at h
        · cases h
        · exact ih h

/-- What escapes from loading the configuration of a project: a name on the way to it is too long,
it is a directory, its bytes are unfit, or it is a document but no object. -/
inductive LoadEscape (t : FileTree) (root : Path) : Failure → Prop
  | longName {e : OsError} (hprobe : t.probe (configPath root) = .error e) : LoadEscape t root (.os e)
  | directory (hprobe : t.probe (configPath root) = .ok (some .directory)) :
      LoadEscape t root (.os ⟨.isDirectory, (configPath root).text⟩)
  | unfit {bytes : List UInt8} {f : Failure}
      (hprobe : t.probe (configPath root) = .ok (some (.file bytes))) (hbytes : Unfit bytes f) :
      LoadEscape t root f
  | noObject {bytes : List UInt8} {cs : List Char} {j : Json}
      (hprobe : t.probe (configPath root) = .ok (some (.file bytes)))
      (hdecode : Text.Utf8.decode bytes = .ok cs) (hread : Json.read (Text.unifyBreaks cs) = .ok j)
      (hobject : ∀ members, j ≠ .object members) :
      LoadEscape t root (.notMapping (Value.ofJson j).typeName)

theorem LoadEscape.not_reported {t : FileTree} {root : Path} {f : Failure}
    (h : LoadEscape t root f) : f.isReported = false := by
  cases h with
  | unfit _ hbytes => exact hbytes.not_reported
  | _ => rfl

section Load

variable {t : FileTree} {root : Path} {bytes : List UInt8}

theorem load_of_directory (hprobe : t.probe (configPath root) = .ok (some .directory)) :
    load t root = .error (.os ⟨.isDirectory, (configPath root).text⟩) := by
  obtain ⟨hnull, hstat⟩ := FileTree.probe_eq_some hprobe
  simp only [load, hprobe, FileTree.readText, FileTree.read, hnull, hstat, Bool.false_eq_true,
    if_false]

/-- The configuration in a file is that of its text, if it has one. -/
theorem load_of_file (hprobe : t.probe (configPath root) = .ok (some (.file bytes))) :
    load t root = (((Text.Utf8.decode bytes).mapError .undecodable).map Text.unifyBreaks).bind
      (configOfText (configPath root)) := by
  obtain ⟨hnull, hstat⟩ := FileTree.probe_eq_some hprobe
  have hread : t.read (configPath root) = .ok bytes := by rw [FileTree.read, hstat]
  rw [load, hprobe]
  simp only [FileTree.readText_of_file hnull hread]
  cases Text.Utf8.decode bytes <;> rfl

/-- A text that gives no configuration, for which no report is made. -/
theorem configOfText_escapes {path : Path} {cs : List Char} {f : Failure}
    (h : configOfText path cs = .error f) (hreported : f.isReported = false) :
    (∃ count, Json.read cs = .error (.tooManyDigits count) ∧
        f = .unreadableJson (.tooManyDigits count)) ∨
      (∃ inObject, Json.read cs = .error (.tooDeep inObject) ∧
        f = .unreadableJson (.tooDeep inObject)) ∨
      ∃ j, Json.read cs = .ok j ∧ (∀ members, j ≠ .object members) ∧
        f = .notMapping (Value.ofJson j).typeName := by
  rw [configOfText] at h
  split at h
  · cases h
    cases hreported
  · rename_i e hmalformed hread
    cases h
    cases e with
    | malformed fault line column position =>
        exact absurd rfl (hmalformed fault line column position)
    | tooManyDigits count => exact .inl ⟨count, hread, rfl⟩
    | tooDeep inObject => exact .inr (.inl ⟨inObject, hread, rfl⟩)
  · split at h
    · cases h
    · cases h
      cases hreported
  · rename_i j hobject hread
    cases h
    exact .inr (.inr ⟨j, hread, fun members hj => hobject members hj, rfl⟩)

theorem load_escapes_iff {f : Failure} :
    load t root = .error f ∧ f.isReported = false ↔ LoadEscape t root f := by
  constructor
  · rintro ⟨hload, hreported⟩
    cases hprobe : t.probe (configPath root) with
    | error e =>
        rw [load, hprobe] at hload
        cases hload
        exact .longName hprobe
    | ok entry =>
        cases entry with
        | none =>
            rw [load, hprobe] at hload
            cases hload
        | some entry =>
            cases entry with
            | directory =>
                rw [load_of_directory hprobe] at hload
                cases hload
                exact .directory hprobe
            | file bytes =>
                rw [load_of_file hprobe] at hload
                cases hdecode : Text.Utf8.decode bytes with
                | error fault =>
                    rw [hdecode] at hload
                    cases hload
                    exact .unfit hprobe (.undecodable hdecode)
                | ok cs =>
                    rw [hdecode] at hload
                    rcases configOfText_escapes hload hreported with ⟨count, hread, rfl⟩ |
                      ⟨inObject, hread, rfl⟩ | ⟨j, hread, hobject, rfl⟩
                    · exact .unfit hprobe (.tooManyDigits hdecode hread)
                    · exact .unfit hprobe (.tooDeep hdecode hread)
                    · exact .noObject hprobe hdecode hread hobject
  · intro h
    refine ⟨?_, h.not_reported⟩
    cases h with
    | longName hprobe => rw [load, hprobe]
    | directory hprobe => exact load_of_directory hprobe
    | unfit hprobe hbytes =>
        rw [load_of_file hprobe]
        cases hbytes with
        | undecodable hdecode =>
            rw [hdecode]
            rfl
        | tooManyDigits hdecode hread =>
            rw [hdecode]
            change configOfText (configPath root) (Text.unifyBreaks _) = _
            rw [configOfText, hread]
        | tooDeep hdecode hread =>
            rw [hdecode]
            change configOfText (configPath root) (Text.unifyBreaks _) = _
            rw [configOfText, hread]
    | @noObject _ _ j hprobe hdecode hread hobject =>
        rw [load_of_file hprobe, hdecode]
        change configOfText (configPath root) (Text.unifyBreaks _) = _
        rw [configOfText, hread]
        cases j with
        | object members => exact absurd rfl (hobject members)
        | _ => rfl

end Load

end Project

namespace CommandLine

/-- What escapes from finding a project and loading its configuration. -/
inductive ConfigEscape (s : Setting) (path : Option String) : Failure → Prop
  | nullInPath (hnull : (Path.ofText (path.getD "")).hasNull = true) :
      ConfigEscape s path .nullInPath
  | longName {e : OsError} (hpath : (path.getD "").isEmpty = true)
      (hfind : Project.find s.tree none = .error (.os e)) : ConfigEscape s path (.os e)
  | load {root : Path} {f : Failure} (hroot : s.projectRoot path = .ok (some root))
      (hload : Project.LoadEscape s.tree root f) : ConfigEscape s path f

theorem ConfigEscape.not_reported {s : Setting} {path : Option String} {f : Failure}
    (h : ConfigEscape s path f) : f.isReported = false := by
  cases h with
  | load _ hload => exact hload.not_reported
  | _ => rfl

/-- No project is found for one of two reasons, which are never reported. -/
theorem Setting.projectRoot_eq_error {s : Setting} {path : Option String} {f : Failure}
    (h : s.projectRoot path = .error f) : ConfigEscape s path f := by
  rw [projectRoot] at h
  by_cases hempty : (path.getD "").isEmpty = true
  · rw [if_pos hempty] at h
    cases hfind : Project.find s.tree none with
    | ok found =>
        rw [hfind] at h
        cases h
    | error f' =>
        rw [hfind] at h
        cases h
        obtain ⟨e, rfl⟩ := Project.firstProject_eq_error hfind
        exact .longName hempty hfind
  · rw [if_neg hempty, Project.placeOf] at h
    by_cases hnull : (Path.ofText (path.getD "")).hasNull = true
    · rw [if_pos hnull] at h
      cases h
      exact .nullInPath hnull
    · rw [if_neg hnull] at h
      cases h

theorem Setting.projectConfig_escapes_iff {s : Setting} {path : Option String} {f : Failure} :
    s.projectConfig path = .error f ∧ f.isReported = false ↔ ConfigEscape s path f := by
  constructor
  · rintro ⟨hconfig, hreported⟩
    rw [projectConfig] at hconfig
    split at hconfig
    · rename_i f' hroot
      cases hconfig
      exact projectRoot_eq_error hroot
    · cases hconfig
    · rename_i root hroot
      exact .load hroot (Project.load_escapes_iff.mp ⟨hconfig, hreported⟩)
  · intro h
    refine ⟨?_, h.not_reported⟩
    cases h with
    | nullInPath hnull =>
        have hnamed : ¬(path.getD "").isEmpty = true := by
          intro hempty
          rw [String.isEmpty_iff.mp hempty] at hnull
          cases hnull
        have hroot : s.projectRoot path = .error .nullInPath := by
          rw [projectRoot, if_neg hnamed, Project.placeOf, if_pos hnull]
          rfl
        rw [projectConfig, hroot]
    | @longName e hpath hfind =>
        have hroot : s.projectRoot path = .error (.os e) := by
          rw [projectRoot, if_pos hpath, hfind]
          rfl
        rw [projectConfig, hroot]
    | load hroot hload =>
        rw [projectConfig, hroot]
        exact (Project.load_escapes_iff.mpr hload).1

/-- What escapes from loading the configuration and then a table of given bytes. -/
inductive LoadEscape (s : Setting) (path : Option String) (bytes : List UInt8) : Failure → Prop
  | config {f : Failure} (hconfig : ConfigEscape s path f) : LoadEscape s path bytes f
  | table {f : Failure} {config : Config} (hconfig : s.projectConfig path = .ok config)
      (hbytes : Unfit bytes f) : LoadEscape s path bytes f

theorem LoadEscape.not_reported {s : Setting} {path : Option String} {bytes : List UInt8}
    {f : Failure} (h : LoadEscape s path bytes f) : f.isReported = false := by
  cases h with
  | config hconfig => exact hconfig.not_reported
  | table _ hbytes => exact hbytes.not_reported

theorem Setting.build_of_load {s : Setting} {file : String} {path : Option String}
    {config : Config} {loaded : LoadedTable} (hconfig : s.projectConfig path = .ok config)
    (hload : LoadedTable.load s.tree (Path.ofText file) = .ok loaded) :
    s.build file path =
      ((transform (.ofConfig config.classifier .standard) loaded.table.toSource).1.map
        fun graphs => (loaded, graphs),
       (transform (.ofConfig config.classifier .standard) loaded.table.toSource).2) := by
  rw [build, hconfig]
  simp only [hload]

/-- Graphs are built from the document of the file. -/
theorem Setting.build_eq_ok {s : Setting} {file : String} {path : Option String}
    {loaded : LoadedTable} {graphs : Graphs} {events : List Event}
    (h : s.build file path = (.ok (loaded, graphs), events)) :
    ∃ config, LoadedTable.load s.tree (Path.ofText file) = .ok loaded ∧
      (transform (.ofConfig config .standard) loaded.table.toSource).1 = .ok graphs := by
  cases hconfig : s.projectConfig path with
  | error f =>
      rw [build, hconfig] at h
      cases h
  | ok config =>
      cases hload : LoadedTable.load s.tree (Path.ofText file) with
      | error f =>
          rw [build, hconfig] at h
          simp only [hload] at h
          cases h
      | ok loaded' =>
          rw [build_of_load hconfig hload] at h
          obtain ⟨hanswer, _⟩ := Prod.mk.inj h
          cases hok : (transform (.ofConfig config.classifier .standard)
              loaded'.table.toSource).1 with
          | error f =>
              rw [hok] at hanswer
              cases hanswer
          | ok graphs' =>
              rw [hok] at hanswer
              cases hanswer
              exact ⟨config.classifier, rfl, hok⟩

section Build

variable {s : Setting} {file : String} {path : Option String} {bytes : List UInt8}
  (hnull : (Path.ofText file).hasNull = false) (hread : s.tree.read (Path.ofText file) = .ok bytes)
include hnull hread

theorem Setting.build_of_loadEscape {f : Failure} (h : LoadEscape s path bytes f) :
    s.build file path = (.error f, []) := by
  cases h with
  | config hconfig => rw [build, (projectConfig_escapes_iff.mpr hconfig).1]
  | table hconfig hbytes =>
      rw [build, hconfig]
      simp only [((LoadedTable.load_escapes_iff hnull hread).mpr hbytes).1]

/-- Building graphs from a file: loading fails without a report, or something fails with one, or
there are graphs. -/
theorem Setting.build_cases :
    (∃ f, LoadEscape s path bytes f ∧ s.build file path = (.error f, [])) ∨
      (∃ f events, f.isReported = true ∧ s.build file path = (.error f, events)) ∨
      ∃ loaded graphs events config j, LoadedTable.parse j = .ok loaded ∧
        (transform (.ofConfig config .standard) loaded.table.toSource).1 = .ok graphs ∧
        s.build file path = (.ok (loaded, graphs), events) := by
  cases hconfig : s.projectConfig path with
  | error f =>
      have hbuild : s.build file path = (.error f, []) := by rw [build, hconfig]
      by_cases hreported : f.isReported = true
      · exact .inr (.inl ⟨f, [], hreported, hbuild⟩)
      · exact .inl ⟨f, .config (projectConfig_escapes_iff.mp
          ⟨hconfig, Bool.eq_false_iff.mpr hreported⟩), hbuild⟩
  | ok config =>
      cases hload : LoadedTable.load s.tree (Path.ofText file) with
      | error f =>
          have hbuild : s.build file path = (.error f, []) := by
            rw [build, hconfig]
            simp only [hload]
          by_cases hreported : f.isReported = true
          · exact .inr (.inl ⟨f, [], hreported, hbuild⟩)
          · exact .inl ⟨f, .table hconfig ((LoadedTable.load_escapes_iff hnull hread).mp
              ⟨hload, Bool.eq_false_iff.mpr hreported⟩), hbuild⟩
      | ok loaded =>
          have hbuild := build_of_load hconfig hload
          obtain ⟨_, j, _, _, hparse⟩ := LoadedTable.load_eq_ok hload
          obtain ⟨d, _, _, hd, hreads⟩ := LoadedTable.parse_reads hparse
          rcases hreads.pass_cases hd (Classifier.reporting_standard config.classifier) with
            ⟨_, graphs, hok⟩ | ⟨_, ctx, node, _, _, hfails⟩
          · rw [hok] at hbuild
            exact .inr (.inr ⟨loaded, graphs, _, config.classifier, j, hparse, hok, hbuild⟩)
          · rw [hfails] at hbuild
            exact .inr (.inl ⟨_, _, rfl, hbuild⟩)

end Build

end CommandLine

end CallGraphs
