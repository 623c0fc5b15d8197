import CallGraphs.FileTree
import CallGraphs.Proofs.OrderedMaps
/-!
# Changes to a file tree

Writing a file changes what stands at its own place and nothing else, so that the path still leads
there and the bytes are read back. Making directories fills empty places only: no file comes, goes
or changes, even if the way is blocked half-way.
-/

namespace CallGraphs

/-- A longer path has a longer text. -/
theorem Path.size_text_child (p : Path) {name : String} (hname : name ≠ "") :
    p.text.utf8ByteSize ≤ (p.child name).text.utf8ByteSize := by
  obtain ⟨slashes, names⟩ := p
  have hchild : ((⟨slashes, names⟩ : Path).child name).text =
      String.ofList (List.replicate slashes '/') ++ "/".intercalate (names ++ [name]) := by
    simp [Path.text, Path.child]
  rw [hchild]
  by_cases hnames : names = []
  · subst hnames
    have hsize : name.utf8ByteSize ≠ 0 := by simpa using hname
    have hdot : ".".utf8ByteSize = 1 := by decide
    simp only [Path.text]
    split
    · simp [hdot]
      omega
    · simp
  · have hsplit := String.intercalate_append_of_ne_nil (s := "/") hnames (List.cons_ne_nil name [])
    simp only [Path.text, hsplit]
    simp [hnames]
    omega

namespace FileTree

theorem entry?_put (t : FileTree) {l : Location} (hl : l ≠ []) (e : Entry) (l' : Location) :
    FileTree.entry? (t.put l e) l' = if l' = l then some e else t.entry? l' := by
  unfold entry? put
  by_cases hnil : l' = []
  · subst hnil
    simp [hl.symm]
  · have hget : (t.entries.insert l e).get? l' = if l' = l then some e else t.entries.get? l' := by
      rw [OrdMap.insert, OrdMap.get?_alter .of_lawful trivial]
      simp only [beq_iff_eq]
    simpa [hnil] using hget

theorem entry?_nil (t : FileTree) : t.entry? [] = some .directory := rfl

theorem ne_nil_of_not_directory {t : FileTree} {l : Location} (h : t.entry? l ≠ some .directory) :
    l ≠ [] := by
  rintro rfl
  exact h t.entry?_nil

/-- Two trees with the same files. They may differ in their directories. -/
def SameFiles (t t' : FileTree) : Prop :=
  ∀ l bytes, t'.entry? l = some (.file bytes) ↔ t.entry? l = some (.file bytes)

theorem SameFiles.refl (t : FileTree) : SameFiles t t :=
  fun _ _ => .rfl

/-- A tree that has all directories of another, and the same starting place for relative paths. -/
structure KeepsDirectories (t t' : FileTree) : Prop where
  here : t'.here = t.here
  directory {l : Location} (h : t.entry? l = some .directory) : t'.entry? l = some .directory

theorem KeepsDirectories.refl (t : FileTree) : KeepsDirectories t t :=
  ⟨rfl, id⟩

theorem KeepsDirectories.start {t t' : FileTree} (h : KeepsDirectories t t') (p : Path) :
    t'.start p = t.start p := by
  rw [FileTree.start, FileTree.start, h.here]

/-- An entry that takes the place of no directory keeps all of them. -/
theorem keepsDirectories_put {t : FileTree} {l : Location} (hl : t.entry? l ≠ some .directory)
    (e : Entry) : KeepsDirectories t (t.put l e) where
  here := rfl
  directory {l'} h := by
    have hne : l' ≠ l := by
      rintro rfl
      exact hl h
    rw [entry?_put t (ne_nil_of_not_directory hl), if_neg hne]
    exact h

/-- Following one more name. -/
theorem follow_cons_eq_ok_iff {t : FileTree} {l l' : Location} {name : String}
    {names : List String} :
    t.follow l (name :: names) = .ok l' ↔
      t.entry? l = some .directory ∧ isLongName name = false ∧
        t.follow (Path.enter l name) names = .ok l' := by
  rw [follow]
  cases t.entry? l with
  | none => simp
  | some entry =>
      cases entry with
      | file bytes => simp
      | directory =>
          by_cases hlong : isLongName name = true
          · simp [hlong]
          · simp [hlong]

/-- Every step of a path that leads somewhere is a directory, so the path leads to the same place as
long as directories stay. -/
theorem KeepsDirectories.follow {t t' : FileTree} (h : KeepsDirectories t t') {l l' : Location}
    {names : List String} (hl : t.follow l names = .ok l') : t'.follow l names = .ok l' := by
  induction names generalizing l with
  | nil => exact hl
  | cons name names ih =>
      obtain ⟨hdirectory, hlong, hnext⟩ := follow_cons_eq_ok_iff.mp hl
      exact follow_cons_eq_ok_iff.mpr ⟨h.directory hdirectory, hlong, ih hnext⟩

theorem follow_append {t : FileTree} {l l' : Location} {names : List String} (more : List String)
    (h : t.follow l names = .ok l') : t.follow l (names ++ more) = t.follow l' more := by
  induction names generalizing l with
  | nil =>
      cases h
      rfl
  | cons name names ih =>
      obtain ⟨hdirectory, hlong, hnext⟩ := follow_cons_eq_ok_iff.mp h
      rw [List.cons_append, follow]
      simp only [hdirectory, hlong, Bool.false_eq_true, if_false]
      exact ih hnext

theorem isLongPath_of_child {p : Path} {name : String} (hname : name ≠ "")
    (h : isLongPath (p.child name) = false) : isLongPath p = false := by
  have hsize := p.size_text_child hname
  simp only [isLongPath, decide_eq_false_iff_not] at h ⊢
  omega

theorem locate_eq_ok_iff {t : FileTree} {p : Path} {l : Location} :
    t.locate p = .ok l ↔ isLongPath p = false ∧ t.follow (t.start p) p.names = .ok l := by
  unfold locate
  cases hlong : isLongPath p with
  | true => simp
  | false =>
      cases hfollow : t.follow (t.start p) p.names <;> simp

theorem locate_of_follow_error {t : FileTree} {p : Path} {fault : OsFault}
    (hshort : isLongPath p = false) (h : t.follow (t.start p) p.names = .error fault) :
    t.locate p = .error ⟨fault, p.text⟩ := by
  simp [locate, hshort, h]

/-- A path that leads to a directory leads through directories. -/
theorem isDirectory_of_follow {t : FileTree} {l l' : Location} {names : List String}
    (h : t.follow l names = .ok l') (hl' : t.entry? l' = some .directory) :
    t.entry? l = some .directory := by
  cases names with
  | nil =>
      cases h
      exact hl'
  | cons name names => exact (follow_cons_eq_ok_iff.mp h).1

theorem KeepsDirectories.locate {t t' : FileTree} (h : KeepsDirectories t t') {p : Path}
    {l : Location} (hl : t.locate p = .ok l) : t'.locate p = .ok l := by
  obtain ⟨hshort, hfollow⟩ := locate_eq_ok_iff.mp hl
  refine locate_eq_ok_iff.mpr ⟨hshort, ?_⟩
  rw [h.start]
  exact h.follow hfollow

/-- What is written to a path is found there. -/
theorem write_eq_ok {t t' : FileTree} {p : Path} {bytes : List UInt8}
    (h : t.write p bytes = .ok t') : t'.stat p = .ok (.file bytes) := by
  unfold write at h
  cases hl : t.locate p with
  | error e => simp [hl] at h
  | ok l =>
      rw [hl] at h
      by_cases hdir : t.isDirectory l = true
      · simp [hdir] at h
      · simp only [hdir, Bool.false_eq_true, if_false, Except.ok.injEq] at h
        subst h
        have hentry : t.entry? l ≠ some .directory := by simpa [isDirectory] using hdir
        have hput : FileTree.entry? (t.put l (.file bytes)) l = some (.file bytes) := by
          rw [entry?_put t (ne_nil_of_not_directory hentry), if_pos rfl]
        rw [stat, (keepsDirectories_put hentry (.file bytes)).locate hl]
        simp only [hput]

/-- A tree that grew by directories at places where nothing stood. -/
structure Grown (t t' : FileTree) : Prop where
  sameFiles : SameFiles t t'
  keeps : KeepsDirectories t t'

theorem Grown.refl (t : FileTree) : Grown t t :=
  ⟨.refl t, .refl t⟩

theorem Grown.trans {t₁ t₂ t₃ : FileTree} (h : Grown t₁ t₂) (h' : Grown t₂ t₃) : Grown t₁ t₃ where
  sameFiles l bytes := (h'.sameFiles l bytes).trans (h.sameFiles l bytes)
  keeps := ⟨h'.keeps.here.trans h.keeps.here, fun hl => h'.keeps.directory (h.keeps.directory hl)⟩

theorem grown_put {t : FileTree} {l : Location} (hl : t.entry? l = none) :
    Grown t (t.put l .directory) := by
  have hne : t.entry? l ≠ some .directory := by simp [hl]
  refine ⟨fun l' bytes => ?_, keepsDirectories_put hne .directory⟩
  rw [entry?_put t (ne_nil_of_not_directory hne)]
  by_cases h : l' = l
  · simp [h, hl]
  · rw [if_neg h]

theorem makeDirectories_go_grown (p : Path) (names done : List String) (t : FileTree) (l : Location)
    (fresh : Bool) : Grown t (makeDirectories.go p t l fresh done names).1 := by
  induction names generalizing t l fresh done with
  | nil => exact .refl t
  | cons name names ih =>
      rw [makeDirectories.go]
      split
      · exact .refl t
      · split
        · exact ih _ t _ _
        · exact .refl t
        · rename_i hnone
          exact (grown_put hnone).trans (ih _ _ _ _)

/-- However far making directories comes, it only adds directories. -/
theorem makeDirectories_grown (t : FileTree) (p : Path) : Grown t (t.makeDirectories p).1 := by
  unfold makeDirectories
  split
  · exact .refl t
  · exact makeDirectories_go_grown p p.names [] t (t.start p) false

/-- Where directories stand already, none has to be made. -/
theorem makeDirectories_go_append {t : FileTree} {l l' : Location} {names : List String}
    (h : t.follow l names = .ok l') (hl' : t.entry? l' = some .directory) (p : Path)
    (done more : List String) :
    makeDirectories.go p t l false done (names ++ more) =
      makeDirectories.go p t l' false (done ++ names) more := by
  induction names generalizing l done with
  | nil =>
      cases h
      rw [List.append_nil]
      rfl
  | cons name names ih =>
      obtain ⟨_, hlong, hfollow⟩ := follow_cons_eq_ok_iff.mp h
      have hnext := isDirectory_of_follow hfollow hl'
      rw [List.cons_append, makeDirectories.go]
      simp only [hlong, hnext, Bool.false_eq_true, if_false]
      rw [ih hfollow, List.append_assoc]
      rfl

end FileTree

end CallGraphs
