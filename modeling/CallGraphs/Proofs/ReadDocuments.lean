import CallGraphs.Json.Reader
import CallGraphs.Proofs.OrderedMaps
import Mathlib.Data.List.Nodup
/-!
# Read documents

A map that is collected from pairs has each key once, and pairs at different keys are collected as
they are. So in a document that was read, no object has two members of one name.
-/

namespace CallGraphs

namespace OrdMap

section Collected

variable {α β γ : Type} [BEq α]

theorem alterEntries_map (f : β → γ) (k : α) (v : β) (l : List (α × β)) :
    alterEntries k (fun _ => f v) (l.map fun e => (e.1, f e.2)) =
      (alterEntries k (fun _ => v) l).map fun e => (e.1, f e.2) := by
  induction l with
  | nil => rfl
  | cons e l ih =>
      obtain ⟨k', w⟩ := e
      simp only [List.map_cons, alterEntries, ih]
      split <;> rfl

theorem foldl_insert_map (f : β → γ) (l : List (α × β)) (m : OrdMap α β) :
    (l.map fun e => (e.1, f e.2)).foldl (fun m p => m.insert p.1 p.2)
        (⟨m.entries.map fun e => (e.1, f e.2)⟩ : OrdMap α γ) =
      ⟨(l.foldl (fun m p => m.insert p.1 p.2) m).entries.map fun e => (e.1, f e.2)⟩ := by
  induction l generalizing m with
  | nil => rfl
  | cons e l ih =>
      have hstep := alterEntries_map f e.1 e.2 m.entries
      rw [List.map_cons, List.foldl_cons, List.foldl_cons, ← ih (m.insert e.1 e.2)]
      exact congrArg (fun entries => List.foldl _ (⟨entries⟩ : OrdMap α γ) _) hstep

/-- Collecting pairs and changing their values can be done in either order. -/
theorem ofList_map (f : β → γ) (l : List (α × β)) :
    (ofList (l.map fun e => (e.1, f e.2))).entries =
      (ofList l).entries.map fun e => (e.1, f e.2) :=
  congrArg entries (foldl_insert_map f l empty)

variable [LawfulBEq α]

theorem mem_foldl_insert {l : List (α × β)} {m : OrdMap α β} {e : α × β}
    (he : e ∈ (l.foldl (fun m p => m.insert p.1 p.2) m).entries) : e ∈ m.entries ∨ e ∈ l := by
  induction l generalizing m with
  | nil => exact .inl he
  | cons p l ih =>
      rcases ih he with hm | hl
      · rcases mem_alter BEq.rfl hm with hold | ⟨hkey, _, hvalue, _⟩
        · exact .inl hold
        · have hp : e = p := Prod.ext (eq_of_beq hkey).symm hvalue
          exact .inr (hp ▸ List.mem_cons_self)
      · exact .inr (List.mem_cons_of_mem p hl)

theorem mem_ofList {l : List (α × β)} {e : α × β} (he : e ∈ (ofList l).entries) : e ∈ l := by
  rcases mem_foldl_insert he with hnone | hl
  · cases hnone
  · exact hl

theorem nodup_keys_foldl_insert (l : List (α × β)) {m : OrdMap α β} (hm : m.keys.Nodup) :
    (l.foldl (fun m p => m.insert p.1 p.2) m).keys.Nodup := by
  induction l generalizing m with
  | nil => exact hm
  | cons p l ih =>
      apply ih
      have hkeys := keys_alter m p.1 fun _ => p.2
      change (m.alter p.1 fun _ => p.2).keys.Nodup
      rw [hkeys]
      by_cases hany : m.keys.any (p.1 == ·) = true
      · rw [if_pos hany]
        exact hm
      · rw [if_neg hany]
        have hnew : p.1 ∉ m.keys := by
          intro hmem
          exact hany (List.any_eq_true.mpr ⟨p.1, hmem, BEq.rfl⟩)
        exact List.nodup_append_comm.mp (List.nodup_cons.mpr ⟨hnew, hm⟩)

theorem nodup_keys_ofList (l : List (α × β)) : (ofList l).keys.Nodup :=
  nodup_keys_foldl_insert l List.nodup_nil

theorem foldl_insert_of_nodup (l : List (α × β)) {m : OrdMap α β}
    (h : (m.keys ++ l.map Prod.fst).Nodup) :
    (l.foldl (fun m p => m.insert p.1 p.2) m).entries = m.entries ++ l := by
  induction l generalizing m with
  | nil => simp
  | cons p l ih =>
      have hnew : p.1 ∉ m.keys := by
        intro hmem
        exact List.disjoint_of_nodup_append h hmem List.mem_cons_self
      have hcontains : m.contains p.1 = false := by
        rw [contains_eq_any_keys]
        simp only [List.any_eq_false, beq_iff_eq]
        rintro k hk rfl
        exact hnew hk
      have hentries := entries_insert_of_not_contains hcontains p.2
      have hkeys : (m.insert p.1 p.2).keys = m.keys ++ [p.1] := by
        rw [keys, hentries, List.map_append]
        rfl
      rw [List.foldl_cons, ih, hentries]
      · simp
      · rw [hkeys]
        simpa using h

/-- Pairs at different keys are collected as they are. -/
theorem ofList_of_nodup {l : List (α × β)} (h : (l.map Prod.fst).Nodup) : ofList l = ⟨l⟩ :=
  congrArg OrdMap.mk (foldl_insert_of_nodup l h)

end Collected

end OrdMap

namespace Json

/-- No object in the document has two members of one name. -/
inductive Proper : Json → Prop
  | null : Proper .null
  | bool (b : Bool) : Proper (.bool b)
  | int (n : Whole) : Proper (.int n)
  | float (x : Binary64) : Proper (.float x)
  | text (t : Text) : Proper (.text t)
  | array {items : List Json} (h : ∀ j ∈ items, Proper j) : Proper (.array items)
  | object {members : List (Text × Json)} (hnames : (members.map Prod.fst).Nodup)
      (h : ∀ m ∈ members, Proper m.2) : Proper (.object members)

theorem proper_ofMembers {members : List (Text × Json)} (h : ∀ m ∈ members, Proper m.2) :
    Proper (ofMembers members) :=
  .object (OrdMap.nodup_keys_ofList members) fun m hm => h m (OrdMap.mem_ofList hm)

theorem proper_atom {cs rest : List Char} {j : Json} (h : atom cs = .ok (j, rest)) : Proper j := by
  have hwords : ∀ w ∈ words, Proper w.2 := by
    simp only [words, List.forall_mem_cons]
    exact ⟨.null, .bool _, .bool _, .float _, .float _, .float _, nofun⟩
  rw [atom] at h
  split at h
  · rename_i found hword
    obtain ⟨w, hw, hfound⟩ := List.exists_of_findSome?_eq_some hword
    split at hfound
    · cases hfound
      cases h
      exact hwords w hw
    · cases hfound
  · split at h
    · cases h
    · rename_i n _ _
      have hnumber : ∀ v, n.toJson = .ok v → Proper v := by
        intro v hv
        rw [Numeral.toJson] at hv
        split at hv
        · dsimp only at hv
          split at hv <;> cases hv
          exact .int _
        · cases hv
          exact .float _
      split at h <;> cases h
      exact hnumber _ ‹_›

/-- What the reader finds within some fuel: values, items and members without repeated names. -/
structure ReadsProper (fuel : Nat) : Prop where
  value {depth : Nat} {cs rest : List Char} {j : Json}
    (h : readValue fuel depth cs = .ok (j, rest)) : Proper j
  items {depth : Nat} {cs rest : List Char} {js : List Json}
    (h : readItems fuel depth cs = .ok (js, rest)) : ∀ j ∈ js, Proper j
  members {depth : Nat} {cs rest : List Char} {ms : List (Text × Json)}
    (h : readMembers fuel depth cs = .ok (ms, rest)) : ∀ m ∈ ms, Proper m.2

theorem map_eq_ok {α β : Type} {x : Read α} {f : α × List Char → β × List Char}
    {y : β × List Char} (h : x.map f = .ok y) : ∃ a, x = .ok a ∧ f a = y := by
  cases x with
  | error stop => cases h
  | ok a => exact ⟨a, rfl, Except.ok.inj h⟩

theorem readsProper_succ {fuel : Nat} (ih : ReadsProper fuel) : ReadsProper (fuel + 1) where
  value {depth cs rest j} h := by
    -- The first character decides: a string, an array, an object, or anything else.
    rw [readValue.eq_def] at h
    dsimp only at h
    split at h
    · obtain ⟨a, _, ha⟩ := map_eq_ok h
      cases ha
      exact .text a.1
    · split at h
      · cases h
      · split at h
        · cases h
          exact .array nofun
        · obtain ⟨a, hitems, ha⟩ := map_eq_ok h
          cases ha
          exact .array (ih.items hitems)
    · split at h
      · cases h
      · split at h
        · cases h
          exact .object List.nodup_nil nofun
        · obtain ⟨a, hmembers, ha⟩ := map_eq_ok h
          cases ha
          exact proper_ofMembers (ih.members hmembers)
    · exact proper_atom h
  items {depth cs rest js} h := by
    rw [readItems] at h
    split at h
    · cases h
    · rename_i item _ hitem
      have hproper := ih.value hitem
      split at h
      · cases h
        simpa using hproper
      · obtain ⟨a, hitems, ha⟩ := map_eq_ok h
        cases ha
        exact List.forall_mem_cons.mpr ⟨hproper, ih.items hitems⟩
      · cases h
  members {depth cs rest ms} h := by
    -- A name, a colon and a value; then the object ends or goes on.
    rw [readMembers.eq_def] at h
    dsimp only at h
    split at h
    · split at h
      · cases h
      · split at h
        · split at h
          · cases h
          · rename_i hvalue
            have hproper := ih.value hvalue
            split at h
            · cases h
              simpa using hproper
            · obtain ⟨a, hmembers, ha⟩ := map_eq_ok h
              cases ha
              exact List.forall_mem_cons.mpr ⟨hproper, ih.members hmembers⟩
            · cases h
        · cases h
    · cases h

theorem readsProper (fuel : Nat) : ReadsProper fuel := by
  induction fuel with
  | zero => exact ⟨nofun, nofun, nofun⟩
  | succ fuel ih => exact readsProper_succ ih

/-- A document that was read has no object with two members of one name. -/
theorem proper_of_read {cs : List Char} {j : Json} (h : read cs = .ok j) : Proper j := by
  rw [read, readWithin.eq_def] at h
  split at h
  · cases h
  · split at h
    · cases h
    · cases h
    · cases h
    · rename_i hvalue
      split at h <;> cases h
      exact (readsProper _).value hvalue

end Json

end CallGraphs
