import CallGraphs.OrdMap
import CallGraphs.Distinct
import Mathlib.Data.List.Perm.Basic
/-!
# Looking up after changing

What the look-ups of a map in insertion order find after one entry was changed, and how the changed
entries read as a list. The keys need not have a lawful equality: it is enough that equality is an
equivalence around the key that is changed.
-/

namespace CallGraphs

/-- Equality is an equivalence around the values that satisfy `P`, and what equals such a value
satisfies `P` too. Nothing is said of two values outside of `P`. -/
structure EquivOn {α : Type} [BEq α] (P : α → Prop) : Prop where
  refl {a : α} (ha : P a) : (a == a) = true
  comm {a : α} (ha : P a) (b : α) : (a == b) = (b == a)
  trans {a b c : α} (ha : P a) (hab : (a == b) = true) (hbc : (b == c) = true) : (a == c) = true
  closed {a b : α} (ha : P a) (hab : (a == b) = true) : P b

namespace EquivOn

variable {α : Type} [BEq α] {P : α → Prop} {a b : α}

theorem of_lawful [LawfulBEq α] : EquivOn fun _ : α => True where
  refl _ := BEq.rfl
  comm _ _ := BEq.comm
  trans _ := BEq.trans
  closed _ _ := trivial

/-- Equal values compare alike with any third one. -/
theorem congr_left (h : EquivOn P) (ha : P a) (hab : (a == b) = true) (c : α) :
    (a == c) = (b == c) := by
  have hb : P b := h.closed ha hab
  have hba : (b == a) = true := (h.comm ha b).symm.trans hab
  apply Bool.eq_iff_iff.mpr
  exact ⟨fun hac => h.trans hb hba hac, fun hbc => h.trans ha hab hbc⟩

theorem congr_right (h : EquivOn P) (ha : P a) (hab : (a == b) = true) (c : α) :
    (c == a) = (c == b) := by
  rw [← h.comm ha, ← h.comm (h.closed ha hab)]
  exact h.congr_left ha hab c

/-- Pairs are equal when both their sides are. -/
theorem prod {β : Type} [BEq β] {Q : β → Prop} (h : EquivOn P) (h' : EquivOn Q) :
    EquivOn fun x : α × β => P x.1 ∧ Q x.2 where
  refl ha := Bool.and_eq_true_iff.mpr ⟨h.refl ha.1, h'.refl ha.2⟩
  comm {a} ha b := by
    change (a.1 == b.1 && a.2 == b.2) = (b.1 == a.1 && b.2 == a.2)
    rw [h.comm ha.1, h'.comm ha.2]
  trans {a b c} ha hab hbc := by
    obtain ⟨h₁, h₂⟩ := Bool.and_eq_true_iff.mp hab
    obtain ⟨h₁', h₂'⟩ := Bool.and_eq_true_iff.mp hbc
    apply Bool.and_eq_true_iff.mpr
    exact ⟨h.trans ha.1 h₁ h₁', h'.trans ha.2 h₂ h₂'⟩
  closed ha hab := by
    obtain ⟨h₁, h₂⟩ := Bool.and_eq_true_iff.mp hab
    exact ⟨h.closed ha.1 h₁, h'.closed ha.2 h₂⟩

end EquivOn

namespace OrdMap

section Lookups

variable {α β : Type} [BEq α] {P : α → Prop} {k : α}

theorem lookup_congr (h : EquivOn P) (hk : P k) {k' : α} (hkk' : (k == k') = true)
    (l : List (α × β)) : l.lookup k = l.lookup k' := by
  induction l with
  | nil => rfl
  | cons e l ih => rw [List.lookup_cons, List.lookup_cons, h.congr_left hk hkk', ih]

theorem lookup_alterEntries (h : EquivOn P) (hk : P k) (f : Option β → β) (k' : α)
    (l : List (α × β)) :
    (alterEntries k f l).lookup k' =
      if k' == k then some (f (l.lookup k)) else l.lookup k' := by
  by_cases hkk' : (k' == k) = true
  · have hkk'' : (k == k') = true := (h.comm hk k').trans hkk'
    rw [if_pos hkk', ← lookup_congr h hk hkk'']
    exact lookup_alterEntries_self k f l (h.refl hk)
  · rw [if_neg hkk']
    induction l with
    | nil => simp [alterEntries, List.lookup_cons, hkk']
    | cons e l ih =>
        obtain ⟨a, v⟩ := e
        by_cases hka : (k == a) = true
        · have hka' : (k' == a) = false := by
            rw [← h.congr_right hk hka]
            simpa using hkk'
          simp [alterEntries, List.lookup_cons, hka, hka']
        · simp [alterEntries, List.lookup_cons, hka, ih]

/-- After a change at `k`, the keys that equal `k` find the new value and all others what they
found before. -/
theorem get?_alter (h : EquivOn P) (hk : P k) (m : OrdMap α β) (f : Option β → β) (k' : α) :
    (m.alter k f).get? k' = if k' == k then some (f (m.get? k)) else m.get? k' :=
  lookup_alterEntries h hk f k' m.entries

theorem get?_congr (h : EquivOn P) (hk : P k) {k' : α} (hkk' : (k == k') = true)
    (m : OrdMap α β) : m.get? k = m.get? k' :=
  lookup_congr h hk hkk' m.entries

theorem contains_eq_any_keys (m : OrdMap α β) (k : α) :
    m.contains k = m.keys.any (k == ·) := by
  unfold contains get? keys
  induction m.entries with
  | nil => rfl
  | cons e l ih =>
      rw [List.lookup_cons, List.map_cons, List.any_cons, ← ih]
      cases k == e.1 <;> rfl

theorem contains_insert (h : EquivOn P) (hk : P k) (m : OrdMap α β) (v : β) (k' : α) :
    (m.insert k v).contains k' = (k' == k || m.contains k') := by
  rw [contains, insert, get?_alter h hk]
  cases k' == k <;> rfl

theorem bucket_push (h : EquivOn P) (hk : P k) (m : OrdMap α (List β)) (x : β) (k' : α) :
    (m.push k x).bucket k' = if k' == k then m.bucket k' ++ [x] else m.bucket k' := by
  rw [bucket, push, get?_alter h hk]
  by_cases hkk' : (k' == k) = true
  · rw [if_pos hkk', if_pos hkk', get?_congr h hk ((h.comm hk k').trans hkk')]
    rfl
  · rw [if_neg hkk', if_neg hkk', bucket]

/-- Buckets that hold the filtered values go on doing so when a value comes in at its own key. -/
theorem bucket_push_filter (h : EquivOn P) {m : OrdMap α (List β)} {key : β → α} {xs : List β}
    {x : β} (hx : P (key x)) {k' : α} (hm : m.bucket k' = xs.filter (key · == k')) :
    (m.push (key x) x).bucket k' = (xs ++ [x]).filter (key · == k') := by
  rw [bucket_push h hx, hm, List.filter_append, List.filter_singleton, h.comm hx k']
  cases k' == key x <;> simp

end Lookups

section Entries

variable {α β γ : Type} [BEq α]

/-- A change either meets the first entry at its key and leaves the others alone, or finds none and
puts a new entry at the end. -/
theorem alterEntries_cases (k : α) (f : Option β → β) (l : List (α × β)) :
    (∃ l₁ k₀ v l₂, l = l₁ ++ (k₀, v) :: l₂ ∧ (k == k₀) = true ∧ l.lookup k = some v ∧
        alterEntries k f l = l₁ ++ (k₀, f (some v)) :: l₂) ∨
      l.lookup k = none ∧ alterEntries k f l = l ++ [(k, f none)] := by
  induction l with
  | nil => exact .inr ⟨rfl, rfl⟩
  | cons e l ih =>
      obtain ⟨a, v⟩ := e
      by_cases hka : (k == a) = true
      · refine .inl ⟨[], a, v, l, rfl, hka, ?_, ?_⟩
        · simp [List.lookup_cons, hka]
        · simp [alterEntries, hka]
      · have hlookup : ((a, v) :: l).lookup k = l.lookup k := by
          simp [List.lookup_cons, hka]
        have halter : alterEntries k f ((a, v) :: l) = (a, v) :: alterEntries k f l := by
          simp [alterEntries, hka]
        rw [hlookup, halter]
        rcases ih with ⟨l₁, k₀, w, l₂, hl, hk, hw, hl'⟩ | ⟨hnone, hl'⟩
        · refine .inl ⟨(a, v) :: l₁, k₀, w, l₂, ?_, hk, hw, ?_⟩
          · rw [hl, List.cons_append]
          · rw [hl', List.cons_append]
        · exact .inr ⟨hnone, by rw [hl', List.cons_append]⟩

/-- An entry after a change was there before, or it is the changed one: its key equals the given
one, and its value is made from the one it had, if any. -/
theorem mem_alter {m : OrdMap α β} {k : α} (hk : (k == k) = true) {f : Option β → β} {e : α × β}
    (he : e ∈ (m.alter k f).entries) :
    e ∈ m.entries ∨ (k == e.1) = true ∧ ∃ old, e.2 = f old ∧ ∀ v ∈ old, (e.1, v) ∈ m.entries := by
  unfold alter at he
  rcases alterEntries_cases k f m.entries with ⟨l₁, k₀, v, l₂, hl, hk₀, _, hl'⟩ | ⟨_, hl'⟩
  · rw [hl', List.mem_append, List.mem_cons] at he
    rw [hl]
    rcases he with hbefore | rfl | hafter
    · exact .inl (List.mem_append_left _ hbefore)
    · refine .inr ⟨hk₀, some v, rfl, fun w hw => ?_⟩
      rw [← Option.mem_some.mp hw]
      exact List.mem_append_right _ List.mem_cons_self
    · exact .inl (List.mem_append_right _ (List.mem_cons_of_mem _ hafter))
  · rw [hl', List.mem_append, List.mem_singleton] at he
    rcases he with hold | rfl
    · exact .inl hold
    · exact .inr ⟨hk, none, rfl, nofun⟩

/-- An entry at a new key comes in at the end. -/
theorem entries_insert_of_not_contains {m : OrdMap α β} {k : α} (hk : m.contains k = false)
    (v : β) : (m.insert k v).entries = m.entries ++ [(k, v)] := by
  rcases alterEntries_cases k (fun _ => v) m.entries with
    ⟨_, _, w, _, _, _, hw, _⟩ | ⟨_, hl⟩
  · have hsome : m.get? k = some w := hw
    simp [contains, hsome] at hk
  · exact hl

/-- Where the changed value lists one thing more than the value it had, so does the whole map. The
stored key at which this happens equals the given one. -/
theorem flatMap_alter_perm (m : OrdMap α β) {k : α} (hk : (k == k) = true)
    (f : Option β → β) (items : β → List γ) (x : γ)
    (hitems : (items (f (m.get? k))).Perm (x :: (m.get? k).elim [] items)) :
    ∃ k₀, (k == k₀) = true ∧
      ((m.alter k f).entries.flatMap fun e => (items e.2).map (e.1, ·)).Perm
        ((k₀, x) :: m.entries.flatMap fun e => (items e.2).map (e.1, ·)) := by
  rcases alterEntries_cases k f m.entries with
    ⟨l₁, k₀, v, l₂, hl, hk₀, hv, hl'⟩ | ⟨hnone, hl'⟩
  · have hget : m.get? k = some v := hv
    rw [hget] at hitems
    refine ⟨k₀, hk₀, ?_⟩
    rw [alter, hl', hl]
    simp only [List.flatMap_append, List.flatMap_cons]
    have hmap : ((items (f (some v))).map (k₀, ·)).Perm
        ((k₀, x) :: (items v).map (k₀, ·)) := hitems.map (k₀, ·)
    refine ((hmap.append_right _).append_left _).trans ?_
    exact List.perm_middle
  · have hget : m.get? k = none := hnone
    rw [hget] at hitems
    refine ⟨k, hk, ?_⟩
    rw [alter, hl', List.flatMap_append, List.flatMap_singleton]
    have hmap : ((items (f none)).map (k, ·)).Perm [(k, x)] := hitems.map (k, ·)
    exact (hmap.append_left _).trans List.perm_append_comm

end Entries

end OrdMap

namespace Distinct

variable {α : Type} [BEq α]

theorem insert_eq_self {xs : List α} {x : α} (hx : xs.any (x == ·) = true) :
    insert xs x = xs := by
  rw [insert, if_pos hx]

/-- What is found after an insertion was there before or equals the inserted value. -/
theorem any_insert {P : α → Prop} (h : EquivOn P) {x : α} (hx : P x) (xs : List α) (y : α) :
    (insert xs x).any (y == ·) = (xs.any (y == ·) || y == x) := by
  unfold insert
  split
  · rename_i hmem
    obtain ⟨x', hx', heq⟩ := List.any_eq_true.mp hmem
    cases hyx : y == x with
    | false => rw [Bool.or_false]
    | true =>
        have hyx' : (y == x') = true := by rw [← h.congr_right hx heq, hyx]
        rw [Bool.or_true]
        exact List.any_eq_true.mpr ⟨x', hx', hyx'⟩
  · rw [List.any_append, List.any_cons, List.any_nil, Bool.or_false]

/-- Collecting values in order is erasing those that repeat an earlier one. -/
theorem ofList_eq_eraseDups (xs : List α) : ofList xs = xs.eraseDups := by
  have hloop : ∀ seen : List α,
      extend seen.reverse xs = List.eraseDupsBy.loop (· == ·) xs seen := by
    induction xs with
    | nil => intro seen; rfl
    | cons x xs ih =>
        intro seen
        rw [extend_cons, insert, List.any_reverse, List.eraseDupsBy.loop]
        cases hx : seen.any (x == ·) with
        | true => simpa using ih seen
        | false => simpa using ih (x :: seen)
  exact hloop []

end Distinct

end CallGraphs
