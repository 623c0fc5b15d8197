import CallGraphs.Proofs.OrderedMaps
import Mathlib.Data.List.Induction
/-!
# Values collected without repetitions

Which values are found among those collected, and how many there are, does not depend on the order
in which they came in; only which of several equal values is kept does.
-/

namespace CallGraphs

namespace Distinct

variable {α : Type} [BEq α] {P : α → Prop}

/-- No two values of a list are equal. -/
abbrev AllUnequal (xs : List α) : Prop :=
  xs.Pairwise fun a b => (a == b) = false

/-- Two lists in which the same values are found. -/
def SameMembers (xs ys : List α) : Prop :=
  ∀ v, xs.any (v == ·) = ys.any (v == ·)

theorem sameMembers_of_perm {xs ys : List α} (h : xs.Perm ys) : SameMembers xs ys :=
  fun _ => h.any_eq

theorem any_self (h : EquivOn P) {xs : List α} {x : α} (hP : P x) (hx : x ∈ xs) :
    xs.any (x == ·) = true :=
  List.any_eq_true.mpr ⟨x, hx, h.refl hP⟩

theorem mem_extend {xs ys : List α} {v : α} (hv : v ∈ extend xs ys) : v ∈ xs ∨ v ∈ ys := by
  induction ys generalizing xs with
  | nil => exact .inl hv
  | cons y ys ih =>
      rw [extend_cons] at hv
      rcases ih hv with hv | hv
      · rcases mem_insert hv with hv | rfl
        · exact .inl hv
        · exact .inr List.mem_cons_self
      · exact .inr (List.mem_cons_of_mem y hv)

theorem ofList_concat (xs : List α) (x : α) : ofList (xs ++ [x]) = insert (ofList xs) x :=
  extend_append [] xs [x]

theorem mem_ofList {xs : List α} {x : α} (hx : x ∈ ofList xs) : x ∈ xs := by
  rcases mem_extend hx with hnone | hmem
  · cases hnone
  · exact hmem

/-- What is found after values came in was there before or equals one of them. -/
theorem any_extend (h : EquivOn P) {ys : List α} (hys : ∀ y ∈ ys, P y) (xs : List α) (v : α) :
    (extend xs ys).any (v == ·) = (xs.any (v == ·) || ys.any (v == ·)) := by
  induction ys generalizing xs with
  | nil => simp
  | cons y ys ih =>
      obtain ⟨hy, hrest⟩ := List.forall_mem_cons.mp hys
      rw [extend_cons, ih hrest, any_insert h hy, List.any_cons, Bool.or_assoc]

theorem sameMembers_extend (h : EquivOn P) {ys : List α} (hys : ∀ y ∈ ys, P y) (xs : List α) :
    SameMembers (extend xs ys) (xs ++ ys) := by
  intro v
  rw [any_extend h hys, List.any_append]

theorem sameMembers_ofList (h : EquivOn P) {xs : List α} (hxs : ∀ x ∈ xs, P x) :
    SameMembers (ofList xs) xs :=
  sameMembers_extend h hxs []

theorem allUnequal_insert (h : EquivOn P) {xs : List α} {x : α} (hx : P x)
    (hxs : AllUnequal xs) : AllUnequal (insert xs x) := by
  unfold insert
  split
  · exact hxs
  · rename_i hnew
    refine List.pairwise_append.mpr ⟨hxs, List.pairwise_singleton _ _, ?_⟩
    intro a ha b hb
    rw [List.mem_singleton.mp hb, ← h.comm hx]
    simp only [List.any_eq_true, not_exists, not_and, Bool.not_eq_true] at hnew
    exact hnew a ha

theorem allUnequal_extend (h : EquivOn P) {xs ys : List α} (hxs : AllUnequal xs)
    (hys : ∀ y ∈ ys, P y) : AllUnequal (extend xs ys) := by
  induction ys generalizing xs with
  | nil => exact hxs
  | cons y ys ih =>
      obtain ⟨hy, hrest⟩ := List.forall_mem_cons.mp hys
      exact ih (allUnequal_insert h hy hxs) hrest

theorem allUnequal_ofList (h : EquivOn P) {xs : List α} (hxs : ∀ x ∈ xs, P x) :
    AllUnequal (ofList xs) :=
  allUnequal_extend h List.Pairwise.nil hxs

/-- A list without equal values is not longer than one in which all of them are found. -/
theorem length_le_of_found (h : EquivOn P) {xs ys : List α} (hP : ∀ x ∈ xs, P x)
    (hxs : AllUnequal xs) (hfound : ∀ x ∈ xs, ys.any (x == ·) = true) :
    xs.length ≤ ys.length := by
  induction xs generalizing ys with
  | nil => exact Nat.zero_le _
  | cons x xs ih =>
      obtain ⟨hx, hP⟩ := List.forall_mem_cons.mp hP
      obtain ⟨hne, hxs⟩ := List.pairwise_cons.mp hxs
      obtain ⟨hfirst, hfound⟩ := List.forall_mem_cons.mp hfound
      obtain ⟨y, hy, hxy⟩ := List.any_eq_true.mp hfirst
      obtain ⟨s, t, rfl⟩ := List.append_of_mem hy
      -- The others are found without the value that equals the first one.
      have hothers : ∀ x' ∈ xs, (s ++ t).any (x' == ·) = true := by
        intro x' hx'
        have hx'y : (x' == y) = false := by
          rw [← h.congr_right hx hxy, ← h.comm hx]
          exact hne x' hx'
        have hfound' := hfound x' hx'
        rw [List.any_append, List.any_cons, hx'y, Bool.false_or] at hfound'
        rw [List.any_append, hfound']
      have hle := ih hP hxs hothers
      rw [List.length_append] at hle
      rw [List.length_append, List.length_cons, List.length_cons]
      omega

/-- Lists without equal values in which the same values are found have the same length. -/
theorem length_eq_of_sameMembers (h : EquivOn P) {xs ys : List α} (hxs : ∀ x ∈ xs, P x)
    (hys : ∀ y ∈ ys, P y) (hxs' : AllUnequal xs) (hys' : AllUnequal ys)
    (hsame : SameMembers xs ys) : xs.length = ys.length := by
  apply Nat.le_antisymm
  · apply length_le_of_found h hxs hxs'
    intro x hx
    rw [← hsame x]
    exact any_self h (hxs x hx) hx
  · apply length_le_of_found h hys hys'
    intro y hy
    rw [hsame y]
    exact any_self h (hys y hy) hy

/-- The number of values collected is the same for lists in which the same values are found. -/
theorem length_ofList_of_sameMembers (h : EquivOn P) {xs ys : List α} (hxs : ∀ x ∈ xs, P x)
    (hys : ∀ y ∈ ys, P y) (hsame : SameMembers xs ys) :
    (ofList xs).length = (ofList ys).length := by
  apply length_eq_of_sameMembers h (fun x hx => hxs x (mem_ofList hx))
    (fun y hy => hys y (mem_ofList hy)) (allUnequal_ofList h hxs) (allUnequal_ofList h hys)
  intro v
  rw [sameMembers_ofList h hxs, sameMembers_ofList h hys, hsame v]

/-- Values come in alike whether those that repeat earlier ones are left out before or not. -/
theorem extend_ofList (h : EquivOn P) (xs : List α) {ys : List α} (hys : ∀ y ∈ ys, P y) :
    extend xs (ofList ys) = extend xs ys := by
  induction ys using List.reverseRecOn with
  | nil => rfl
  | append_singleton ys y ih =>
      obtain ⟨hbefore, hlast⟩ := List.forall_mem_append.mp hys
      rw [ofList_concat, extend_append, ← ih hbefore, insert]
      split
      · rename_i hfound
        rw [sameMembers_ofList h hbefore] at hfound
        refine (insert_eq_self ?_).symm
        rw [ih hbefore, any_extend h hbefore, hfound, Bool.or_true]
      · exact extend_append xs (ofList ys) [y]

/-- The first collected value that passes a test is the first value that passes it, if the test does
not tell equal values apart. -/
theorem find?_ofList {test : α → Bool} {xs : List α}
    (htest : ∀ x ∈ xs, ∀ y ∈ xs, (x == y) = true → test x = test y) :
    (ofList xs).find? test = xs.find? test := by
  induction xs using List.reverseRecOn with
  | nil => rfl
  | append_singleton xs x ih =>
      have hbefore : (ofList xs).find? test = xs.find? test := by
        apply ih
        intro y hy z hz
        exact htest y (List.mem_append_left _ hy) z (List.mem_append_left _ hz)
      rw [ofList_concat, insert, List.find?_append]
      split
      · rename_i hfound
        rw [hbefore]
        cases hfirst : xs.find? test with
        | some first => rfl
        | none =>
            -- The equal value that is there did not pass, so this one does not either.
            obtain ⟨y, hy, hxy⟩ := List.any_eq_true.mp hfound
            have hmem := mem_ofList hy
            have hx : test x = test y :=
              htest x (by simp) y (List.mem_append_left _ hmem) hxy
            have hfails := List.find?_eq_none.mp hfirst y hmem
            rw [← hx] at hfails
            simp [hfails]
      · rw [List.find?_append, hbefore]

/-- Collecting and selecting may be done in either order, if the selection does not tell equal
values apart. -/
theorem filter_ofList {test : α → Bool} {xs : List α}
    (htest : ∀ x ∈ xs, ∀ y ∈ xs, (x == y) = true → test x = test y) :
    (ofList xs).filter test = ofList (xs.filter test) := by
  induction xs using List.reverseRecOn with
  | nil => rfl
  | append_singleton xs x ih =>
      have hbefore : (ofList xs).filter test = ofList (xs.filter test) := by
        apply ih
        intro y hy z hz
        exact htest y (List.mem_append_left _ hy) z (List.mem_append_left _ hz)
      rw [ofList_concat, List.filter_append, List.filter_singleton]
      cases hx : test x with
      | false =>
          have hdropped : (insert (ofList xs) x).filter test = (ofList xs).filter test := by
            unfold insert
            split
            · rfl
            · simp [List.filter_append, hx]
          rw [hdropped, hbefore, cond_false, List.append_nil]
      | true =>
          rw [cond_true, ofList_concat, ← hbefore]
          cases hfound : (ofList xs).any (x == ·) with
          | true =>
              obtain ⟨y, hy, hxy⟩ := List.any_eq_true.mp hfound
              have hsame : test x = test y :=
                htest x (by simp) y (List.mem_append_left _ (mem_ofList hy)) hxy
              have hkept : ((ofList xs).filter test).any (x == ·) = true :=
                List.any_eq_true.mpr ⟨y, List.mem_filter.mpr ⟨hy, hsame ▸ hx⟩, hxy⟩
              rw [insert_eq_self hfound, insert_eq_self hkept]
          | false =>
              have hkept : ((ofList xs).filter test).any (x == ·) = false := by
                apply List.any_eq_false.mpr
                intro y hy
                exact List.any_eq_false.mp hfound y (List.mem_of_mem_filter hy)
              simp [insert, hfound, hkept, hx]

/-- A value that comes in several times comes in once. -/
theorem extend_map_const {β : Type} (h : EquivOn P) {a : α} (ha : P a) (xs : List α) (ys : List β) :
    extend xs (ys.map fun _ => a) = if ys.isEmpty then xs else insert xs a := by
  induction ys generalizing xs with
  | nil => rfl
  | cons y ys ih =>
      have hagain : insert (insert xs a) a = insert xs a := by
        apply insert_eq_self
        rw [any_insert h ha, h.refl ha, Bool.or_true]
      rw [List.map_cons, extend_cons, ih, hagain]
      cases ys <;> rfl

/-- Of unequal keys that come in, each as often as it has values, those stay that have some. -/
theorem extend_flatMap_keys {β γ : Type} (h : EquivOn P) (key : γ → α) (values : γ → List β)
    {l : List γ} (hP : ∀ x ∈ l, P (key x)) (hl : AllUnequal (l.map key)) {seen : List α}
    (hseen : ∀ x ∈ l, seen.any (key x == ·) = false) :
    extend seen (l.flatMap fun x => (values x).map fun _ => key x) =
      seen ++ (l.filter fun x => !(values x).isEmpty).map key := by
  induction l generalizing seen with
  | nil => simp
  | cons x l ih =>
      obtain ⟨hx, hP⟩ := List.forall_mem_cons.mp hP
      obtain ⟨hne, hl⟩ := List.pairwise_cons.mp hl
      obtain ⟨hseenx, hseen⟩ := List.forall_mem_cons.mp hseen
      rw [List.flatMap_cons, extend_append, extend_map_const h hx]
      cases hempty : (values x).isEmpty with
      | true =>
          rw [if_pos rfl, ih hP hl hseen]
          simp [hempty]
      | false =>
          have hinsert : insert seen (key x) = seen ++ [key x] := by
            rw [insert, hseenx]
            rfl
          have hseen' : ∀ y ∈ l, (seen ++ [key x]).any (key y == ·) = false := by
            intro y hy
            have hxy := hne (key y) (List.mem_map_of_mem hy)
            rw [h.comm hx] at hxy
            rw [List.any_append, hseen y hy, List.any_cons, hxy]
            rfl
          rw [if_neg Bool.false_ne_true, hinsert, ih hP hl hseen']
          simp [hempty]

end Distinct

namespace OrdMap

variable {α β : Type} [BEq α] {P : α → Prop}

/-- Where no two keys are equal, the entries at a key are the one that looking it up finds. -/
theorem filter_entries_eq_get? (h : EquivOn P) {m : OrdMap α β} (hP : ∀ k ∈ m.keys, P k)
    (hm : Distinct.AllUnequal m.keys) (k : α) :
    (m.entries.filter (·.1 == k)).map Prod.snd = (m.get? k).toList := by
  unfold get?
  unfold keys at hP hm
  generalize m.entries = l at hP hm ⊢
  induction l with
  | nil => rfl
  | cons e l ih =>
      obtain ⟨a, v⟩ := e
      obtain ⟨ha, hP⟩ := List.forall_mem_cons.mp hP
      obtain ⟨hne, hm⟩ := List.pairwise_cons.mp hm
      rw [List.lookup_cons, List.filter_cons, h.comm ha k]
      cases hka : k == a with
      | false => exact ih hP hm
      | true =>
          have hak : (a == k) = true := (h.comm ha k).trans hka
          have hrest : l.filter (·.1 == k) = [] := by
            apply List.filter_eq_nil_iff.mpr
            intro e he hek
            have hea := h.trans ha hak ((h.comm (h.closed ha hak) e.1).trans hek)
            rw [hne e.1 (List.mem_map_of_mem he)] at hea
            cases hea
          simp [hrest]

end OrdMap

end CallGraphs
