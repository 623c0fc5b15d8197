/-!
# Sorting by insertion

Items are put in order by a test whether one comes before another. The test need not be an order: an
item that comes neither before nor after its neighbours stays where it is. Main statement: sorting
only moves items.
-/

namespace CallGraphs.Insertion

variable {α : Type}

/-- The position between two others at which an item goes, found by halving. -/
def slot (before : α → α → Bool) (items : List α) (x : α) (low high : Nat) : Nat :=
  if low < high then
    match items[(low + high) / 2]? with
    | some y =>
      if before x y then slot before items x low ((low + high) / 2)
      else slot before items x ((low + high) / 2 + 1) high
    | none => low
  else low
termination_by high - low

/-- Sorted items with another one put in its place, after all that it does not come before. -/
def insert (before : α → α → Bool) (items : List α) (x : α) : List α :=
  let k := slot before items x 0 items.length
  items.take k ++ x :: items.drop k

/-- The items after the first as long as each of them goes on from the one before, and the others. -/
def run (goesOn : α → α → Bool) (last : α) : List α → List α × List α
  | [] => ([], [])
  | x :: xs =>
    if goesOn last x then
      let found := run goesOn x xs
      (x :: found.1, found.2)
    else ([], x :: xs)

/-- The items in order. What is in order already, or in strictly reverse order, at the start is kept
or turned round; the others are inserted one after another. -/
def sort (before : α → α → Bool) : List α → List α
  | x :: y :: rest =>
    if before y x then
      let falling := run (fun a b => before b a) x (y :: rest)
      falling.2.foldl (insert before) (x :: falling.1).reverse
    else
      let rising := run (fun a b => !before b a) x (y :: rest)
      rising.2.foldl (insert before) (x :: rising.1)
  | items => items

theorem insert_perm (before : α → α → Bool) (items : List α) (x : α) :
    (insert before items x).Perm (x :: items) := by
  have h := @List.perm_middle _ x (items.take (slot before items x 0 items.length))
    (items.drop (slot before items x 0 items.length))
  rwa [List.take_append_drop] at h

theorem foldl_insert_perm (before : α → α → Bool) (items others : List α) :
    (others.foldl (insert before) items).Perm (items ++ others) := by
  induction others generalizing items with
  | nil => simp
  | cons x others ih =>
    refine (ih (insert before items x)).trans ?_
    exact ((insert_perm before items x).append_right others).trans List.perm_middle.symm

theorem run_append (goesOn : α → α → Bool) (last : α) (xs : List α) :
    (run goesOn last xs).1 ++ (run goesOn last xs).2 = xs := by
  induction xs generalizing last with
  | nil => rfl
  | cons x xs ih =>
    rw [run]
    split
    · simp [ih]
    · rfl

/-- Sorting only moves items. -/
theorem sort_perm (before : α → α → Bool) (items : List α) : (sort before items).Perm items := by
  unfold sort
  split
  next x y rest =>
    split
    · refine (foldl_insert_perm before _ _).trans ?_
      refine ((List.reverse_perm _).append_right _).trans ?_
      rw [List.cons_append, run_append]
    · refine (foldl_insert_perm before _ _).trans ?_
      rw [List.cons_append, run_append]
  · exact List.Perm.refl _

end CallGraphs.Insertion
