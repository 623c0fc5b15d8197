/-!
# Lists without repetitions

Collecting values in the order of their first occurrence.
-/

namespace CallGraphs

namespace Distinct

variable {α : Type} [BEq α]

/-- The list with `x` at its end unless an equal value is there. -/
def insert (xs : List α) (x : α) : List α :=
  if xs.any (x == ·) then xs else xs ++ [x]

/-- The list with further values inserted one after another. -/
def extend (xs ys : List α) : List α :=
  ys.foldl insert xs

/-- The values at their first occurrence. -/
def ofList (xs : List α) : List α :=
  extend [] xs

@[simp] theorem extend_nil (xs : List α) : extend xs [] = xs := rfl

@[simp] theorem extend_cons (xs ys : List α) (y : α) : extend xs (y :: ys) = extend (insert xs y) ys :=
  rfl

theorem extend_append (xs ys zs : List α) : extend xs (ys ++ zs) = extend (extend xs ys) zs :=
  List.foldl_append

/-- What is in the list afterwards was there before or is the inserted value. -/
theorem mem_insert {xs : List α} {x y : α} (h : y ∈ insert xs x) : y ∈ xs ∨ y = x := by
  unfold insert at h
  split at h
  · exact .inl h
  · simpa using h

end Distinct

end CallGraphs
