/-!
# Maps in insertion order

A map that lists its entries in the order in which their keys first came in. Keys are compared with
`==`, which may identify keys that are written differently; the key that came first stays, and only
its value is replaced.
-/

namespace CallGraphs

/-- Entries in the order of first insertion. -/
structure OrdMap (α β : Type) where
  entries : List (α × β)
  deriving Repr

namespace OrdMap

variable {α β : Type}

/-- The map without entries. -/
def empty : OrdMap α β :=
  ⟨[]⟩

instance : Inhabited (OrdMap α β) :=
  ⟨empty⟩

/-- The keys, in order. -/
def keys (m : OrdMap α β) : List α :=
  m.entries.map Prod.fst

/-- The values, in the order of their keys. -/
def values (m : OrdMap α β) : List β :=
  m.entries.map Prod.snd

/-- The number of entries. -/
def size (m : OrdMap α β) : Nat :=
  m.entries.length

variable [BEq α]

/-- The value at a key. -/
def get? (m : OrdMap α β) (k : α) : Option β :=
  m.entries.lookup k

/-- Whether some key equals `k`. -/
def contains (m : OrdMap α β) (k : α) : Bool :=
  (m.get? k).isSome

/-- The entries with `f` applied to the first one at `k`, or with a new entry at the end. -/
def alterEntries (k : α) (f : Option β → β) : List (α × β) → List (α × β)
  | [] => [(k, f none)]
  | (k', v) :: rest => if k == k' then (k', f (some v)) :: rest else (k', v) :: alterEntries k f rest

/-- The map with the value at `k` computed from the one it had. -/
def alter (m : OrdMap α β) (k : α) (f : Option β → β) : OrdMap α β :=
  ⟨alterEntries k f m.entries⟩

/-- The map with the value `v` at `k`. -/
def insert (m : OrdMap α β) (k : α) (v : β) : OrdMap α β :=
  m.alter k fun _ => v

/-- The map that inserting the pairs one after another gives. -/
def ofList (pairs : List (α × β)) : OrdMap α β :=
  pairs.foldl (fun m p => m.insert p.1 p.2) empty

/-- The map of lists with `x` appended to the list at `k`. -/
def push (m : OrdMap α (List β)) (k : α) (x : β) : OrdMap α (List β) :=
  m.alter k fun old => old.getD [] ++ [x]

/-- The list at a key, which is empty where there is none. -/
def bucket (m : OrdMap α (List β)) (k : α) : List β :=
  (m.get? k).getD []

@[simp] theorem get?_empty (k : α) : (empty : OrdMap α β).get? k = none := rfl

theorem keys_alterEntries (k : α) (f : Option β → β) (l : List (α × β)) :
    (alterEntries k f l).map Prod.fst =
      if l.any (k == ·.1) then l.map Prod.fst else l.map Prod.fst ++ [k] := by
  induction l with
  | nil => rfl
  | cons e l ih =>
    obtain ⟨k', v⟩ := e
    by_cases h : k == k'
    · simp [alterEntries, h]
    · simp only [Bool.not_eq_true] at h
      simp only [alterEntries, h, Bool.false_eq_true, ↓reduceIte, List.map_cons, ih, List.any_cons,
        Bool.false_or]
      split <;> simp

/-- A key comes in at the end, once; a key that is there already leaves the keys alone. -/
theorem keys_alter (m : OrdMap α β) (k : α) (f : Option β → β) :
    (m.alter k f).keys = if m.keys.any (k == ·) then m.keys else m.keys ++ [k] := by
  have h : m.keys.any (k == ·) = m.entries.any (k == ·.1) := List.any_map
  rw [h]
  exact keys_alterEntries k f m.entries

theorem lookup_alterEntries_self (k : α) (f : Option β → β) (l : List (α × β))
    (hk : (k == k) = true) : (alterEntries k f l).lookup k = some (f (l.lookup k)) := by
  induction l with
  | nil => simp [alterEntries, List.lookup_cons, hk]
  | cons e l ih =>
    obtain ⟨k', v⟩ := e
    by_cases h : k == k'
    · simp [alterEntries, List.lookup_cons, h]
    · simp only [Bool.not_eq_true] at h
      simpa [alterEntries, List.lookup_cons, h] using ih

/-- Where a key equals itself, it finds what was put there. -/
theorem get?_alter_self (m : OrdMap α β) (k : α) (f : Option β → β) (hk : (k == k) = true) :
    (m.alter k f).get? k = some (f (m.get? k)) :=
  lookup_alterEntries_self k f m.entries hk

end OrdMap

end CallGraphs
