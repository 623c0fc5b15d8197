import CallGraphs.Proofs.OrderedMaps
import CallGraphs.Value.Equality
import CallGraphs.Value.Hashing
import Mathlib.Data.List.Forall2
/-!
# Equality of keys

Every value but a dictionary is a shape over a list of parts, and two such values are equal when
their shapes agree and their parts are equal one by one. A value that can be a key holds no
dictionary, so equality is an equivalence around keys; whatever equals a key is a key itself.
-/

namespace CallGraphs

/-- What holds alike of related items holds of all items of one list or of the other. -/
theorem forall_mem_iff_of_forall₂ {α : Type} {R : α → α → Prop} {P : α → Prop} {xs ys : List α}
    (hxys : List.Forall₂ R xs ys) (hP : ∀ x ∈ xs, ∀ y, R x y → (P x ↔ P y)) :
    (∀ x ∈ xs, P x) ↔ ∀ y ∈ ys, P y := by
  induction hxys with
  | nil => simp
  | cons hxy _ ih =>
      simp only [List.forall_mem_cons] at hP ⊢
      rw [hP.1 _ hxy, ih hP.2]

namespace Value

/-- What a value is apart from its parts. A value without parts is what it means. -/
inductive Shape where
  | scalar (s : Option Scalar)
  | list
  | tuple
  | record
  | mapping
  | context
  | site
  | sensitive (k : CallKind)
  | insensitive (k : CallKind)
  | unit
  | host (name : Text)
  | halfSite
  deriving DecidableEq

def shape : Value → Shape
  | list _ => .list
  | tuple _ => .tuple
  | unitTuple .. => .tuple
  | record _ => .record
  | mapping _ => .mapping
  | context .. => .context
  | site .. => .site
  | sensitive _ _ _ _ _ k => .sensitive k
  | insensitive _ _ _ k => .insensitive k
  | unit _ => .unit
  | host name _ => .host name
  | halfSite _ => .halfSite
  | v => .scalar v.scalar?

/-- The sides of pairs, one after another. -/
def sides : List (Value × Value) → List Value
  | [] => []
  | (a, b) :: ps => a :: b :: sides ps

/-- The values directly inside a value. The fields of a dictionary are left out: they are compared
by name and not by place. -/
def parts : Value → List Value
  | list items => items
  | tuple items => items
  | unitTuple items _ => items
  | mapping items => sides items
  | context method value => [method, value]
  | site ctx node => [ctx, node]
  | sensitive source ctx instr target ctx' _ => [source, ctx, instr, target, ctx']
  | insensitive source instr target _ => [source, instr, target]
  | unit invokeKind => [invokeKind]
  | host _ method => [method]
  | halfSite ctx => [ctx]
  | _ => []

theorem sizeOf_lt_of_mem_sides {ps : List (Value × Value)} {v : Value}
    (hv : v ∈ sides ps) : sizeOf v < sizeOf ps := by
  induction ps with
  | nil => simp [sides] at hv
  | cons p ps ih =>
      obtain ⟨a, b⟩ := p
      simp only [sides, List.mem_cons] at hv
      rcases hv with rfl | rfl | hv
      · simp only [List.cons.sizeOf_spec, Prod.mk.sizeOf_spec]
        omega
      · simp only [List.cons.sizeOf_spec, Prod.mk.sizeOf_spec]
        omega
      · have hlt := ih hv
        simp only [List.cons.sizeOf_spec, Prod.mk.sizeOf_spec]
        omega

theorem sizeOf_lt_of_mem_parts {v w : Value} (hw : w ∈ v.parts) :
    sizeOf w < sizeOf v := by
  cases v with
  | list items =>
      change w ∈ items at hw
      have hlt := List.sizeOf_lt_of_mem hw
      simp only [list.sizeOf_spec]
      omega
  | tuple items =>
      change w ∈ items at hw
      have hlt := List.sizeOf_lt_of_mem hw
      simp only [tuple.sizeOf_spec]
      omega
  | unitTuple items invokeKind =>
      change w ∈ items at hw
      have hlt := List.sizeOf_lt_of_mem hw
      simp only [unitTuple.sizeOf_spec]
      omega
  | mapping items =>
      have hlt := sizeOf_lt_of_mem_sides hw
      simp only [mapping.sizeOf_spec]
      omega
  | context | site | sensitive | insensitive | unit | host | halfSite =>
      simp only [parts, List.mem_cons, List.not_mem_nil, or_false] at hw
      simp only [context.sizeOf_spec, site.sizeOf_spec, sensitive.sizeOf_spec,
        insensitive.sizeOf_spec, unit.sizeOf_spec, host.sizeOf_spec, halfSite.sizeOf_spec]
      grind
  | _ => simp [parts] at hw

/-- Induction over the parts of a value. -/
theorem induction_on_parts {motive : Value → Prop}
    (step : ∀ v, (∀ w ∈ v.parts, motive w) → motive v) (v : Value) :
    motive v :=
  step v fun w hw =>
    have : sizeOf w < sizeOf v := sizeOf_lt_of_mem_parts hw
    induction_on_parts step w
termination_by sizeOf v

/-- Equality of two values, as a relation. -/
abbrev Same (a b : Value) : Prop :=
  a.same b = true

theorem sameItems_iff {xs ys : List Value} :
    sameItems xs ys = true ↔ List.Forall₂ Same xs ys := by
  induction xs generalizing ys with
  | nil => cases ys <;> simp [sameItems]
  | cons x xs ih => cases ys <;> simp [sameItems, ih]

theorem samePairs_eq_sameItems (ps qs : List (Value × Value)) :
    samePairs ps qs = sameItems (sides ps) (sides qs) := by
  induction ps generalizing qs with
  | nil => cases qs <;> rfl
  | cons p ps ih => cases qs <;> simp [samePairs, sameItems, sides, ih, Bool.and_assoc]

theorem same_eq_sameScalar {a : Value} (ha : a.scalar?.isSome = true) (b : Value) :
    a.same b = sameScalar a b := by
  cases a <;> first | (cases b <;> rfl) | cases ha

theorem shape_eq_scalar_iff {v : Value} {s : Scalar} :
    v.shape = .scalar (some s) ↔ v.scalar? = some s := by
  cases v <;> simp [shape, scalar?]

theorem parts_eq_nil_of_scalar {v : Value} {s : Scalar} (hv : v.scalar? = some s) :
    v.parts = [] := by
  cases v <;> first | rfl | cases hv

theorem same_eq_of_not_scalar {a : Value} (ha : a.shape ≠ .record)
    (hs : a.scalar? = none) (b : Value) :
    a.same b = (decide (a.shape = b.shape) && sameItems a.parts b.parts) := by
  cases a with
  | record fields => exact absurd rfl ha
  | list | tuple | unitTuple => cases b <;> rfl
  | mapping items =>
      cases b with
      | mapping others => exact samePairs_eq_sameItems items others
      | _ => rfl
  | context | site | unit | host | halfSite =>
      cases b <;> first | rfl | simp [same, shape, parts, sameItems, beq_eq_decide]
  | sensitive | insensitive =>
      -- The kinds come last in the comparison, but belong to the shape.
      cases b <;> first | rfl | (simp [same, shape, parts, sameItems]; ac_rfl)
  | float x => cases x <;> cases hs
  | _ => cases hs

/-- Values other than dictionaries are equal when they have one shape and equal parts. -/
theorem same_iff {a : Value} (ha : a.shape ≠ .record) (b : Value) :
    a.Same b ↔ a.shape = b.shape ∧ List.Forall₂ Same a.parts b.parts := by
  cases hs : a.scalar? with
  | none => simp [Same, same_eq_of_not_scalar ha hs, sameItems_iff]
  | some s =>
      have hshape : a.shape = .scalar (some s) := shape_eq_scalar_iff.mpr hs
      rw [Same, same_eq_sameScalar (by rw [hs]; rfl), sameScalar, hs, hshape,
        parts_eq_nil_of_scalar hs, eq_comm (b := b.shape), shape_eq_scalar_iff]
      cases hb : b.scalar? with
      | none => simp
      | some s' =>
          rw [parts_eq_nil_of_scalar hb]
          simp only [beq_iff_eq, Option.some.injEq, List.forall₂_nil_left_iff, and_true]
          exact eq_comm

/-- Equal values have one shape, dictionaries included. -/
theorem shape_eq_of_same {a b : Value} (hab : a.Same b) : a.shape = b.shape := by
  by_cases ha : a.shape = .record
  · cases a with
    | record fields => cases b <;> first | rfl | cases hab
    | _ => cases ha
  · exact ((same_iff ha b).mp hab).1

theorem firstUnhashable?_eq_none_iff {vs : List Value} :
    firstUnhashable? vs = none ↔ ∀ v ∈ vs, v.unhashable? = none := by
  induction vs with
  | nil => simp [firstUnhashable?]
  | cons v vs ih => simp [firstUnhashable?, ih]

theorem firstUnhashablePair?_eq_none_iff {ps : List (Value × Value)} :
    firstUnhashablePair? ps = none ↔ ∀ v ∈ sides ps, v.unhashable? = none := by
  induction ps with
  | nil => simp [firstUnhashablePair?, sides]
  | cons p ps ih => simp [firstUnhashablePair?, sides, ih]

/-- A value is a key unless it is, or has a part that is, a list or a dictionary. -/
theorem hashable_iff {v : Value} :
    v.hashable = true ↔
      v.shape ≠ .list ∧ v.shape ≠ .record ∧ ∀ w ∈ v.parts, w.hashable = true := by
  cases v <;>
    simp [hashable, unhashable?, shape, parts, firstUnhashable?_eq_none_iff,
      firstUnhashablePair?_eq_none_iff]

/-- Of two equal values, both can be keys or neither. -/
theorem hashable_congr {a b : Value} (hab : a.Same b) : a.hashable = b.hashable := by
  induction a using induction_on_parts generalizing b with
  | step a ih =>
      have hshape := shape_eq_of_same hab
      rw [Bool.eq_iff_iff, hashable_iff, hashable_iff, ← hshape]
      by_cases ha : a.shape = .record
      · simp [ha]
      · have hparts := ((same_iff ha b).mp hab).2
        have hcongr := forall_mem_iff_of_forall₂ (P := fun v => v.hashable = true) hparts
          fun x hx y hxy => by rw [ih x hx hxy]
        rw [hcongr]

theorem same_refl {v : Value} (hv : v.hashable = true) : v.Same v := by
  induction v using induction_on_parts with
  | step v ih =>
      obtain ⟨_, hrecord, hparts⟩ := hashable_iff.mp hv
      refine (same_iff hrecord v).mpr ⟨rfl, ?_⟩
      exact List.forall₂_same.mpr fun w hw => ih w hw (hparts w hw)

theorem same_symm {a b : Value} (ha : a.hashable = true) (hab : a.Same b) : b.Same a := by
  induction a using induction_on_parts generalizing b with
  | step a ih =>
      obtain ⟨_, hrecord, hparts⟩ := hashable_iff.mp ha
      obtain ⟨hshape, hsame⟩ := (same_iff hrecord b).mp hab
      refine (same_iff (hshape ▸ hrecord) a).mpr ⟨hshape.symm, ?_⟩
      have hparts' : ∀ x ∈ a.parts, ∀ y, x.Same y → y.Same x :=
        fun x hx y hxy => ih x hx (hparts x hx) hxy
      refine List.Forall₂.flip ?_
      exact ((List.forall₂_and_left _ _).mpr ⟨hparts', hsame⟩).imp fun x y hxy => hxy.1 y hxy.2

theorem forall₂_same_trans {xs ys zs : List Value}
    (hstep : ∀ x ∈ xs, ∀ y z, x.Same y → y.Same z → x.Same z)
    (hxy : List.Forall₂ Same xs ys) (hyz : List.Forall₂ Same ys zs) :
    List.Forall₂ Same xs zs := by
  induction hxy generalizing zs with
  | nil => exact hyz
  | cons hhead _ ih =>
      cases hyz with
      | cons hhead' htail' =>
          simp only [List.forall_mem_cons] at hstep
          exact .cons (hstep.1 _ _ hhead hhead') (ih hstep.2 htail')

theorem same_trans {a b c : Value} (ha : a.hashable = true) (hab : a.Same b)
    (hbc : b.Same c) : a.Same c := by
  induction a using induction_on_parts generalizing b c with
  | step a ih =>
      obtain ⟨_, hrecord, hparts⟩ := hashable_iff.mp ha
      obtain ⟨hshape, hsame⟩ := (same_iff hrecord b).mp hab
      obtain ⟨hshape', hsame'⟩ := (same_iff (hshape ▸ hrecord) c).mp hbc
      refine (same_iff hrecord c).mpr ⟨hshape.trans hshape', ?_⟩
      exact forall₂_same_trans (fun x hx y z => ih x hx (hparts x hx)) hsame hsame'

/-- Equality is an equivalence around keys. -/
theorem equivOn_hashable : EquivOn fun v : Value => v.hashable = true where
  refl := same_refl
  comm {a} ha b := by
    apply Bool.eq_iff_iff.mpr
    refine ⟨same_symm ha, fun hba => ?_⟩
    exact same_symm ((hashable_congr hba).trans ha) hba
  trans := same_trans
  closed ha hab := (hashable_congr hab).symm.trans ha

/-- What cannot be a key equals no key. -/
theorem beq_eq_false_of_unhashable {v k : Value} (hv : v.hashable = false)
    (hk : k.hashable = true) : (v == k) = false := by
  by_contra hne
  have hvk : v.Same k := Bool.of_not_eq_false hne
  rw [hashable_congr hvk, hk] at hv
  cases hv

theorem beq_instruction {a b : Text} {k k' : Option Text} :
    (instruction a k == instruction b k') = true ↔ a = b ∧ k = k' := by
  change ((Scalar.instruction a k == Scalar.instruction b k') = true) ↔ _
  simp

theorem beq_text (a b : Text) : (text a == text b) = (a == b) := by
  change (Scalar.text a == Scalar.text b) = (a == b)
  rw [Bool.eq_iff_iff]
  simp

theorem beq_site (ctx node ctx' node' : Value) :
    (site ctx node == site ctx' node') = (ctx == ctx' && node == node') := rfl

/-- A call site can be a key when its context and its node can. -/
theorem hashable_site (ctx node : Value) :
    (site ctx node).hashable = (ctx.hashable && node.hashable) := by
  simp [hashable, unhashable?, Option.isNone_or]

end Value

end CallGraphs
