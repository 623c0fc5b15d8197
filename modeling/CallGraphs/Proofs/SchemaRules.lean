import CallGraphs.Schema
import Mathlib.Algebra.Ring.Int.Defs
import Mathlib.Data.List.Forall2
/-!
# What the rules of a schema ask for

A check takes data to the value that it stands for. Each rule is described here by a relation
between the two, without the order of the checks and the issues they raise.
-/

namespace CallGraphs

/-- A finite number that is whole: its significand, scaled by a power of two, is `n`. -/
inductive Binary64.IsInt : Binary64 → Int → Prop
  | finite {negative : Bool} {m : Nat} {q n : Int}
      (h : (if negative then -(m : Int) else m) * 2 ^ q.toNat = n * 2 ^ (-q).toNat) :
      IsInt (.finite negative m q) n

namespace Dyadic

theorem toInt?_reduce {m n : Int} {k : Nat} :
    (reduce m k).toInt? = some n ↔ m = n * 2 ^ k := by
  induction k generalizing m with
  | zero => simp [reduce, toInt?]
  | succ k ih =>
      have hpow : n * 2 ^ (k + 1) = 2 * (n * 2 ^ k) := by
        rw [Int.pow_succ, Int.mul_comm (2 ^ k), Int.mul_left_comm]
      rw [hpow, reduce]
      by_cases heven : m % 2 = 0
      · rw [if_pos heven, ih]
        omega
      · rw [if_neg heven]
        have hnone : toInt? ⟨m, k + 1⟩ = none := rfl
        rw [hnone]
        refine ⟨fun h => (by cases h), fun h => ?_⟩
        omega

theorem toInt?_scale {m q n : Int} :
    (scale m q).toInt? = some n ↔ m * 2 ^ q.toNat = n * 2 ^ (-q).toNat := by
  unfold scale
  by_cases hq : 0 ≤ q
  · have hneg : (-q).toNat = 0 := by omega
    rw [if_pos hq, toInt?_ofInt, hneg, Int.pow_zero, Int.mul_one, Option.some_inj]
    simp
  · have hpos : q.toNat = 0 := by omega
    rw [if_neg hq, toInt?_reduce, hpos, Int.pow_zero, Int.mul_one]

end Dyadic

namespace Checked

variable {α β : Type}

theorem within_eq_ok_iff {step : Step} {x : Checked α} {a : α} :
    within step x = .ok a ↔ x = .ok a := by
  cases x <;> simp [within]

theorem map_eq_ok_iff {x : Checked α} {f : α → β} {b : β} :
    x.map f = .ok b ↔ ∃ a, x = .ok a ∧ f a = b := by
  cases x <;> simp [Except.map]

/-- Every item passes exactly if the items are related one by one. -/
theorem each_eq_ok_iff {check : Nat → α → Checked β} {R : α → β → Prop}
    (hcheck : ∀ n a b, check n a = .ok b ↔ R a b) {n : Nat} {as : List α} {bs : List β} :
    each check n as = .ok bs ↔ List.Forall₂ R as bs := by
  induction as generalizing n bs with
  | nil =>
      rw [each, List.forall₂_nil_left_iff, Except.ok.injEq]
      exact eq_comm
  | cons a as ih =>
      rw [each, map_eq_ok_iff, List.forall₂_cons_left_iff]
      constructor
      · rintro ⟨⟨b, rest⟩, hboth, rfl⟩
        obtain ⟨hb, hrest⟩ := both_eq_ok_iff.mp hboth
        exact ⟨b, rest, (hcheck n a b).mp hb, ih.mp hrest, rfl⟩
      · rintro ⟨b, rest, hb, hrest, rfl⟩
        exact ⟨(b, rest), both_eq_ok_iff.mpr ⟨(hcheck n a b).mpr hb, ih.mpr hrest⟩, rfl⟩

end Checked

namespace Schema

variable {α : Type}

/-- A check that reads exactly the data that a relation relates to a value. -/
def Recognizes (check : Json → Checked α) (R : Json → α → Prop) : Prop :=
  ∀ j a, check j = .ok a ↔ R j a

/-- Data that is text. -/
inductive IsText : Json → Text → Prop
  | text (t : Text) : IsText (.text t) t

/-- Data that is text or nothing. -/
inductive IsOptionalText : Json → Option Text → Prop
  | null : IsOptionalText .null none
  | text (t : Text) : IsOptionalText (.text t) (some t)

/-- Data that counts as a whole number. A number with a point must be one that fits a signed word.
-/
inductive IsInteger : Json → Whole → Prop
  | int (n : Whole) : IsInteger (.int n) n
  | no : IsInteger (.bool false) ⟨0, rfl⟩
  | yes : IsInteger (.bool true) ⟨1, rfl⟩
  | float {x : Binary64} {n : Whole} (h : x.IsInt n.value) (hlow : -2 ^ 63 < n.value)
      (hhigh : n.value < 2 ^ 63) : IsInteger (.float x) n

/-- A list of related items. -/
inductive IsListOf (R : Json → α → Prop) : Json → List α → Prop
  | array {items : List Json} {as : List α} (h : List.Forall₂ R items as) :
      IsListOf R (.array items) as

/-- A dictionary from text to text. -/
inductive IsTextMap : Json → List (Text × Text) → Prop
  | object {members : List (Text × Json)} {pairs : List (Text × Text)}
      (h : List.Forall₂ (fun m p => m.1 = p.1 ∧ IsText m.2 p.2) members pairs) :
      IsTextMap (.object members) pairs

/-- A member that must be there. -/
def HasField (members : List (Text × Json)) (name : String) (R : Json → α → Prop) (a : α) : Prop :=
  ∃ j, members.lookup (name : Text) = some j ∧ R j a

/-- A member that may be left out, in place of which stands a default. -/
def HasFieldOr (members : List (Text × Json)) (name : String) (default : α) (R : Json → α → Prop)
    (a : α) : Prop :=
  HasField members name R a ∨ members.lookup (name : Text) = none ∧ a = default

theorem recognizes_string : Recognizes string IsText := by
  intro j t
  constructor
  · intro h
    cases j <;> cases h
    exact .text _
  · rintro ⟨⟩
    rfl

theorem recognizes_optionalString : Recognizes optionalString IsOptionalText := by
  intro j o
  constructor
  · intro h
    cases j <;> cases h
    · exact .null
    · exact .text _
  · rintro (_ | _) <;> rfl

theorem wholeNumber_eq_ok_iff {x : Binary64} {n : Whole} :
    wholeNumber x = .ok n ↔ x.IsInt n.value ∧ -2 ^ 63 < n.value ∧ n.value < 2 ^ 63 := by
  cases x with
  | finite negative m q =>
      have hwhole : (Binary64.finite negative m q).IsInt n.value ↔
          (Dyadic.scale (if negative then -(m : Int) else m) q).toInt? = some n.value := by
        rw [Dyadic.toInt?_scale]
        exact ⟨fun h => (by cases h; assumption), .finite⟩
      rw [hwhole]
      unfold wholeNumber
      simp only [Binary64.toDyadic?]
      cases (Dyadic.scale (if negative then -(m : Int) else m) q).toInt? with
      | none => simp
      | some k =>
          have hbound : wordBound = 2 ^ 63 := rfl
          simp only [hbound, Option.some_inj]
          by_cases hk : -2 ^ 63 < k ∧ k < 2 ^ 63
          · rw [dif_pos hk, Except.ok.injEq]
            constructor
            · rintro rfl
              exact ⟨rfl, hk⟩
            · rintro ⟨rfl, _⟩
              rfl
          · rw [dif_neg hk]
            exact ⟨nofun, fun h => absurd (h.1 ▸ h.2) hk⟩
  | infinite negative => exact ⟨nofun, fun h => nomatch h.1⟩
  | nan payload => exact ⟨nofun, fun h => nomatch h.1⟩

theorem recognizes_integer : Recognizes integer IsInteger := by
  intro j n
  constructor
  · intro h
    cases j with
    | int k =>
        cases h
        exact .int n
    | bool b =>
        cases b <;> cases h
        · exact .no
        · exact .yes
    | float x =>
        unfold integer at h
        cases hx : wholeNumber x with
        | ok k =>
            simp only [hx] at h
            cases h
            obtain ⟨hint, hlow, hhigh⟩ := wholeNumber_eq_ok_iff.mp hx
            exact .float hint hlow hhigh
        | error rule =>
            simp only [hx] at h
            cases h
    | _ => cases h
  · intro h
    cases h with
    | int => rfl
    | no => rfl
    | yes => rfl
    | float hint hlow hhigh =>
        have hx := wholeNumber_eq_ok_iff.mpr ⟨hint, hlow, hhigh⟩
        simp only [integer, hx]

theorem Recognizes.listOf {item : Json → Checked α} {R : Json → α → Prop} (h : Recognizes item R) :
    Recognizes (listOf item) (IsListOf R) := by
  intro j as
  cases j with
  | array items =>
      have hitem : ∀ n j a, Checked.within (.index n) (item j) = .ok a ↔ R j a :=
        fun n j a => Checked.within_eq_ok_iff.trans (h j a)
      refine (Checked.each_eq_ok_iff hitem).trans ⟨.array, fun hlist => ?_⟩
      cases hlist
      assumption
  | _ => exact ⟨nofun, nofun⟩

theorem recognizes_stringMap : Recognizes stringMap IsTextMap := by
  intro j pairs
  cases j with
  | object members =>
      have hmember : ∀ (_ : Nat) (m : Text × Json) (p : Text × Text),
          (Checked.within (.field m.1.lossy) (string m.2)).map (fun t => (m.1, t)) = .ok p ↔
            m.1 = p.1 ∧ IsText m.2 p.2 := by
        intro _ m p
        rw [Checked.map_eq_ok_iff]
        constructor
        · rintro ⟨t, ht, rfl⟩
          exact ⟨rfl, (recognizes_string m.2 t).mp (Checked.within_eq_ok_iff.mp ht)⟩
        · rintro ⟨hname, ht⟩
          refine ⟨p.2, Checked.within_eq_ok_iff.mpr ((recognizes_string m.2 p.2).mpr ht), ?_⟩
          rw [hname]
      refine (Checked.each_eq_ok_iff hmember).trans ⟨.object, fun hmap => ?_⟩
      cases hmap
      assumption
  | _ => exact ⟨nofun, nofun⟩

theorem stringMap_texts (pairs : List (Text × Text)) :
    stringMap (.object (pairs.map fun e => (e.1, .text e.2))) = .ok pairs := by
  apply (recognizes_stringMap _ _).mpr
  apply IsTextMap.object
  rw [List.forall₂_map_left_iff, List.forall₂_same]
  exact fun e _ => ⟨rfl, .text e.2⟩

theorem Recognizes.required {check : Json → Checked α} {R : Json → α → Prop}
    (h : Recognizes check R) (members : List (Text × Json)) (name : String) (a : α) :
    required members name check = .ok a ↔ HasField members name R a := by
  unfold Schema.required HasField
  rw [Checked.within_eq_ok_iff]
  cases members.lookup (name : Text) with
  | none => simp [Checked.refuse]
  | some j => simpa using h j a

theorem Recognizes.defaulted {check : Json → Checked α} {R : Json → α → Prop}
    (h : Recognizes check R) (members : List (Text × Json)) (name : String) (default a : α) :
    defaulted members name default check = .ok a ↔ HasFieldOr members name default R a := by
  unfold Schema.defaulted HasFieldOr HasField
  cases members.lookup (name : Text) with
  | none => simpa using eq_comm
  | some j => simpa [Checked.within_eq_ok_iff] using h j a

end Schema

end CallGraphs
