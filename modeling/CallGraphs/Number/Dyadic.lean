/-!
# Dyadic numbers

Exact values of the form `n / 2 ^ k`, each written in one way only. Numbers of different kinds are
compared through this form, so that two of them are the same number exactly if they are equal.
-/

namespace CallGraphs

/-- The number `numerator / 2 ^ shift`. -/
structure Dyadic where
  numerator : Int
  shift : Nat
  deriving DecidableEq, Repr

namespace Dyadic

/-- `n / 2 ^ k` with the common factors of two removed. -/
def reduce (n : Int) : Nat → Dyadic
  | 0 => ⟨n, 0⟩
  | k + 1 => if n % 2 = 0 then reduce (n / 2) k else ⟨n, k + 1⟩

/-- A whole number. -/
def ofInt (n : Int) : Dyadic :=
  ⟨n, 0⟩

/-- `n * 2 ^ e`. -/
def scale (n e : Int) : Dyadic :=
  if 0 ≤ e then ofInt (n * Int.ofNat (Nat.pow 2 e.toNat)) else reduce n (-e).toNat

/-- Whether a number is at most another. -/
def atMost (a b : Dyadic) : Bool :=
  a.numerator * Int.ofNat (Nat.pow 2 b.shift) ≤ b.numerator * Int.ofNat (Nat.pow 2 a.shift)

/-- The whole number that a dyadic number is, if it is one. -/
def toInt? (d : Dyadic) : Option Int :=
  if d.shift = 0 then some d.numerator else none

@[simp] theorem toInt?_ofInt (n : Int) : (ofInt n).toInt? = some n := rfl

end Dyadic

end CallGraphs
