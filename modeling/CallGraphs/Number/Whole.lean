/-!
# Whole numbers that can be written

A whole number is read and written in decimal digits, but only up to a number of them. Main
statement: so many digits suffice for exactly the numbers below that power of ten.
-/

namespace CallGraphs

/-- The most digits that a whole number is read or written with. -/
def maxDigits : Nat := 4300

/-- Whether a number of decimal digits suffices to write a number. -/
def fitsDigits : Nat → Nat → Bool
  | 0, n => n == 0
  | count + 1, n => n < 10 || fitsDigits count (n / 10)

theorem fitsDigits_iff (count n : Nat) : fitsDigits count n = true ↔ n < Nat.pow 10 count := by
  induction count generalizing n with
  | zero => simp [fitsDigits]
  | succ count ih =>
      have hpow : Nat.pow 10 (count + 1) = Nat.pow 10 count * 10 := rfl
      have hpos : 0 < Nat.pow 10 count := Nat.pow_pos (by decide)
      simp only [fitsDigits, Bool.or_eq_true, decide_eq_true_eq, ih, hpow]
      omega

/-- More digits suffice as well. -/
theorem fitsDigits_of_le {count more n : Nat} (h : fitsDigits count n = true) (hle : count ≤ more) :
    fitsDigits more n = true := by
  rw [fitsDigits_iff] at h ⊢
  exact Nat.lt_of_lt_of_le h (Nat.pow_le_pow_right (by decide) hle)

/-- A whole number that can be read and written. -/
structure Whole where
  value : Int
  short : fitsDigits maxDigits value.natAbs = true
  deriving DecidableEq, Repr

namespace Whole

/-- The whole number, if it is not too long. -/
def ofInt? (n : Int) : Option Whole :=
  if h : fitsDigits maxDigits n.natAbs = true then some ⟨n, h⟩ else none

def zero : Whole :=
  ⟨0, rfl⟩

def one : Whole :=
  ⟨1, rfl⟩

/-- A truth value as a number. -/
def ofBool (b : Bool) : Whole :=
  if b then one else zero

end Whole

end CallGraphs
