import CallGraphs.Number.Dyadic
/-!
# Binary floating point of 64 bits

A floating point number as the exact value it stands for: not a number, an infinity, or
`± m * 2 ^ q` with a mantissa of at most 53 bits. Rounding an exact quotient to this format goes to
the nearest value, and from the middle to the even mantissa.
-/

namespace CallGraphs

/-- A number of the format. The finite ones keep the sign of zero. What is not a number has a payload,
by which it can be told from others that are not. -/
inductive Binary64 where
  | nan (payload : Nat)
  | infinite (negative : Bool)
  | finite (negative : Bool) (mantissa : Nat) (exponent : Int)
  deriving DecidableEq, Repr

namespace Binary64

/-- The least exponent, which is that of the subnormal numbers. -/
def leastExponent : Int := -1074

/-- The greatest exponent of a finite number. -/
def greatestExponent : Int := 971

/-- The exact value of a finite number. -/
def toDyadic? : Binary64 → Option Dyadic
  | finite negative m q => some (Dyadic.scale (if negative then -(m : Int) else m) q)
  | _ => none

/-- The quotient rounded to the nearest whole number, from the middle to the even one. -/
def roundQuotient (num den : Nat) : Nat :=
  let q := num / den
  let r := num % den
  if 2 * r < den then q
  else if den < 2 * r then q + 1
  else if q % 2 = 0 then q else q + 1

/-- Mantissas are below `2 ^ 53`. -/
def mantissaBound : Nat := 9007199254740992

/-- Whether `2 ^ e ≤ num / den`. -/
def reaches (num den : Nat) (e : Int) : Bool :=
  if 0 ≤ e then den * Nat.pow 2 e.toNat ≤ num else den ≤ num * Nat.pow 2 (-e).toNat

/-- The exponent of the greatest power of two that a positive quotient reaches. -/
def binaryExponent (num den : Nat) : Int :=
  let e : Int := (num.log2 : Int) - den.log2
  if reaches num den e then e else e - 1

/-- The quotient of two positive numbers in the format. -/
def ofQuotient (negative : Bool) (num den : Nat) : Binary64 :=
  if num = 0 then finite negative 0 leastExponent
  else
    let q := max (binaryExponent num den - 52) leastExponent
    let m :=
      if 0 ≤ q then roundQuotient num (den * Nat.pow 2 q.toNat)
      else roundQuotient (num * Nat.pow 2 (-q).toNat) den
    let (m, q) := if m = mantissaBound then (m / 2, q + 1) else (m, q)
    if greatestExponent < q then infinite negative else finite negative m q

/-- The number nearest to `digits * 10 ^ exponent`. Exponents far outside the format are decided
without computing the power. -/
def ofDecimal (negative : Bool) (digits : Nat) (exponent : Int) : Binary64 :=
  let magnitude : Int := (Nat.toDigits 10 digits).length + exponent
  if digits = 0 ∨ magnitude < -400 then finite negative 0 leastExponent
  else if 400 < magnitude then infinite negative
  else if 0 ≤ exponent then ofQuotient negative (digits * Nat.pow 10 exponent.toNat) 1
  else ofQuotient negative digits (Nat.pow 10 (-exponent).toNat)

end Binary64

end CallGraphs
