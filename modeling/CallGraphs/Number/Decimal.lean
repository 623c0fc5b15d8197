import CallGraphs.Number.Binary64
import CallGraphs.Text.Blank
import CallGraphs.Text.Digit
/-!
# Decimal text of floating point numbers

A floating point number is written with the fewest digits that read back as the same number, and with
the nearest such digits. Positional notation serves up to sixteen places before the point and three
zeros after it; beyond, an exponent of at least two digits is written. Reading is more liberal: it
takes the digits of any script, and underscores between digits.
-/

namespace CallGraphs

namespace Binary64

/-- A fraction with a positive denominator. -/
structure Fraction where
  num : Nat
  den : Nat

/-- `n * 2 ^ q` as a fraction. -/
def Fraction.scaleTwo (n : Nat) (q : Int) : Fraction :=
  if 0 ≤ q then ⟨n * Nat.pow 2 q.toNat, 1⟩ else ⟨n, Nat.pow 2 (-q).toNat⟩

/-- The fraction divided by `10 ^ p`. -/
def Fraction.divTen (f : Fraction) (p : Int) : Fraction :=
  if 0 ≤ p then ⟨f.num, f.den * Nat.pow 10 p.toNat⟩ else ⟨f.num * Nat.pow 10 (-p).toNat, f.den⟩

/-- The number of places before the point: the least `k` with `m * 2 ^ q < 10 ^ k`. -/
def places (m : Nat) (q : Int) : Int :=
  let guess : Int := ((m.log2 : Int) + q) * 30103 / 100000
  let atLeast (k : Int) : Bool :=
    let f := (Fraction.scaleTwo m q).divTen k
    f.den ≤ f.num
  if atLeast (guess + 1) then guess + 2
  else if atLeast guess then guess + 1
  else guess

/-- The interval of reals that round to `m * 2 ^ q`, in quarters of a unit of the last place. The gap
below a power of two is half as wide. -/
def neighbourhood (m : Nat) (q : Int) : Nat × Nat :=
  if 2 * m = mantissaBound ∧ leastExponent < q then (4 * m - 1, 4 * m + 2) else (4 * m - 2, 4 * m + 2)

/-- The nearest point of the decimal grid `10 ^ p` that reads back as `m * 2 ^ q`, if one does. -/
def onGrid? (m : Nat) (q p : Int) : Option Nat :=
  let (low, high) := neighbourhood m q
  let value := (Fraction.scaleTwo (4 * m) (q - 2)).divTen p
  let lower := (Fraction.scaleTwo low (q - 2)).divTen p
  let upper := (Fraction.scaleTwo high (q - 2)).divTen p
  let even := m % 2 = 0
  let inside (d : Nat) : Bool :=
    if even then lower.num ≤ d * lower.den && d * upper.den ≤ upper.num
    else lower.num < d * lower.den && d * upper.den < upper.num
  let down := value.num / value.den
  let rest := 2 * (value.num % value.den)
  let preferDown := rest < value.den || (rest == value.den && down % 2 == 0)
  let (first, second) := if preferDown then (down, down + 1) else (down + 1, down)
  if inside first then some first else if inside second then some second else none

/-- The first grid with a point that reads back, from `n` digits on, for at most `fuel` more tries. -/
def searchGrid (m : Nat) (q k : Int) (n : Nat) : Nat → Nat × Int
  | 0 => ((onGrid? m q (k - 17)).getD 0, k - 17)
  | fuel + 1 =>
    match onGrid? m q (k - n) with
    | some d => (d, k - n)
    | none => searchGrid m q k (n + 1) fuel

/-- The fewest digits, and the power of ten of the last one, that read back as `m * 2 ^ q`. -/
def shortest (m : Nat) (q : Int) : Nat × Int :=
  searchGrid m q (places m q) 1 16

/-- Digits without the zeros at their end. -/
def significant (ds : List Char) : List Char :=
  (ds.reverse.dropWhile (· == '0')).reverse

/-- Digits with the decimal point after `point` of them. -/
def positional (ds : List Char) (point : Int) : List Char :=
  if point ≤ 0 then '0' :: '.' :: List.replicate (-point).toNat '0' ++ ds
  else
    let before := point.toNat
    if ds.length ≤ before then ds ++ List.replicate (before - ds.length) '0' ++ ['.', '0']
    else ds.take before ++ '.' :: ds.drop before

/-- Digits with one place before the point and the given exponent. -/
def scientific (ds : List Char) (exponent : Int) : List Char :=
  let mantissa :=
    match ds with
    | d :: e :: rest => d :: '.' :: e :: rest
    | ds => ds
  let size := Nat.toDigits 10 exponent.natAbs
  let padded := if size.length < 2 then '0' :: size else size
  mantissa ++ 'e' :: (if exponent < 0 then '-' else '+') :: padded

/-- The text of a number. -/
def text : Binary64 → String
  | nan _ => "nan"
  | infinite negative => if negative then "-inf" else "inf"
  | finite negative m q =>
    let body :=
      if m = 0 then ['0', '.', '0']
      else
        let (digits, power) := shortest m q
        let all := Nat.toDigits 10 digits
        let ds := significant all
        let point : Int := all.length + power
        if -4 < point ∧ point ≤ 16 then positional ds point else scientific ds (point - 1)
    String.ofList (if negative then '-' :: body else body)

/-- The number that decimal digits spell. -/
def digitsToNat (ds : List Char) : Nat :=
  ds.foldl (fun n c => 10 * n + (c.toNat - '0'.toNat)) 0

/-- The number spelled by digits before the point, digits after it, and an exponent. -/
def ofParts (negative : Bool) (whole fraction : List Char) (exponent : Int) : Binary64 :=
  ofDecimal negative (digitsToNat (whole ++ fraction)) (exponent - fraction.length)

/-- The sign and the magnitude of a written exponent. -/
def exponentOf? (cs : List Char) : Option Int :=
  let (negative, ds) :=
    match cs with
    | '-' :: ds => (true, ds)
    | '+' :: ds => (false, ds)
    | ds => (false, ds)
  if ds.isEmpty || !ds.all Char.isDigit then none
  else
    let n : Int := digitsToNat ds
    some (if negative then -n else n)

/-- The number that an unsigned decimal spells. -/
def ofUnsigned? (negative : Bool) (cs : List Char) : Option Binary64 :=
  let whole := cs.takeWhile Char.isDigit
  let rest := cs.dropWhile Char.isDigit
  let (fraction, rest) :=
    match rest with
    | '.' :: rest => (rest.takeWhile Char.isDigit, rest.dropWhile Char.isDigit)
    | rest => ([], rest)
  if whole.isEmpty && fraction.isEmpty then none
  else
    match rest with
    | [] => some (ofParts negative whole fraction 0)
    | c :: rest =>
      if c == 'e' || c == 'E' then (exponentOf? rest).map (ofParts negative whole fraction) else none

/-- The text with its digits and blanks as those of ASCII. A character that has neither meaning ends
it, with a mark that no number contains. -/
def plainDigits : List Char → List Char
  | [] => []
  | c :: cs =>
    if c.toNat < 0x7F then c :: plainDigits cs
    else if Text.isBlank c then ' ' :: plainDigits cs
    else
      match Text.digitValue? c with
      | some d => Char.ofNat (0x30 + d) :: plainDigits cs
      | none => ['?']

/-- The text without its underscores, each of which has to stand between two digits. -/
def joinDigits? (before : Option Char) : List Char → Option (List Char)
  | [] => some []
  | '_' :: cs =>
    match before, cs with
    | some b, c :: _ => if b.isDigit && c.isDigit then joinDigits? (some '_') cs else none
    | _, _ => none
  | c :: cs => (joinDigits? (some c) cs).map (c :: ·)

/-- Whether a character is one of the blanks that may surround a number. -/
def isSpacing (c : Char) : Bool :=
  c == ' ' || (9 ≤ c.toNat && c.toNat ≤ 13)

/-- The number that a text spells: a decimal, or one of the words for the numbers that have none. What
is not a number gets the payload. -/
def ofText? (payload : Nat) (s : String) : Option Binary64 :=
  let trimmed := ((plainDigits s.toList).dropWhile isSpacing).reverse.dropWhile isSpacing
  match joinDigits? none trimmed.reverse with
  | none => none
  | some cs =>
    let (negative, cs) :=
      match cs with
      | '-' :: cs => (true, cs)
      | '+' :: cs => (false, cs)
      | cs => (false, cs)
    let word := String.ofList (cs.map Char.toLower)
    if word = "nan" then some (nan payload)
    else if word = "inf" ∨ word = "infinity" then some (infinite negative)
    else ofUnsigned? negative cs

end Binary64

end CallGraphs
