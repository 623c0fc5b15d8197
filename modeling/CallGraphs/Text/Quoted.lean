import CallGraphs.Text.Basic
import CallGraphs.Text.PrintingTable
import CallGraphs.Text.Ranges
/-!
# Quoted text

Text between quotes as messages show it: single quotes unless only those occur inside, and an escape
for the quote, the backslash and every character that has no printed form.
-/

namespace CallGraphs.Text

/-- Whether a character is shown as it is. -/
def isPrinting (c : Char) : Bool :=
  if c.toNat < 0x7F then 0x20 ≤ c.toNat else !inRanges nonPrintingRanges c.toNat

/-- A number in lower-case hexadecimal with at least `width` digits. -/
def hex (width n : Nat) : List Char :=
  let ds := Nat.toDigits 16 n
  List.replicate (width - ds.length) '0' ++ ds

/-- A code point without printed form as an escape of two, four or eight digits. -/
def escapeCode (n : Nat) : List Char :=
  if n < 0x100 then '\\' :: 'x' :: hex 2 n
  else if n < 0x10000 then '\\' :: 'u' :: hex 4 n
  else '\\' :: 'U' :: hex 8 n

/-- One code point inside the given quotes. -/
def quotePoint (mark : Char) : CodePoint → List Char
  | .half i => escapeCode (CodePoint.half i).number
  | .char c =>
    if c = mark ∨ c = '\\' then ['\\', c]
    else if c = '\n' then ['\\', 'n']
    else if c = '\r' then ['\\', 'r']
    else if c = '\t' then ['\\', 't']
    else if isPrinting c then [c]
    else escapeCode c.toNat

/-- Double quotes when the text holds a single one and no double one, else single quotes. -/
def quoteMark (t : Text) : Char :=
  if .char '\x27' ∈ t.points ∧ .char '\x22' ∉ t.points then '\x22' else '\x27'

/-- The text between quotes. -/
def quote (t : Text) : String :=
  let mark := quoteMark t
  String.ofList (mark :: t.points.flatMap (quotePoint mark) ++ [mark])

/-- The text as a string, with an escape in place of each half pair. -/
def spelled (t : Text) : String :=
  String.ofList (t.points.flatMap fun p =>
    match p with
    | .char c => [c]
    | .half i => escapeCode (CodePoint.half i).number)

end CallGraphs.Text
