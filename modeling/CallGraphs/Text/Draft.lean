import CallGraphs.Number.Whole
import CallGraphs.Text.Basic
/-!
# Texts to be formed

A text is formed from the texts of its parts, from left to right. Two things can stop that: a whole
number that is too long to be written, and parts that nest too deep. A draft has both sides: what
the text says, and what stops it where calls may go only so much deeper.
-/

namespace CallGraphs

/-- Why a text cannot be formed. -/
inductive TextFault where
  | tooManyDigits
  | tooDeep
  deriving DecidableEq, Repr

def TextFault.message : TextFault → String
  | tooManyDigits =>
    "Exceeds the limit (" ++ toString maxDigits ++
      " digits) for integer string conversion; use sys.set_int_max_str_digits() to increase the limit"
  | tooDeep => "maximum recursion depth exceeded while getting the repr of an object"

/-- A text with what stops it, given how much deeper calls may go. -/
structure Draft where
  text : Text
  stop? : Nat → Option TextFault

namespace Draft

/-- How deep calls may go in all. -/
def maxCalls : Nat := 1000

/-- A text that is there already. -/
def ofText (t : Text) : Draft :=
  ⟨t, fun _ => none⟩

instance : Coe Text Draft :=
  ⟨ofText⟩

instance : Coe String Draft :=
  ⟨fun s => ofText s⟩

/-- One text after another; what stops the first stops both. -/
def append (a b : Draft) : Draft :=
  ⟨a.text ++ b.text, fun room => (a.stop? room).or (b.stop? room)⟩

instance : Append Draft :=
  ⟨append⟩

/-- The digits of a whole number. -/
def ofInt (n : Int) : Draft :=
  ⟨toString n, fun _ => if fitsDigits maxDigits n.natAbs then none else some .tooManyDigits⟩

/-- A text that takes a number of calls within each other before its parts are looked at. -/
def within (calls : Nat) (d : Draft) : Draft :=
  ⟨d.text, fun room => if room < calls then some .tooDeep else d.stop? (room - calls)⟩

/-- What stops a text. -/
def fault? (d : Draft) : Option TextFault :=
  d.stop? maxCalls

/-- The text, or what stops it. -/
def form (d : Draft) : Except TextFault Text :=
  match d.fault? with
  | none => .ok d.text
  | some fault => .error fault

end Draft

end CallGraphs
