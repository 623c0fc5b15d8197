/-!
# Texts

The texts of documents. An escape may spell one half of a surrogate pair without the other, which is
no character, so a text is a list of code points: characters and such halves. Where only characters
have a place, a half is replaced or refused.
-/

namespace CallGraphs

/-- A code point: a character, or half of a surrogate pair by its number among the halves. -/
inductive CodePoint where
  | char (c : Char)
  | half (index : Fin 2048)
  deriving DecidableEq, Repr

namespace CodePoint

/-- The first code unit that is half a pair. -/
def firstHalf : Nat := 0xD800

/-- The number of a code point. -/
def number : CodePoint → Nat
  | char c => c.toNat
  | half i => firstHalf + i

/-- The code point of a code unit of sixteen bits. -/
def ofUnit (unit : Nat) : CodePoint :=
  if h : unit - firstHalf < 2048 ∧ firstHalf ≤ unit then half ⟨unit - firstHalf, h.1⟩
  else char (Char.ofNat unit)

/-- Whether a code point is half a pair. -/
def isHalf : CodePoint → Bool
  | char _ => false
  | half _ => true

/-- The character that a code point is. -/
def char? : CodePoint → Option Char
  | char c => some c
  | half _ => none

end CodePoint

/-- A text. -/
structure Text where
  points : List CodePoint
  deriving DecidableEq, Repr

namespace Text

/-- The text of some characters. -/
def ofChars (cs : List Char) : Text :=
  ⟨cs.map .char⟩

/-- A string as a text. -/
def ofString (s : String) : Text :=
  ofChars s.toList

instance : Coe String Text :=
  ⟨ofString⟩

instance : Inhabited Text :=
  ⟨⟨[]⟩⟩

instance : Append Text :=
  ⟨fun s t => ⟨s.points ++ t.points⟩⟩

/-- Whether a text has no code points. -/
def isEmpty (t : Text) : Bool :=
  t.points.isEmpty

/-- Texts with another one in between. -/
def intercalate (between : Text) : List Text → Text
  | [] => ⟨[]⟩
  | [t] => t
  | t :: ts => t ++ between ++ intercalate between ts

/-- The numbers of the code points, by which texts are ordered. -/
def numbers (t : Text) : List Nat :=
  t.points.map CodePoint.number

/-- The characters of a text with others in place of each half pair. -/
def charsWith (standIn : List Char) (t : Text) : List Char :=
  t.points.flatMap fun p =>
    match p with
    | .char c => [c]
    | .half _ => standIn

/-- The text as a string, with three replacement characters, one for each byte, in place of a half
pair. -/
def lossy (t : Text) : String :=
  String.ofList (t.charsWith ['\ufffd', '\ufffd', '\ufffd'])

/-- The characters of a text that has no half pairs. -/
def chars? (t : Text) : Option (List Char) :=
  t.points.mapM CodePoint.char?

/-- The code points of a text in which each run of characters between half pairs is replaced; `run`
holds the characters since the last half, in reverse. -/
def mapRunsFrom (f : List Char → List Char) (run : List Char) : List CodePoint → List CodePoint
  | [] => (f run.reverse).map .char
  | .char c :: ps => mapRunsFrom f (c :: run) ps
  | .half i :: ps => (f run.reverse).map .char ++ .half i :: mapRunsFrom f [] ps

/-- The text in which each run of characters between half pairs is replaced. -/
def mapRuns (f : List Char → List Char) (t : Text) : Text :=
  ⟨mapRunsFrom f [] t.points⟩

/-- Half pairs that follow each other in a text: the position of the first, its code unit, and how
many there are. -/
structure Halves where
  position : Nat
  unit : Nat
  length : Nat
  deriving DecidableEq, Repr

/-- The first half pairs of a text. -/
def halves? (t : Text) : Option Halves :=
  let rest := t.points.dropWhile fun p => !p.isHalf
  match rest.takeWhile CodePoint.isHalf with
  | [] => none
  | p :: ps => some ⟨t.points.length - rest.length, p.number, ps.length + 1⟩

theorem ofString_injective {s t : String} (h : ofString s = ofString t) : s = t := by
  have hp : s.toList.map CodePoint.char = t.toList.map CodePoint.char := congrArg points h
  exact String.toList_inj.mp ((List.map_inj_right fun _ _ => CodePoint.char.inj).mp hp)

@[simp] theorem ofString_inj {s t : String} : ofString s = ofString t ↔ s = t :=
  ⟨ofString_injective, congrArg ofString⟩

end Text

end CallGraphs
