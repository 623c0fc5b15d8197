import CallGraphs.Markup.ColorNames
import CallGraphs.Text.Blank
import CallGraphs.Text.Digit
import CallGraphs.Text.Lower
/-!
# Style names

A tag is named by words for attributes and colours. Two names mean the same style if they have the
same normal form: attributes in a fixed order and spelt out, then the colour, the background and the
link. A name that is no style stands for itself, without regard to case; only a colour that lacks one
of its three numbers is refused altogether.
-/

namespace CallGraphs.Markup

/-- The attributes in the order of the normal form. -/
def attributeOrder : List String :=
  ["bold", "dim", "italic", "underline", "blink", "blink2", "reverse", "conceal", "strike",
   "underline2", "frame", "encircle", "overline"]

/-- Short spellings of attributes. -/
def shortAttributes : List (String × String) :=
  [("b", "bold"), ("d", "dim"), ("i", "italic"), ("u", "underline"), ("r", "reverse"),
   ("c", "conceal"), ("s", "strike"), ("uu", "underline2"), ("o", "overline")]

/-- The attribute that a word names. -/
def attributeNamed? (word : String) : Option String :=
  if attributeOrder.contains word then some word else shortAttributes.lookup word

/-- Why words are no style: one of them has no meaning, or a colour lacks one of its numbers. -/
inductive StyleFault where
  | unknown
  | missingNumber
  deriving DecidableEq, Repr

/-- The number that decimal digits of any script write. -/
def numberOf? (cs : List Char) : Option Nat :=
  cs.foldlM (fun n c => (Text.digitValue? c).map (10 * n + ·)) 0

/-- Whether a text is a number of at most 255. -/
def isByteNumber (cs : List Char) : Bool :=
  !cs.isEmpty && ((numberOf? cs).map (decide <| · ≤ 255)).getD false

/-- The text between an opening and a closing part. -/
def between? (opening closing : String) (cs : List Char) : Option (List Char) :=
  let o := opening.toList
  let c := closing.toList
  if o.isPrefixOf cs && c.isSuffixOf cs && o.length + c.length ≤ cs.length then
    some ((cs.drop o.length).take (cs.length - o.length - c.length))
  else none

/-- Whether a lower-case character is a hexadecimal digit. -/
def isLowerHex (c : Char) : Bool :=
  c.isDigit || ('a'.toNat ≤ c.toNat && c.toNat ≤ 'f'.toNat)

/-- The components of a colour between the parentheses of its three numbers. -/
def componentFault? (parts : List (List Char)) : Option StyleFault :=
  if parts.length ≠ 3 then some .unknown
  else if parts.any List.isEmpty then some .missingNumber
  else if parts.all isByteNumber then none
  else some .unknown

/-- What is wrong with a lower-case word as a colour, which is a name, a number of the palette, or the
three components as hexadecimal digits or as numbers. -/
def colorFault? (word : String) : Option StyleFault :=
  let cs := word.toList
  if word == "default" || colorNames.contains word then none
  else
    match cs, between? "color(" ")" cs, between? "rgb(" ")" cs with
    | '#' :: digits, _, _ =>
      if digits.length == 6 && digits.all isLowerHex then none else some .unknown
    | _, some digits, _ =>
      if digits.length ≤ 3 && digits.all Char.isDigit && isByteNumber digits then none
      else some .unknown
    | _, _, some inner =>
      if inner.isEmpty || !inner.all (fun c => c == ',' || (Text.digitValue? c).isSome) then
        some .unknown
      else componentFault? (inner.splitOn ',')
    | _, _, _ => some .unknown

/-- A style under construction. -/
structure Style where
  attributes : List (String × Bool)
  color : Option String
  background : Option String
  link : Option String

namespace Style

def empty : Style :=
  ⟨[], none, none, none⟩

/-- A word as the name of a colour. -/
def readColor (word : String) : Except StyleFault String :=
  let color := String.ofList (Text.lower word.toList)
  match colorFault? color with
  | none => .ok color
  | some fault => .error fault

/-- Take the effect of a word that needs no further word. -/
def addWord (s : Style) (word : String) : Except StyleFault Style :=
  match attributeNamed? word with
  | some attr => .ok { s with attributes := (attr, true) :: s.attributes }
  | none => (readColor word).map fun color => { s with color := some color }

/-- Take the effect of a word and of the one that it asks for. -/
def addPair (s : Style) (word next : String) : Except StyleFault Style :=
  if word == "on" then (readColor next).map fun color => { s with background := some color }
  else if word == "not" then
    match attributeNamed? next with
    | some attr => .ok { s with attributes := (attr, false) :: s.attributes }
    | none => .error .unknown
  else .ok { s with link := some next }

/-- Whether a word asks for another one. -/
def asksForMore (word : String) : Bool :=
  word == "on" || word == "not" || word == "link"

/-- The style that words add up to, later words having the last say. -/
def ofWords (s : Style) : List String → Except StyleFault Style
  | [] => .ok s
  | [word] =>
    let word := String.ofList (Text.lower word.toList)
    if asksForMore word then .error .unknown else s.addWord word
  | word :: next :: rest =>
    let word := String.ofList (Text.lower word.toList)
    if asksForMore word then (s.addPair word next).bind fun s => s.ofWords rest
    else (s.addWord word).bind fun s => s.ofWords (next :: rest)

/-- The words of the normal form. -/
def words (s : Style) : List String :=
  attributeOrder.filterMap (fun attr =>
      (s.attributes.lookup attr).map fun on => if on then attr else "not " ++ attr) ++
    s.color.toList ++
    (s.background.map fun name => ["on", name]).getD [] ++
    (s.link.map fun target => ["link", target]).getD []

/-- The normal form. -/
def name (s : Style) : String :=
  if s.words.isEmpty then "none" else " ".intercalate s.words

end Style

/-- The words of a text. -/
def wordsOf (cs : List Char) : List String :=
  ((cs.splitBy fun a b => Text.isBlank a == Text.isBlank b).filter fun word =>
    !(word.all Text.isBlank)).map String.ofList

/-- The style of a name. -/
def Style.ofName (cs : List Char) : Except StyleFault Style :=
  if Text.trim cs = "none".toList then .ok .empty else Style.empty.ofWords (wordsOf cs)

/-- The normal form of a style's name, unless a colour lacks one of its numbers. -/
def normalName? (cs : List Char) : Option String :=
  match Style.ofName cs with
  | .ok style => some style.name
  | .error .unknown => some (String.ofList (Text.lower (Text.trim cs)))
  | .error .missingNumber => none

end CallGraphs.Markup
