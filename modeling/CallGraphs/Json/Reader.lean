import CallGraphs.Json.Basic
import CallGraphs.Number.Decimal
import CallGraphs.Text.Basic
import CallGraphs.Text.Lines
/-!
# Reading JSON

A reader over characters that names what it missed and where. It goes beyond the standard in one
point: the three numbers without digits may be written as `NaN`, `Infinity` and `-Infinity`. Whole
numbers of more than 4300 digits and nesting past a given depth are refused.
-/

namespace CallGraphs

namespace Json

/-- What is wrong at a place in a text. -/
inductive Fault where
  | value
  | name
  | colon
  | comma
  | extra
  | unterminated
  | control
  | escape
  | unicode
  | byteOrderMark
  deriving DecidableEq, Repr

def Fault.text : Fault → String
  | value => "Expecting value"
  | name => "Expecting property name enclosed in double quotes"
  | colon => "Expecting ':' delimiter"
  | comma => "Expecting ',' delimiter"
  | extra => "Extra data"
  | unterminated => "Unterminated string starting at"
  | control => "Invalid control character at"
  | escape => "Invalid \\escape"
  | unicode => "Invalid \\uXXXX escape"
  | byteOrderMark => "Unexpected UTF-8 BOM (decode using utf-8-sig)"

/-- Why reading stopped. A malformed text is given with what is left of it from the fault on. -/
inductive Stop where
  | malformed (fault : Fault) (rest : List Char)
  | tooManyDigits (count : Nat)
  | tooDeep (inObject : Bool)

/-- The outcome of reading the start of a text: a result and what is left. -/
abbrev Read (α : Type) := Except Stop (α × List Char)

/-- White space between the parts of a document. -/
def isSpace (c : Char) : Bool :=
  c == ' ' || c == '\t' || c == '\n' || c == '\r'

def skipSpace (cs : List Char) : List Char :=
  cs.dropWhile isSpace

/-- The digit that a hexadecimal character stands for. -/
def hexDigit? (c : Char) : Option Nat :=
  if '0' ≤ c ∧ c ≤ '9' then some (c.toNat - '0'.toNat)
  else if 'a' ≤ c ∧ c ≤ 'f' then some (c.toNat - 'a'.toNat + 10)
  else if 'A' ≤ c ∧ c ≤ 'F' then some (c.toNat - 'A'.toNat + 10)
  else none

/-- The code unit that four hexadecimal characters spell, with the text after them. A further
character must follow. -/
def codeUnit? : List Char → Option (Nat × List Char)
  | a :: b :: c :: d :: e :: rest => do
    let a ← hexDigit? a
    let b ← hexDigit? b
    let c ← hexDigit? c
    let d ← hexDigit? d
    return (((a * 16 + b) * 16 + c) * 16 + d, e :: rest)
  | _ => none

def isHighSurrogate (n : Nat) : Bool :=
  0xD800 ≤ n && n < 0xDC00

def isLowSurrogate (n : Nat) : Bool :=
  0xDC00 ≤ n && n < 0xE000

/-- The text after a second escape that starts with `u`, if there is one with five characters more.
-/
def secondUnit? : List Char → Option (List Char)
  | '\\' :: 'u' :: more => if 4 < more.length then some more else none
  | _ => none

/-- The code point of an escape that starts with `u`, given the text after the backslash. A high
surrogate joins with a low one that follows it at once. -/
def unicodeEscape (cs : List Char) : Read CodePoint :=
  match codeUnit? (cs.drop 1) with
  | none => .error (.malformed .unicode cs)
  | some (high, rest) =>
    match if isHighSurrogate high then secondUnit? rest else none with
    | none => .ok (CodePoint.ofUnit high, rest)
    | some more =>
      match codeUnit? more with
      | none => .error (.malformed .unicode ('u' :: more))
      | some (low, after) =>
        if isLowSurrogate low then
          .ok (.char (Char.ofNat (0x10000 + (high - 0xD800) * 0x400 + (low - 0xDC00))), after)
        else .ok (CodePoint.ofUnit high, rest)

/-- The character of an escape of one letter. -/
def simpleEscape? : Char → Option Char
  | '\x22' => some '\x22'
  | '\\' => some '\\'
  | '/' => some '/'
  | 'b' => some '\x08'
  | 'f' => some '\x0c'
  | 'n' => some '\n'
  | 'r' => some '\r'
  | 't' => some '\t'
  | _ => none

theorem codeUnit?_length {cs rest : List Char} {n : Nat} (h : codeUnit? cs = some (n, rest)) :
    rest.length < cs.length := by
  unfold codeUnit? at h
  split at h
  · simp only [Option.pure_def, Option.bind_eq_bind, Option.bind_eq_some_iff, Option.some.injEq,
      Prod.mk.injEq] at h
    obtain ⟨_, _, _, _, _, _, _, _, _, rfl⟩ := h
    simp only [List.length_cons]
    omega
  · simp at h

theorem secondUnit?_length {cs more : List Char} (h : secondUnit? cs = some more) :
    more.length < cs.length := by
  unfold secondUnit? at h
  split at h
  · split at h
    · cases h
      simp only [List.length_cons]
      omega
    · cases h
  · cases h

/-- An escape uses up at least its first letter. -/
theorem unicodeEscape_length {cs rest : List Char} {p : CodePoint}
    (h : unicodeEscape cs = .ok (p, rest)) : rest.length < cs.length := by
  have drop_le : (cs.drop 1).length ≤ cs.length := by simp
  unfold unicodeEscape at h
  split at h
  · cases h
  next high after hhigh =>
    have := codeUnit?_length hhigh
    split at h
    · simp only [Except.ok.injEq, Prod.mk.injEq] at h
      obtain ⟨_, rfl⟩ := h
      omega
    next more hmore =>
      have : more.length < after.length := by
        split at hmore
        · exact secondUnit?_length hmore
        · cases hmore
      split at h
      · cases h
      next low last hlow =>
        have := codeUnit?_length hlow
        split at h <;> (simp only [Except.ok.injEq, Prod.mk.injEq] at h; obtain ⟨_, rfl⟩ := h; omega)

/-- The content of a string up to its closing quote. `start` is the text from the opening quote, and
`done` holds the code points read, in reverse. -/
def stringFrom (start : List Char) (done : List CodePoint) (cs : List Char) : Read Text :=
  match cs with
  | [] => .error (.malformed .unterminated start)
  | c :: rest =>
    if c = '\x22' then .ok (⟨done.reverse⟩, rest)
    else if c = '\\' then
      match rest with
      | [] => .error (.malformed .unterminated start)
      | e :: after =>
        if e = 'u' then
          match h : unicodeEscape (e :: after) with
          | .error stop => .error stop
          | .ok (p, after') =>
            have := unicodeEscape_length h
            stringFrom start (p :: done) after'
        else
          match simpleEscape? e with
          | some ch => stringFrom start (.char ch :: done) after
          | none => .error (.malformed .escape (c :: rest))
    else if c.toNat < 0x20 then .error (.malformed .control (c :: rest))
    else stringFrom start (.char c :: done) rest
termination_by cs.length
decreasing_by
  all_goals
    simp only [List.length_cons] at *
    omega

/-- A number as it is written. -/
structure Numeral where
  negative : Bool
  whole : List Char
  fraction : List Char
  exponent : Int
  isWhole : Bool

/-- The digits before the point: a zero alone, or digits that do not start with one. -/
def wholePart? : List Char → Option (List Char × List Char)
  | [] => none
  | c :: rest =>
    if c = '0' then some ([c], rest)
    else if c.isDigit then some (c :: rest.takeWhile Char.isDigit, rest.dropWhile Char.isDigit)
    else none

/-- The digits after a point, where a digit follows it. -/
def fractionPart : List Char → Option (List Char) × List Char
  | '.' :: c :: rest =>
    if c.isDigit then (some (c :: rest.takeWhile Char.isDigit), rest.dropWhile Char.isDigit)
    else (none, '.' :: c :: rest)
  | cs => (none, cs)

/-- The exponent, where a digit follows the letter and its sign. -/
def exponentPart (cs : List Char) : Option Int × List Char :=
  match cs with
  | [] => (none, cs)
  | c :: rest =>
    if c = 'e' ∨ c = 'E' then
      let (negative, ds) :=
        match rest with
        | '-' :: ds => (true, ds)
        | '+' :: ds => (false, ds)
        | ds => (false, ds)
      let digits := ds.takeWhile Char.isDigit
      if digits.isEmpty then (none, cs)
      else
        let n : Int := Binary64.digitsToNat digits
        (some (if negative then -n else n), ds.dropWhile Char.isDigit)
    else (none, cs)

/-- The number at the start of a text; a number that goes wrong after a valid start is that start.
-/
def numeral? (cs : List Char) : Option (Numeral × List Char) :=
  let (negative, cs) :=
    match cs with
    | '-' :: rest => (true, rest)
    | rest => (false, rest)
  match wholePart? cs with
  | none => none
  | some (whole, rest) =>
    let (fraction, rest) := fractionPart rest
    let (exponent, rest) := exponentPart rest
    some (⟨negative, whole, fraction.getD [], exponent.getD 0, fraction.isNone && exponent.isNone⟩, rest)

/-- The value of a number. -/
def Numeral.toJson (n : Numeral) : Except Stop Json :=
  if n.isWhole then
    let v : Int := Binary64.digitsToNat n.whole
    match Whole.ofInt? (if n.negative then -v else v) with
    | some v => .ok (int v)
    | none => .error (.tooManyDigits n.whole.length)
  else .ok (float (Binary64.ofParts n.negative n.whole n.fraction n.exponent))

/-- The words that stand for a value. -/
def words : List (String × Json) :=
  [("null", null), ("true", bool true), ("false", bool false), ("NaN", float (.nan 0)),
   ("Infinity", float (.infinite false)), ("-Infinity", float (.infinite true))]

/-- The word at the start of a text. -/
def word? (cs : List Char) : Option (Json × List Char) :=
  words.findSome? fun w =>
    if w.1.toList.isPrefixOf cs then some (w.2, cs.drop w.1.length) else none

/-- A value that is neither a string, an array nor an object. -/
def atom (cs : List Char) : Read Json :=
  match word? cs with
  | some found => .ok found
  | none =>
    match numeral? cs with
    | none => .error (.malformed .value cs)
    | some (n, rest) =>
      match n.toJson with
      | .ok v => .ok (v, rest)
      | .error stop => .error stop

mutual

/-- A value. `depth` bounds the nesting that is left, `fuel` the steps. -/
def readValue (fuel depth : Nat) (cs : List Char) : Read Json :=
  match fuel with
  | 0 => .error (.malformed .value cs)
  | fuel + 1 =>
    match cs with
    | '\x22' :: rest => (stringFrom cs [] rest).map fun (s, rest) => (text s, rest)
    | '[' :: rest =>
      match depth with
      | 0 => .error (.tooDeep false)
      | depth + 1 =>
        match skipSpace rest with
        | ']' :: rest => .ok (array [], rest)
        | rest => (readItems fuel depth rest).map fun (items, rest) => (array items, rest)
    | '\x7b' :: rest =>
      match depth with
      | 0 => .error (.tooDeep true)
      | depth + 1 =>
        match skipSpace rest with
        | '\x7d' :: rest => .ok (object [], rest)
        | rest => (readMembers fuel depth rest).map fun (members, rest) => (ofMembers members, rest)
    | cs => atom cs
termination_by structural fuel

/-- The items of an array from the first one to the closing bracket. -/
def readItems (fuel depth : Nat) (cs : List Char) : Read (List Json) :=
  match fuel with
  | 0 => .error (.malformed .value cs)
  | fuel + 1 =>
    match readValue fuel depth cs with
    | .error stop => .error stop
    | .ok (item, rest) =>
      match skipSpace rest with
      | ']' :: rest => .ok ([item], rest)
      | ',' :: rest =>
        (readItems fuel depth (skipSpace rest)).map fun (items, rest) => (item :: items, rest)
      | rest => .error (.malformed .comma rest)
termination_by structural fuel

/-- The members of an object from the first one to the closing brace. -/
def readMembers (fuel depth : Nat) (cs : List Char) : Read (List (Text × Json)) :=
  match fuel with
  | 0 => .error (.malformed .name cs)
  | fuel + 1 =>
    match cs with
    | '\x22' :: rest =>
      match stringFrom cs [] rest with
      | .error stop => .error stop
      | .ok (name, rest) =>
        match skipSpace rest with
        | ':' :: rest =>
          match readValue fuel depth (skipSpace rest) with
          | .error stop => .error stop
          | .ok (value, rest) =>
            match skipSpace rest with
            | '\x7d' :: rest => .ok ([(name, value)], rest)
            | ',' :: rest =>
              (readMembers fuel depth (skipSpace rest)).map fun (members, rest) =>
                ((name, value) :: members, rest)
            | rest => .error (.malformed .comma rest)
        | rest => .error (.malformed .colon rest)
    | cs => .error (.malformed .name cs)
termination_by structural fuel

end

/-- Why a text is not a document. -/
inductive ReadError where
  | malformed (fault : Fault) (line column position : Nat)
  | tooManyDigits (count : Nat)
  | tooDeep (inObject : Bool)
  deriving DecidableEq, Repr

namespace ReadError

/-- A fault at the place where `rest` begins. -/
def locate (cs : List Char) (fault : Fault) (rest : List Char) : ReadError :=
  let position := cs.length - rest.length
  malformed fault (Text.lineOf cs position) (Text.columnOf cs position) position

def message : ReadError → String
  | malformed fault line column position =>
    fault.text ++ ": line " ++ toString line ++ " column " ++ toString column ++ " (char " ++
      toString position ++ ")"
  | tooManyDigits count =>
    "Exceeds the limit (" ++ toString maxDigits ++
      " digits) for integer string conversion: value has " ++ toString count ++
      " digits; use sys.set_int_max_str_digits() to increase the limit"
  | tooDeep inObject =>
    "maximum recursion depth exceeded while decoding a JSON " ++
      (if inObject then "object" else "array") ++ " from a unicode string"

end ReadError

/-- The deepest nesting that is read. -/
def maxDepth : Nat := 980

/-- The document that a text spells, with at most `depth` levels of nesting. -/
def readWithin (depth : Nat) (cs : List Char) : Except ReadError Json :=
  match cs with
  | '\ufeff' :: _ => .error (ReadError.locate cs .byteOrderMark cs)
  | _ =>
    match readValue (2 * cs.length + 2) depth (skipSpace cs) with
    | .error (.malformed fault rest) => .error (ReadError.locate cs fault rest)
    | .error (.tooManyDigits count) => .error (.tooManyDigits count)
    | .error (.tooDeep inObject) => .error (.tooDeep inObject)
    | .ok (value, rest) =>
      match skipSpace rest with
      | [] => .ok value
      | rest => .error (ReadError.locate cs .extra rest)

/-- The document that a text spells. -/
def read (cs : List Char) : Except ReadError Json :=
  readWithin maxDepth cs

end Json

end CallGraphs
