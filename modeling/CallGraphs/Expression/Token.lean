import CallGraphs.Expression.Fault
import CallGraphs.Text.WordTable
/-!
# Tokens of expressions

The words, numbers, quoted texts and signs that an expression is written with. Some faults are met as
soon as a text is cut into tokens; others stand at its end and count only if the text is read so far.
-/

namespace CallGraphs.Expression

/-- The letters before a quoted text. -/
structure TextForm where
  bytes : Bool
  raw : Bool
  formatted : Bool
  deriving DecidableEq, Repr

inductive Token where
  | name (s : String)
  | number (imaginary : Bool)
  | text (form : TextForm) (content : List Char)
  | sign (s : String)
  | newline
  | indent
  | dedent
  | finish
  deriving DecidableEq, Repr

/-- A token, the number of brackets that are open after it, and its line. -/
structure Lexeme where
  token : Token
  depth : Nat
  line : Nat

/-- The tokens of a text, and what is met beyond the last of them. -/
structure Lexed where
  lexemes : List Lexeme
  beyond : Fault
  /-- The line of the innermost bracket that is left open. -/
  openLine : Option Nat

/-! ### Names -/

/-- Whether a character may stand in a name as far as its first look tells. -/
def isNameChar (c : Char) : Bool :=
  c.isAlphanum || c == '_' || 0x80 ≤ c.toNat

/-- Whether a character really belongs in a name. -/
def isWordChar (c : Char) : Bool :=
  Text.inRanges Text.wordRanges c.toNat

/-- The forms of quoted texts by the letters before them. -/
def textForms : List (String × TextForm) :=
  [("", ⟨false, false, false⟩), ("u", ⟨false, false, false⟩), ("b", ⟨true, false, false⟩),
   ("r", ⟨false, true, false⟩), ("f", ⟨false, false, true⟩), ("br", ⟨true, true, false⟩),
   ("rb", ⟨true, true, false⟩), ("fr", ⟨false, true, true⟩), ("rf", ⟨false, true, true⟩)]

/-! ### Numbers -/

/-- The words that may follow a number without a blank. -/
def wordsAfterNumber : List String :=
  ["and", "else", "for", "if", "in", "is", "or", "not"]

/-- What follows a number must not look like a part of it. -/
def endNumber (n : Numeral) (rest : List Char) : Except Fault Unit :=
  if wordsAfterNumber.any fun word => word.toList.isPrefixOf rest then .ok ()
  else
    match rest with
    | c :: _ => if c.toNat < 0x80 && isNameChar c then .error (.badNumber n) else .ok ()
    | [] => .ok ()

/-- What follows a run of digits, in which single underscores may stand between digits. -/
def afterDigits (isDigit : Char → Bool) (fault : Option Char → Fault) :
    List Char → Except Fault (List Char)
  | [] => .ok []
  | c :: cs =>
    if isDigit c then afterDigits isDigit fault cs
    else if c = '_' then
      if cs.head?.any isDigit then afterDigits isDigit fault cs else .error (fault cs.head?)
    else .ok (c :: cs)

/-- What follows a run of decimal digits. -/
def afterDecimal (cs : List Char) : Except Fault (List Char) :=
  afterDigits Char.isDigit (fun _ => .badNumber .decimal) cs

/-- The fault of a character that is no digit where one has to be. -/
def digitFault (n : Numeral) : Option Char → Fault
  | some c => if c.isDigit then .badDigit c n else .badNumber n
  | none => .badNumber n

/-- The rest of a number in a notation with a letter of its own, after that letter. -/
def lettered (n : Numeral) (isDigit : Char → Bool) (cs : List Char) : Except Fault (List Char) := do
  let fault := if n == .hexadecimal then fun _ => .badNumber n else digitFault n
  let cs := if cs.head? == some '_' then cs.drop 1 else cs
  match cs.head? with
  | some c => if isDigit c then pure () else throw (fault (some c))
  | none => throw (fault none)
  let rest ← afterDigits isDigit fault cs
  match rest.head? with
  | some c => if c.isDigit then throw (digitFault n (some c)) else pure ()
  | none => pure ()
  endNumber n rest
  return rest

/-- The rest of a number after its digits and its fraction: an exponent and the mark of imaginary
numbers. -/
def numberTail (cs : List Char) : Except Fault (Bool × List Char) := do
  let finish (cs : List Char) : Except Fault (Bool × List Char) := do
    match cs with
    | c :: rest =>
      if c == 'j' || c == 'J' then
        endNumber .imaginary rest
        return (true, rest)
      endNumber .decimal cs
      return (false, cs)
    | [] => return (false, [])
  match cs with
  | c :: rest =>
    if c == 'e' || c == 'E' then
      match rest with
      | s :: more =>
        if s == '+' || s == '-' then
          match more with
          | d :: _ => if d.isDigit then finish (← afterDecimal more) else throw (.badNumber .decimal)
          | [] => throw (.badNumber .decimal)
        else if s.isDigit then finish (← afterDecimal rest)
        else
          endNumber .decimal cs
          return (false, cs)
      | [] =>
        endNumber .decimal cs
        return (false, cs)
    else finish cs
  | [] => return (false, [])

/-- The rest of a number after its point. -/
def fraction (cs : List Char) : Except Fault (Bool × List Char) := do
  match cs with
  | c :: _ => if c.isDigit then numberTail (← afterDecimal cs) else numberTail cs
  | [] => return (false, [])

/-- The rest of a number after its whole part, and whether it is imaginary. -/
def afterWhole (cs : List Char) : Except Fault (Bool × List Char) :=
  match cs with
  | '.' :: rest => fraction rest
  | cs => numberTail cs

/-- The rest of a number that starts with a digit or a point, and whether it is imaginary. -/
def number (cs : List Char) : Except Fault (Bool × List Char) := do
  match cs with
  | '.' :: rest => fraction rest
  | '0' :: c :: rest =>
    if c == 'x' || c == 'X' then
      return (false, ← lettered .hexadecimal (fun d => d.isDigit || ('a' ≤ d.toLower && d.toLower ≤ 'f')) rest)
    else if c == 'o' || c == 'O' then
      return (false, ← lettered .octal (fun d => '0' ≤ d && d < '8') rest)
    else if c == 'b' || c == 'B' then
      return (false, ← lettered .binary (fun d => d == '0' || d == '1') rest)
    else
      let after ← afterDecimal cs
      let digits := cs.take (cs.length - after.length)
      match after with
      | d :: _ =>
        if d == '.' || d.toLower == 'e' || d.toLower == 'j' then afterWhole after
        else if digits.any fun d => d != '0' && d != '_' then throw .leadingZeros
        else afterWhole after
      | [] => if digits.any fun d => d != '0' && d != '_' then throw .leadingZeros else return (false, [])
  | cs => afterWhole (← afterDecimal cs)

/-! ### Quoted texts -/

/-- The content of a quoted text up to three quotes or one, what follows, and the line it ends on. -/
def quoted (mark : Char) (long : Bool) (line : Nat) (content : List Char) :
    List Char → Except Fault (List Char × List Char × Nat)
  | [] => .error (if long then .openLongText line else .openText line)
  | '\\' :: c :: rest =>
    quoted mark long (if c = '\n' then line + 1 else line) (c :: '\\' :: content) rest
  | c :: rest =>
    if c = '\n' then
      if long then quoted mark long (line + 1) (c :: content) rest else .error (.openText line)
    else if c = mark then
      if long then
        match rest with
        | c' :: c'' :: rest' =>
          if c' = mark ∧ c'' = mark then .ok (content.reverse, rest', line)
          else quoted mark long line (c :: content) rest
        | _ => quoted mark long line (c :: content) rest
      else .ok (content.reverse, rest, line)
    else quoted mark long line (c :: content) rest

/-- The quoted text that starts with a quote. -/
def quotedFrom (mark : Char) (line : Nat) (rest : List Char) :
    Except Fault (List Char × List Char × Nat) :=
  if [mark, mark].isPrefixOf rest then quoted mark true line [] (rest.drop 2)
  else quoted mark false line [] rest

/-! ### Signs -/

/-- The signs, the longest first. -/
def signs : List String :=
  ["**=", "//=", ">>=", "<<=", "...", "==", "!=", "<=", ">=", "<<", ">>", "**", "//", "+=", "-=",
   "*=", "/=", "%=", "&=", "|=", "^=", "@=", "->", ":=", "<>"]

/-- The sign that a text starts with; any other character is a sign of its own. -/
def signAt (c : Char) (rest : List Char) : String :=
  (signs.find? fun s => s.toList.isPrefixOf (c :: rest)).getD c.toString

/-- The bracket that closes a bracket. -/
def closer : Char → Char
  | '(' => ')'
  | '[' => ']'
  | _ => '\x7d'

/-- Brackets may be nested this deep. -/
def greatestDepth : Nat := 200

/-! ### Cutting a text into tokens -/

/-- What is known while a text is cut into tokens: the line, whether it just started, how far lines are
indented, the open brackets with their lines, and the tokens so far, the last one first. -/
structure Scan where
  line : Nat
  fresh : Bool
  indents : List Nat
  opened : List (Char × Nat)
  found : List Lexeme

namespace Scan

def push (s : Scan) (t : Token) : Scan :=
  { s with found := ⟨t, s.opened.length, s.line⟩ :: s.found }

def stop (s : Scan) (beyond : Fault) : Lexed :=
  ⟨s.found.reverse, match s.opened with
    | (bracket, _) :: _ => if beyond = .afterContinuation then beyond else .unclosed bracket
    | [] => beyond, s.opened.head?.map Prod.snd⟩

/-- Open or close brackets at a sign. -/
def bracket (s : Scan) (c : Char) : Except Fault Scan :=
  if c == '(' || c == '[' || c == '\x7b' then
    if greatestDepth ≤ s.opened.length then .error .tooDeep
    else .ok { s with opened := (c, s.line) :: s.opened }
  else if c == ')' || c == ']' || c == '\x7d' then
    match s.opened with
    | [] => .error (.unmatched c)
    | (opening, line) :: rest =>
      if closer opening = c then .ok { s with opened := rest }
      else .error (.mismatched c opening (if line = s.line then none else some line))
  else .ok s

/-- The indentation of a line, and the line without it. -/
def indentation (column : Nat) : List Char → Nat × List Char
  | ' ' :: rest => indentation (column + 1) rest
  | '\t' :: rest => indentation ((column / 8 + 1) * 8) rest
  | '\x0c' :: rest => indentation 0 rest
  | cs => (column, cs)

/-- Leave indentations that are deeper than a column. -/
def leave (s : Scan) (column : Nat) : List Nat → Except Fault Scan
  | [] => if column = 0 then .ok { s with indents := [] } else .error .unevenIndent
  | top :: rest =>
    if column < top then (s.push .dedent).leave column rest
    else if column = top then .ok { s with indents := top :: rest }
    else .error .unevenIndent

/-- Enter or leave an indentation at the start of a line. -/
def indent (s : Scan) (column : Nat) : Except Fault Scan :=
  if s.indents.headD 0 < column then
    .ok ({ s with indents := column :: s.indents }.push .indent)
  else s.leave column s.indents

end Scan

/-- The tokens of a text, in at most `fuel` steps. -/
def lexFrom (fuel : Nat) (s : Scan) (cs : List Char) : Except Fault Lexed :=
  match fuel with
  | 0 => .ok (s.stop .unfinished)
  | fuel + 1 =>
    if s.fresh && s.opened.isEmpty then
      let (column, rest) := Scan.indentation 0 cs
      match rest with
      | [] => lexFrom fuel { s with fresh := false } rest
      | c :: _ =>
        if c == '#' then
          let after := rest.dropWhile (· != '\n')
          lexFrom fuel { s with line := s.line + 1 } (after.drop 1)
        else if c == '\n' then lexFrom fuel { s with line := s.line + 1 } (rest.drop 1)
        else (s.indent column).bind fun s => lexFrom fuel { s with fresh := false } rest
    else
      match cs with
      | [] =>
        if s.opened.isEmpty then .ok ((s.push .finish).stop .unfinished)
        else .ok (s.stop .unfinished)
      | c :: rest =>
        if c == ' ' || c == '\t' || c == '\x0c' then lexFrom fuel s rest
        else if c == '#' then lexFrom fuel s (rest.dropWhile (· != '\n'))
        else if c == '\n' then
          let next := if s.opened.isEmpty then s.push .newline else s
          lexFrom fuel { next with line := s.line + 1, fresh := s.opened.isEmpty } rest
        else if c == '\\' then
          match rest with
          | '\n' :: rest' =>
            if rest'.isEmpty then .ok (s.stop .unfinished)
            else lexFrom fuel { s with line := s.line + 1 } rest'
          | _ => .ok (s.stop .afterContinuation)
        else if c.isDigit || (c == '.' && (rest.head?.map Char.isDigit).getD false) then do
          let (imaginary, rest) ← number cs
          lexFrom fuel (s.push (.number imaginary)) rest
        else if c == '\x22' || c == '\x27' then do
          let (content, rest, line) ← quotedFrom c s.line rest
          lexFrom fuel { s.push (.text ⟨false, false, false⟩ content) with line := line } rest
        else if isNameChar c then
          let word := cs.takeWhile isNameChar
          let rest := cs.dropWhile isNameChar
          let form := textForms.lookup (String.ofList (word.map Char.toLower))
          match form, rest with
          | some form, mark :: more =>
            if mark == '\x22' || mark == '\x27' then do
              let (content, rest, line) ← quotedFrom mark s.line more
              lexFrom fuel { s.push (.text form content) with line := line } rest
            else lexFrom fuel (s.push (.name (String.ofList word))) rest
          | _, _ =>
            match word.find? fun c => !isWordChar c with
            | some c => .error (.stray c)
            | none => lexFrom fuel (s.push (.name (String.ofList word))) rest
        else if c.toNat < 0x20 || c.toNat == 0x7F then .error (.stray c)
        else do
          let sign := signAt c rest
          let s ← s.bracket c
          lexFrom fuel (s.push (.sign sign)) (cs.drop sign.length)

/-- The tokens of a text. -/
def lex (cs : List Char) : Except Fault Lexed :=
  if cs.contains '\x00' then .error .nullCharacter
  else lexFrom (2 * cs.length + 2) ⟨1, true, [], [], []⟩ cs

end CallGraphs.Expression
