import CallGraphs.Failure
import CallGraphs.Markup.Argument
import CallGraphs.Markup.Pictograph
import CallGraphs.Markup.Style
/-!
# Markup

Texts with style tags in square brackets. Output has no styles, so that rendering a text drops its
tags; it still tells whether every closing tag has something to close, and whether what is shown has a
style that can be had. A tag after an odd number of backslashes is text. Names of pictographs between
colons become pictographs.
-/

namespace CallGraphs.Markup

/-- Whether a character can start a tag. -/
def startsTag (c : Char) : Bool :=
  ('a'.toNat ≤ c.toNat && c.toNat ≤ 'z'.toNat) || c == '#' || c == '/' || c == '@'

/-- The text up to the bracket that closes a tag, and what follows. No other bracket opens before. -/
def upToClose : List Char → Option (List Char × List Char)
  | [] => none
  | c :: cs =>
    if c = ']' then some ([], cs)
    else if c = '[' then none
    else (upToClose cs).map fun r => (c :: r.1, r.2)

/-- The tag that starts after an opening bracket, and what follows its closing bracket. -/
def tag? : List Char → Option (List Char × List Char)
  | [] => none
  | c :: cs => if startsTag c then (upToClose cs).map fun r => (c :: r.1, r.2) else none

theorem upToClose_length {cs body rest : List Char} (h : upToClose cs = some (body, rest)) :
    rest.length < cs.length := by
  induction cs generalizing body with
  | nil => simp [upToClose] at h
  | cons c cs ih =>
    simp only [upToClose] at h
    split at h
    · simp only [Option.some.injEq, Prod.mk.injEq] at h
      obtain ⟨_, rfl⟩ := h
      simp
    · split at h
      · simp at h
      · obtain ⟨⟨body', rest'⟩, hr, he⟩ := Option.map_eq_some_iff.1 h
        simp only [Prod.mk.injEq] at he
        obtain ⟨_, rfl⟩ := he
        have := ih hr
        simp only [List.length_cons]
        omega

theorem tag?_length {cs body rest : List Char} (h : tag? cs = some (body, rest)) :
    rest.length < cs.length := by
  cases cs with
  | nil => simp [tag?] at h
  | cons c cs =>
    simp only [tag?] at h
    split at h
    · obtain ⟨⟨body', rest'⟩, hr, he⟩ := Option.map_eq_some_iff.1 h
      simp only [Prod.mk.injEq] at he
      obtain ⟨_, rfl⟩ := he
      have := upToClose_length hr
      simp only [List.length_cons]
      omega
    · simp at h

/-- A part of a marked-up text. -/
inductive Piece where
  | text (cs : List Char)
  | tag (position : Nat) (body : List Char)

def backslashes (n : Nat) : List Char :=
  List.replicate n '\\'

/-- The pieces that a tag after some backslashes makes: half of them, and the tag, as text if one
backslash is left over. -/
def tagPieces (start slashes : Nat) (body : List Char) : List Piece :=
  [.text (backslashes (slashes / 2)),
   if slashes % 2 = 1 then .text ('[' :: body ++ [']']) else .tag (start + slashes / 2 * 2) body]

/-- The pieces of a text, from a position on. `run` is the text since the last tag, in reverse and
without the backslashes that end it, which are counted apart. -/
def piecesFrom (position slashes : Nat) (run : List Char) (cs : List Char) : List Piece :=
  match cs with
  | [] => [.text (run.reverse ++ backslashes slashes)]
  | c :: rest =>
    if c = '\\' then piecesFrom (position + 1) (slashes + 1) run rest
    else if c = '[' then
      match h : tag? rest with
      | some (body, rest') =>
        have := tag?_length h
        .text run.reverse :: tagPieces (position - slashes) slashes body ++
          piecesFrom (position + body.length + 2) 0 [] rest'
      | none => piecesFrom (position + 1) 0 ('[' :: backslashes slashes ++ run) rest
    else piecesFrom (position + 1) 0 (c :: backslashes slashes ++ run) rest
termination_by cs.length

/-- The pieces of a text. -/
def pieces (cs : List Char) : List Piece :=
  piecesFrom 0 0 [] cs

/-- A backslash before a bracket that starts no tag is dropped. -/
def dropEscapes : List Char → List Char
  | [] => []
  | [c] => [c]
  | c :: c' :: cs =>
    if c = '\\' ∧ c' = '[' then '[' :: dropEscapes cs else c :: dropEscapes (c' :: cs)

/-- An open tag: its normal name, its parameters, and where its text starts. -/
structure OpenTag where
  name : String
  parameters : Option (List Char)
  start : Nat

namespace OpenTag

/-- The name of the style that a tag asks for. -/
def style (t : OpenTag) : List Char :=
  match t.parameters with
  | none => t.name.toList
  | some parameters => t.name.toList ++ ' ' :: parameters

/-- Whether a tag carries data rather than a style. -/
def isData (t : OpenTag) : Bool :=
  t.name.toList.head? == some '@'

/-- What is wrong with the data of a tag. -/
def dataFault? (t : OpenTag) : Option MarkupFault :=
  match t.parameters with
  | none | some [] => none
  | some parameters =>
    (argumentFault? parameters).map fun
      | .unreadable argument fault =>
        .malformedArgument argument (String.ofList parameters) fault
      | .noLiteral fault => .noLiteral (String.ofList parameters) fault

end OpenTag

/-- The text from one offset up to another, in a style. -/
structure Span where
  start : Nat
  stop : Nat
  style : List Char

/-- A text with styles. -/
structure Marked where
  text : List Char
  spans : List Span

/-- The name of a tag, which ends at an equals sign, and its parameters after it. -/
def splitTag (body : List Char) : List Char × Option (List Char) :=
  (body.takeWhile (· != '='),
   match body.dropWhile (· != '=') with
   | [] => none
   | _ :: parameters => some parameters)

/-- The normal form of the name of a tag. -/
def tagName (name : List Char) : Except MarkupFault String :=
  match normalName? name with
  | some name => .ok name
  | none => .error .missingNumber

/-- The open tag that a closing tag is for, the last opened first, and the others. -/
def closed (position : Nat) (body name : List Char) (opened : List OpenTag) :
    Except MarkupFault (OpenTag × List OpenTag) :=
  if name.isEmpty then
    match opened with
    | tag :: rest => .ok (tag, rest)
    | [] => .error (.nothingOpen position)
  else do
    let name ← tagName name
    match opened.find? (·.name == name) with
    | some tag => .ok (tag, opened.eraseP (·.name == name))
    | none => .error (.unmatched (String.ofList ('[' :: body ++ [']'])) position)

/-- What is read so far: the text, the tags that are open, the last one first, and the spans of those
that are closed. -/
structure Reading where
  text : List Char
  opened : List OpenTag
  spans : List Span

namespace Reading

def empty : Reading :=
  ⟨[], [], []⟩

/-- Open or close a tag. -/
def applyTag (r : Reading) (position : Nat) (body : List Char) : Except MarkupFault Reading :=
  match splitTag body with
  | ('/' :: name, _) => do
    let (tag, opened) ← closed position body (Text.trim name) r.opened
    if tag.isData then
      match tag.dataFault? with
      | some fault => .error fault
      | none => .ok { r with opened := opened }
    else .ok { r with opened := opened, spans := ⟨tag.start, r.text.length, tag.style⟩ :: r.spans }
  | (name, parameters) => do
    let name ← tagName name
    .ok { r with opened := ⟨name, parameters, r.text.length⟩ :: r.opened }

/-- Whether a control character is left out of all output. -/
def isDropped (c : Char) : Bool :=
  [7, 8, 11, 12, 13].contains c.toNat

/-- Take the next piece of a marked-up text. -/
def add (r : Reading) : Piece → Except MarkupFault Reading
  | .text cs =>
    .ok { r with text := r.text ++ (replaceCodes (dropEscapes cs)).filter (!isDropped ·) }
  | .tag position body => r.applyTag position body

/-- The text at its end, where all tags that are still open are closed. -/
def finish (r : Reading) : Marked :=
  ⟨r.text, r.opened.map (fun tag => ⟨tag.start, r.text.length, tag.style⟩) ++ r.spans⟩

end Reading

/-- A marked-up text as a text with styles. -/
def read (cs : List Char) : Except MarkupFault Marked :=
  ((pieces cs).foldlM Reading.add .empty).map Reading.finish

namespace Span

/-- Whether the style of a span names a colour that lacks one of its numbers. -/
def isBroken (s : Span) : Bool :=
  match Style.ofName s.style with
  | .error .missingNumber => true
  | _ => false

/-- Whether a span shows in a text that takes a number of lines. A span without text shows only on a
single line without tabs. -/
def isShown (s : Span) (cs : List Char) (lines : Nat) : Bool :=
  if s.start < s.stop then ((cs.take s.stop).drop s.start).any (· != '\n')
  else lines == 1 && !cs.contains '\n' && !cs.contains '\t'

end Span

/-- The text without the blanks at its end, and what is left of the spans. -/
def Marked.trimRight (m : Marked) : Marked :=
  let text := Text.trimRight m.text
  if text.length = m.text.length then m
  else ⟨text, (m.spans.filter (·.start < text.length)).map fun s =>
    { s with stop := min s.stop text.length }⟩

/-- Whether a text that takes a number of lines shows a style that cannot be had. -/
def Marked.isBroken (m : Marked) (lines : Nat) : Bool :=
  m.spans.any fun s => s.isBroken && s.isShown m.text lines

/-- The text with a backslash before each bracket that would start a tag. -/
def escapeFrom (slashes : Nat) (cs : List Char) : List Char :=
  match cs with
  | [] => backslashes slashes
  | c :: rest =>
    if c = '\\' then escapeFrom (slashes + 1) rest
    else if c = '[' then
      match h : tag? rest with
      | some (body, rest') =>
        have := tag?_length h
        backslashes (2 * slashes + 1) ++ '[' :: body ++ ']' :: escapeFrom 0 rest'
      | none => backslashes slashes ++ '[' :: escapeFrom 0 rest
    else backslashes slashes ++ c :: escapeFrom 0 rest
termination_by cs.length

/-- The text as markup for itself. A single backslash at its end is doubled. -/
def escape (cs : List Char) : List Char :=
  let escaped := escapeFrom 0 cs
  match escaped.reverse with
  | '\\' :: '\\' :: _ => escaped
  | '\\' :: _ => escaped ++ ['\\']
  | _ => escaped

end CallGraphs.Markup
