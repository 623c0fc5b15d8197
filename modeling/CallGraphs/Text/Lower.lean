import CallGraphs.Text.Basic
import CallGraphs.Text.CaseTable
import CallGraphs.Text.Ranges
/-!
# Lower case

Lower-casing of text. Two letters need more than a table: the dotted capital `İ` becomes two
characters, and a capital sigma becomes the final form at the end of a word.
-/

namespace CallGraphs.Text

/-- Characters that do not count as neighbours when a sigma looks for letters around it. -/
def isCaseIgnorable (c : Char) : Bool :=
  inRanges caseIgnorableRanges c.toNat

/-- Letters with case, among the characters that are not looked through. -/
def isCased (c : Char) : Bool :=
  if c.toNat < 0x80 then c.isAlpha else inRanges casedRanges c.toNat

/-- The small letter of a single character, which is the character itself where it has none. -/
def lowerChar (c : Char) : Char :=
  if c.toNat < 0x80 then c.toLower
  else
    match lowerRuns.find? fun r =>
      r.first ≤ c.toNat && c.toNat ≤ r.last && (c.toNat - r.first) % r.step == 0 with
    | some r => Char.ofNat (c.toNat + r.shift).toNat
    | none => c

/-- Whether the next character that counts is a letter with case. -/
def casedAhead (rest : List Char) : Bool :=
  match rest.dropWhile isCaseIgnorable with
  | [] => false
  | c :: _ => isCased c

/-- The lower case of one character, between the letter before it and the text after it. -/
def lowerIn (casedBefore : Bool) (c : Char) (rest : List Char) : List Char :=
  if c = 'Σ' then [if casedBefore && !casedAhead rest then 'ς' else 'σ']
  else if c = 'İ' then ['i', '\u0307']
  else [lowerChar c]

/-- Lower case from left to right; `casedBefore` tells whether the last character that counts was a
letter with case. -/
def lowerFrom (casedBefore : Bool) : List Char → List Char
  | [] => []
  | c :: rest =>
    lowerIn casedBefore c rest ++
      lowerFrom (if isCaseIgnorable c then casedBefore else isCased c) rest

/-- The text in lower case. -/
def lower (cs : List Char) : List Char :=
  lowerFrom false cs

/-- The text in lower case. Half a pair is neither a letter nor looked through. -/
def lowered (t : Text) : Text :=
  t.mapRuns lower

end CallGraphs.Text
