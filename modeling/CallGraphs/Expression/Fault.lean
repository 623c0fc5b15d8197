import CallGraphs.Text.Quoted
/-!
# Faults of expressions

What can be wrong with the text of an expression, and the wording of each cause.
-/

namespace CallGraphs.Expression

/-- How the digits of a number are read. -/
inductive Numeral where
  | decimal
  | hexadecimal
  | octal
  | binary
  | imaginary
  deriving DecidableEq, Repr

def Numeral.name : Numeral → String
  | decimal => "decimal"
  | hexadecimal => "hexadecimal"
  | octal => "octal"
  | binary => "binary"
  | imaginary => "imaginary"

/-- What is wrong with an escape in a quoted text. -/
inductive EscapeFault where
  | shortByte
  | shortUnit
  | shortPoint
  | beyondRange
  | badName
  | trailing
  deriving DecidableEq, Repr

def EscapeFault.text : EscapeFault → String
  | shortByte => "truncated \\xXX escape"
  | shortUnit => "truncated \\uXXXX escape"
  | shortPoint => "truncated \\UXXXXXXXX escape"
  | beyondRange => "illegal Unicode character"
  | badName => "malformed \\N character escape"
  | trailing => "\\ at end of string"

/-- Why a text is no expression. -/
inductive Fault where
  | unclosed (bracket : Char)
  | unmatched (bracket : Char)
  /-- A bracket closes another kind of bracket, which may have been opened on an earlier line. -/
  | mismatched (closing opening : Char) (line : Option Nat)
  | tooDeep
  | unfinished
  | afterContinuation
  | badNumber (n : Numeral)
  | badDigit (digit : Char) (n : Numeral)
  | leadingZeros
  | openText (line : Nat)
  | openLongText (line : Nat)
  | stray (c : Char)
  | nullCharacter
  | indented
  | unevenIndent
  | mixedTexts
  | wideBytes
  /-- An escape that cannot be read, between two offsets. -/
  | badEscape (first last : Nat) (fault : EscapeFault)
  | badByteEscape (position : Nat)
  | malformed
  | missingComma
  | missingElse
  | missingCall (name : String)
  | assignedName
  | assigned (noun : String)
  | assignedWord (word : String)
  | assignedExpression
  | named (noun : String)
  | target (noun : String)
  | missingColon
  | missingValue
  | starredValue
  | starred
  | emptyStar
  | doubleStarred
  | starredComprehension
  | doubleStarredComprehension
  | bareTarget
  | bareGenerator
  | starAfterMapping
  | positionalAfterMapping
  | positionalAfterKeyword
  deriving DecidableEq, Repr

/-- A character's number in hexadecimal, as in `U+20AC`. -/
def pointText (c : Char) : String :=
  "U+" ++ String.ofList ((Text.hex 4 c.toNat).map Char.toUpper)

def Fault.message : Fault → String
  | unclosed bracket => "'" ++ bracket.toString ++ "' was never closed"
  | unmatched bracket => "unmatched '" ++ bracket.toString ++ "'"
  | mismatched closing opening line =>
    "closing parenthesis '" ++ closing.toString ++ "' does not match opening parenthesis '" ++
      opening.toString ++ "'" ++
      (match line with
       | some n => " on line " ++ toString n
       | none => "")
  | tooDeep => "too many nested parentheses"
  | unfinished => "unexpected EOF while parsing"
  | afterContinuation => "unexpected character after line continuation character"
  | badNumber n => "invalid " ++ n.name ++ " literal"
  | badDigit digit n => "invalid digit '" ++ digit.toString ++ "' in " ++ n.name ++ " literal"
  | leadingZeros =>
    "leading zeros in decimal integer literals are not permitted; use an 0o prefix for octal integers"
  | openText line => "unterminated string literal (detected at line " ++ toString line ++ ")"
  | openLongText line =>
    "unterminated triple-quoted string literal (detected at line " ++ toString line ++ ")"
  | stray c =>
    if Text.isPrinting c then "invalid character '" ++ c.toString ++ "' (" ++ pointText c ++ ")"
    else "invalid non-printable character " ++ pointText c
  | nullCharacter => "source code string cannot contain null bytes"
  | indented => "unexpected indent"
  | unevenIndent => "unindent does not match any outer indentation level"
  | mixedTexts => "cannot mix bytes and nonbytes literals"
  | wideBytes => "bytes can only contain ASCII literal characters"
  | badEscape first last fault =>
    "(unicode error) 'unicodeescape' codec can't decode " ++
      (if first = last then "byte 0x5c in position " ++ toString first
       else "bytes in position " ++ toString first ++ "-" ++ toString last) ++
      ": " ++ fault.text
  | badByteEscape position => "(value error) invalid \\x escape at position " ++ toString position
  | malformed => "invalid syntax"
  | missingComma => "invalid syntax. Perhaps you forgot a comma?"
  | missingElse => "expected 'else' after 'if' expression"
  | missingCall name =>
    "Missing parentheses in call to '" ++ name ++ "'. Did you mean " ++ name ++ "(...)?"
  | assignedName => "invalid syntax. Maybe you meant '==' or ':=' instead of '='?"
  | assigned noun => "cannot assign to " ++ noun ++ " here. Maybe you meant '==' instead of '='?"
  | assignedWord word => "cannot assign to " ++ word
  | assignedExpression => "expression cannot contain assignment, perhaps you meant \"==\"?"
  | named noun => "cannot use assignment expressions with " ++ noun
  | target noun => "cannot assign to " ++ noun
  | missingColon => "':' expected after dictionary key"
  | missingValue => "expression expected after dictionary key and ':'"
  | starredValue => "cannot use a starred expression in a dictionary value"
  | starred => "cannot use starred expression here"
  | emptyStar => "Invalid star expression"
  | doubleStarred => "cannot use double starred expression here"
  | starredComprehension => "iterable unpacking cannot be used in comprehension"
  | doubleStarredComprehension => "dict unpacking cannot be used in dict comprehension"
  | bareTarget => "did you forget parentheses around the comprehension target?"
  | bareGenerator => "Generator expression must be parenthesized"
  | starAfterMapping => "iterable argument unpacking follows keyword argument unpacking"
  | positionalAfterMapping => "positional argument follows keyword argument unpacking"
  | positionalAfterKeyword => "positional argument follows keyword argument"

end CallGraphs.Expression
