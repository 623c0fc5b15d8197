import CallGraphs.Expression.Token
/-!
# Escapes in quoted texts

Whether the escapes in a quoted text can be read. Their offsets count a character beyond ASCII as the
ten characters of its escape.
-/

namespace CallGraphs.Expression

/-- Whether a character is a hexadecimal digit. -/
def isHexDigit (c : Char) : Bool :=
  c.isDigit || ('a' ≤ c.toLower && c.toLower ≤ 'f')

/-- The hexadecimal digits at the start of a text, at most so many. -/
def hexDigits (most : Nat) (cs : List Char) : List Char :=
  (cs.take most).takeWhile isHexDigit

/-- The number that hexadecimal digits write. -/
def hexNumber (cs : List Char) : Nat :=
  cs.foldl (fun n c =>
    16 * n + (if c.isDigit then c.toNat - 0x30 else c.toLower.toNat - 0x61 + 10)) 0

/-- The fault of an escape with a fixed number of digits at an offset. -/
def digitsFault? (offset count : Nat) (fault : EscapeFault) (cs : List Char) : Option Fault :=
  let found := (hexDigits count cs).length
  if found < count then some (.badEscape offset (offset + 1 + found) fault)
  else if 0x10FFFF < hexNumber (cs.take count) then
    some (.badEscape offset (offset + 1 + count) .beyondRange)
  else none

/-- The first fault of the escapes of a text, from an offset on. -/
def escapeFault? (offset : Nat) : List Char → Option Fault
  | [] => none
  | ['\\'] => some (.badEscape offset offset .trailing)
  | '\\' :: c :: rest =>
    let fault :=
      if c = 'x' then digitsFault? offset 2 .shortByte rest
      else if c = 'u' then digitsFault? offset 4 .shortUnit rest
      else if c = 'U' then digitsFault? offset 8 .shortPoint rest
      else if c = 'N' ∧ rest.head? ≠ some '\x7b' then
        some (.badEscape offset (offset + 1) .badName)
      else none
    fault.or (escapeFault? (offset + (if c.toNat < 0x80 then 2 else 11)) rest)
  | c :: rest => escapeFault? (offset + (if c.toNat < 0x80 then 1 else 10)) rest

/-- The first fault of the escapes of a sequence of bytes, from an offset on. -/
def byteEscapeFault? (offset : Nat) : List Char → Option Fault
  | [] => none
  | '\\' :: c :: rest =>
    if c = 'x' ∧ (hexDigits 2 rest).length < 2 then some (.badByteEscape offset)
    else byteEscapeFault? (offset + 2) rest
  | _ :: rest => byteEscapeFault? (offset + 1) rest

/-- What is wrong with the content of a quoted text. Expressions inside a text are not looked at. -/
def textFault? (form : TextForm) (content : List Char) : Option Fault :=
  if form.bytes then
    if content.any (0x80 ≤ ·.toNat) then some .wideBytes
    else if form.raw then none
    else byteEscapeFault? 0 content
  else if form.raw || (form.formatted && content.any fun c => c == '\x7b' || c == '\x7d') then none
  else escapeFault? 0 content

/-- What is wrong with quoted texts one after another, which make one text. -/
def textsFault? (bytes : Option Bool) : List (TextForm × List Char) → Option Fault
  | [] => none
  | (form, content) :: rest =>
    (textFault? form content).or
      (if bytes.any (· != form.bytes) then some .mixedTexts
       else textsFault? (some form.bytes) rest)

end CallGraphs.Expression
