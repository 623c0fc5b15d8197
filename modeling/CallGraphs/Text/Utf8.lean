/-!
# UTF-8

Encoding of characters as bytes, and strict decoding that names the first offending byte. Overlong
forms, surrogates and code points past the last one are refused.
-/

namespace CallGraphs.Text.Utf8

/-- Why bytes are not UTF-8. -/
inductive Reason where
  /-- The byte cannot begin a character. -/
  | invalidStart
  /-- A character breaks off before its last byte. -/
  | invalidContinuation
  /-- The bytes end inside a character. -/
  | unexpectedEnd
  deriving DecidableEq, Repr

def Reason.text : Reason → String
  | .invalidStart => "invalid start byte"
  | .invalidContinuation => "invalid continuation byte"
  | .unexpectedEnd => "unexpected end of data"

/-- The place where decoding stopped: the offending byte, its position, and how many bytes belong to
the broken character. -/
structure Fault where
  byte : UInt8
  position : Nat
  length : Nat
  reason : Reason
  deriving DecidableEq, Repr

/-- The bytes of one character. -/
def encodeChar (c : Char) : List UInt8 :=
  let n := c.toNat
  if n < 0x80 then [n.toUInt8]
  else if n < 0x800 then [(0xC0 + n / 0x40).toUInt8, (0x80 + n % 0x40).toUInt8]
  else if n < 0x10000 then
    [(0xE0 + n / 0x1000).toUInt8, (0x80 + n / 0x40 % 0x40).toUInt8, (0x80 + n % 0x40).toUInt8]
  else
    [(0xF0 + n / 0x40000).toUInt8, (0x80 + n / 0x1000 % 0x40).toUInt8,
     (0x80 + n / 0x40 % 0x40).toUInt8, (0x80 + n % 0x40).toUInt8]

/-- The bytes of a text. -/
def encode (cs : List Char) : List UInt8 :=
  cs.flatMap encodeChar

/-- Whether a byte continues a character. -/
def isTail (b : UInt8) : Bool :=
  0x80 ≤ b && b < 0xC0

/-- Whether `second` may follow `first`: a continuation byte that makes neither an overlong form, nor a
surrogate, nor a code point past the last one. -/
def isSecond (first second : UInt8) : Bool :=
  isTail second &&
  (if first == 0xE0 then 0xA0 ≤ second
   else if first == 0xED then second < 0xA0
   else if first == 0xF0 then 0x90 ≤ second
   else if first == 0xF4 then second < 0x90
   else true)

/-- The number of bytes of a character that begins with `first`; none where no character does. -/
def width? (first : UInt8) : Option Nat :=
  if first < 0x80 then some 1
  else if first < 0xC2 then none
  else if first < 0xE0 then some 2
  else if first < 0xF0 then some 3
  else if first < 0xF5 then some 4
  else none

/-- What is left of a code point in a continuation byte. -/
def payload (b : UInt8) : Nat :=
  b.toNat % 0x40

/-- The first character of non-empty bytes and the bytes after it, or the length and the reason of
what stands there instead. -/
def step (first : UInt8) (rest : List UInt8) : Except (Nat × Reason) (Char × List UInt8) :=
  match width? first with
  | none => .error (1, .invalidStart)
  | some 1 => .ok (Char.ofNat first.toNat, rest)
  | some 2 =>
    match rest with
    | [] => .error (1, .unexpectedEnd)
    | b :: rest =>
      if isTail b then .ok (Char.ofNat (first.toNat % 0x20 * 0x40 + payload b), rest)
      else .error (1, .invalidContinuation)
  | some 3 =>
    match rest with
    | [] => .error (1, .unexpectedEnd)
    | b :: rest =>
      if isSecond first b then
        match rest with
        | [] => .error (2, .unexpectedEnd)
        | c :: rest =>
          if isTail c then
            .ok (Char.ofNat (first.toNat % 0x10 * 0x1000 + payload b * 0x40 + payload c), rest)
          else .error (2, .invalidContinuation)
      else .error (1, .invalidContinuation)
  | some _ =>
    match rest with
    | [] => .error (1, .unexpectedEnd)
    | b :: rest =>
      if isSecond first b then
        match rest with
        | [] => .error (2, .unexpectedEnd)
        | c :: rest =>
          if isTail c then
            match rest with
            | [] => .error (3, .unexpectedEnd)
            | d :: rest =>
              if isTail d then
                .ok (Char.ofNat (first.toNat % 8 * 0x40000 + payload b * 0x1000 + payload c * 0x40
                  + payload d), rest)
              else .error (3, .invalidContinuation)
          else .error (2, .invalidContinuation)
      else .error (1, .invalidContinuation)

/-- Reading a character uses up at least its first byte. -/
theorem step_length {first : UInt8} {rest rest' : List UInt8} {c : Char}
    (h : step first rest = .ok (c, rest')) : rest'.length ≤ rest.length := by
  unfold step at h
  grind

/-- Decoding with the characters read so far, in reverse, and the position of the next byte. -/
def decodeFrom (position : Nat) (bytes : List UInt8) (done : List Char) : Except Fault (List Char) :=
  match bytes with
  | [] => .ok done.reverse
  | first :: rest =>
    match h : step first rest with
    | .ok (c, rest') => decodeFrom (position + 1 + (rest.length - rest'.length)) rest' (c :: done)
    | .error (length, reason) => .error ⟨first, position, length, reason⟩
termination_by bytes.length
decreasing_by
  have := step_length h
  simp only [List.length_cons]
  omega

/-- The text that bytes spell, or the first fault. -/
def decode (bytes : List UInt8) : Except Fault (List Char) :=
  decodeFrom 0 bytes []

end CallGraphs.Text.Utf8
