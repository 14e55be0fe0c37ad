/-!
# UTF-8

Bytes are decoded strictly: a sequence that is too long, a surrogate or a value above the last
code point is refused, and so is a sequence that breaks off. The refusal names the bytes at fault,
which are the longest start of a good sequence, or one byte that starts none.

## Main definitions

* `DecodeError`: the bytes at fault and the reason
* `decodeUtf8`: the characters of a sequence of bytes
* `plainNewlines`: every end of line as a line feed
-/

namespace SmallLisp.Text

/-- The reasons to refuse bytes. -/
inductive DecodeReason where
  | invalidStart
  | invalidContinuation
  | unexpectedEnd
  deriving DecidableEq, Repr

/-- The wording of a reason. -/
def DecodeReason.message : DecodeReason → String
  | .invalidStart => "invalid start byte"
  | .invalidContinuation => "invalid continuation byte"
  | .unexpectedEnd => "unexpected end of data"

/-- The bytes at fault: their position, how many they are, and the first of them. -/
structure DecodeError where
  position : Nat
  count : Nat
  byte : Nat
  reason : DecodeReason
  deriving DecidableEq, Repr

/-- The two hexadecimal digits of a byte. -/
def byteText (byte : Nat) : String :=
  String.ofList [Nat.digitChar (byte / 16), Nat.digitChar (byte % 16)]

/-- The wording of a refusal. -/
def DecodeError.message (e : DecodeError) : String :=
  if e.count = 1 then
    s!"'utf-8' codec can't decode byte 0x{byteText e.byte} in position {e.position}: " ++
      e.reason.message
  else
    s!"'utf-8' codec can't decode bytes in position {e.position}-{e.position + e.count - 1}: " ++
      e.reason.message

/-- What a first byte asks for: the bits it gives, how many bytes follow, and the least and the
greatest second byte. -/
def leadByte? (b : Nat) : Option (Nat × Nat × Nat × Nat) :=
  if 0xC2 ≤ b && b ≤ 0xDF then some (b - 0xC0, 1, 0x80, 0xBF)
  else if b == 0xE0 then some (0, 2, 0xA0, 0xBF)
  else if b == 0xED then some (0xD, 2, 0x80, 0x9F)
  else if 0xE1 ≤ b && b ≤ 0xEF then some (b - 0xE0, 2, 0x80, 0xBF)
  else if b == 0xF0 then some (0, 3, 0x90, 0xBF)
  else if 0xF1 ≤ b && b ≤ 0xF3 then some (b - 0xF0, 3, 0x80, 0xBF)
  else if b == 0xF4 then some (4, 3, 0x80, 0x8F)
  else none

/-- A sequence under way: where it began, its first byte, how many bytes were read and are still
to come, the bits so far, and the least and greatest next byte. -/
structure Multibyte where
  start : Nat
  byte : Nat
  read : Nat
  left : Nat
  bits : Nat
  least : Nat
  greatest : Nat

/-- Decodes the bytes from a position on, with the characters before them in reverse. -/
def decodeFrom (position : Nat) (under : Option Multibyte) (done : List Char) :
    List UInt8 → Except DecodeError (List Char)
  | [] =>
    match under with
    | some p => .error ⟨p.start, p.read, p.byte, .unexpectedEnd⟩
    | none => .ok done.reverse
  | byte :: bytes =>
    let b := byte.toNat
    match under with
    | some p =>
      if p.least ≤ b && b ≤ p.greatest then
        let bits := p.bits * 64 + (b - 0x80)
        if p.left = 1 then decodeFrom (position + 1) none (Char.ofNat bits :: done) bytes
        else
          let next : Multibyte :=
            ⟨p.start, p.byte, p.read + 1, p.left - 1, bits, 0x80, 0xBF⟩
          decodeFrom (position + 1) (some next) done bytes
      else .error ⟨p.start, p.read, p.byte, .invalidContinuation⟩
    | none =>
      if b < 0x80 then decodeFrom (position + 1) none (Char.ofNat b :: done) bytes
      else
        match leadByte? b with
        | some (bits, left, least, greatest) =>
          decodeFrom (position + 1) (some ⟨position, b, 1, left, bits, least, greatest⟩) done bytes
        | none => .error ⟨position, 1, b, .invalidStart⟩

/-- The text that a sequence of bytes encodes. -/
def decodeUtf8 (bytes : List UInt8) : Except DecodeError String :=
  (decodeFrom 0 none [] bytes).map String.ofList

/-- Every end of line as a line feed, also where it was a carriage return, alone or before a line
feed. -/
def plainNewlines : List Char → List Char
  | [] => []
  | '\r' :: '\n' :: cs => '\n' :: plainNewlines cs
  | '\r' :: cs => '\n' :: plainNewlines cs
  | c :: cs => c :: plainNewlines cs

end SmallLisp.Text
