/-!
# Reading UTF-8

A byte sequence is read character by character.  Each leading byte says how many bytes
follow and in which range the first of them lies; those ranges leave out overlong forms,
surrogates and numbers past the last code point.

The first fault ends the reading.  It covers the leading byte and those of the following
bytes that were still right, and it has one of three causes: the leading byte can start
nothing, a following byte is out of its range, or the bytes are at an end.
-/

namespace Reckon

namespace Utf8

/-- Why bytes cannot be read. -/
inductive Cause where
  | invalidStart
  | invalidContinuation
  | unexpectedEnd
  deriving DecidableEq, Repr

/-- The words for a cause. -/
def Cause.message : Cause → String
  | invalidStart => "invalid start byte"
  | invalidContinuation => "invalid continuation byte"
  | unexpectedEnd => "unexpected end of data"

/-- A place where reading stops: the position and value of the leading byte, the number
of bytes that the fault covers, and its cause. -/
structure Fault where
  position : Nat
  leading : UInt8
  length : Nat
  cause : Cause
  deriving DecidableEq, Repr

/-- A byte in lowercase hexadecimal.  A byte that cannot be read is never below sixteen, so
it has two digits. -/
def byteText (byte : UInt8) : String := String.ofList (Nat.toDigits 16 byte.toNat)

/-- The text of a fault. -/
def Fault.message (fault : Fault) : String :=
  let place :=
    if fault.length = 1 then s!"byte 0x{byteText fault.leading} in position {fault.position}"
    else s!"bytes in position {fault.position}-{fault.position + fault.length - 1}"
  s!"'utf-8' codec can't decode {place}: {fault.cause.message}"

/-- What a leading byte announces: the bits that it holds, how many bytes follow, and the
range of the first of them. -/
structure Announcement where
  bits : Nat
  following : Nat
  low : UInt8
  high : UInt8

/-- The announcement of a leading byte, if it can start a character. -/
def announce? (byte : UInt8) : Option Announcement :=
  let n := byte.toNat
  if n < 0x80 then some ⟨n, 0, 0, 0⟩
  else if n < 0xC2 then none
  else if n < 0xE0 then some ⟨n - 0xC0, 1, 0x80, 0xBF⟩
  else if n < 0xF0 then
    some ⟨n - 0xE0, 2, if n = 0xE0 then 0xA0 else 0x80, if n = 0xED then 0x9F else 0xBF⟩
  else if n < 0xF5 then
    some ⟨n - 0xF0, 3, if n = 0xF0 then 0x90 else 0x80, if n = 0xF4 then 0x8F else 0xBF⟩
  else none

/-- Reads the bytes that follow a leading byte: how many are still to come, the range of
the next one, the bits so far, and how many bytes have been right.  The result is the
number of the character and the bytes behind it, or the cause and the extent of a fault. -/
def following : Nat → UInt8 → UInt8 → Nat → Nat → List UInt8 →
    Except (Nat × Cause) (Nat × List UInt8)
  | 0, _, _, bits, _, bytes => .ok (bits, bytes)
  | _ + 1, _, _, _, right, [] => .error (right, .unexpectedEnd)
  | count + 1, low, high, bits, right, byte :: bytes =>
    if low ≤ byte && byte ≤ high then
      following count 0x80 0xBF (bits * 64 + byte.toNat % 64) (right + 1) bytes
    else .error (right, .invalidContinuation)

/-- What follows a leading byte is a part of what stood behind it. -/
theorem following_length {count : Nat} {low high : UInt8} {bits right : Nat}
    {bytes rest : List UInt8} {n : Nat}
    (h : following count low high bits right bytes = .ok (n, rest)) :
    rest.length ≤ bytes.length := by
  induction count generalizing low high bits right bytes with
  | zero =>
    simp only [following, Except.ok.injEq, Prod.mk.injEq] at h
    exact Nat.le_of_eq (congrArg List.length h.2.symm)
  | succ count ih =>
    cases bytes with
    | nil => simp [following] at h
    | cons byte bytes =>
      unfold following at h
      split at h
      · exact Nat.le_succ_of_le (ih h)
      · exact absurd h (by simp)

/-- Reads bytes from a position on, behind the characters already read, which stand in
reverse. -/
def decodeFrom (position : Nat) (read : List Char) : List UInt8 → Except Fault (List Char)
  | [] => .ok read.reverse
  | byte :: bytes =>
    match announce? byte with
    | none => .error ⟨position, byte, 1, .invalidStart⟩
    | some a =>
      match h : following a.following a.low a.high a.bits 1 bytes with
      | .error (length, cause) => .error ⟨position, byte, length, cause⟩
      | .ok (n, rest) => decodeFrom (position + 1 + a.following) (Char.ofNat n :: read) rest
termination_by bytes => bytes.length
decreasing_by
  exact Nat.lt_succ_of_le (following_length h)

/-- The characters that bytes stand for. -/
def decode (bytes : List UInt8) : Except Fault (List Char) := decodeFrom 0 [] bytes

end Utf8

/-- One step of `unifyBreaks`: the flag says that the character before was a carriage
return, and the text so far stands in reverse. -/
def unifyStep : Bool × List Char → Char → Bool × List Char
  | (_, text), '\r' => (true, '\n' :: text)
  | (true, text), '\n' => (false, text)
  | (_, text), c => (false, c :: text)

/-- The text with every carriage return, alone or before a line feed, made a line feed. -/
def unifyBreaks (text : List Char) : List Char :=
  (text.foldl unifyStep (false, [])).2.reverse

end Reckon
