/-!
# UTF-8

Reading a sequence of bytes as UTF-8, strictly: no surrogates, no overlong forms, nothing above
U+10FFFF. A lead byte fixes how many bytes follow it and the range of the first of them, so a
sequence is given up at the earliest byte that cannot continue it, and the report covers the part
before.
-/

namespace DocHighlight.Text.Utf8

/-- What ends the reading early. -/
inductive Fault where
  | start
  | continuation
  | truncated
deriving DecidableEq, Repr

/-- The first sequence that is not UTF-8: its first byte, where it starts, how many bytes of it were
read. -/
structure Malformed where
  first : UInt8
  position : Nat
  length : Nat
  fault : Fault
deriving DecidableEq, Repr

/-- A sequence that has begun: its bits so far, the range of its next byte, and how many bytes
follow that one. -/
structure Pending where
  bits : Nat
  low : UInt8
  high : UInt8
  further : Nat
deriving DecidableEq, Repr

/-- What a byte at the start of a sequence means. -/
inductive Lead where
  | complete (c : Char)
  | open (pending : Pending)
  | invalid

/-- The lead bytes and the ranges that keep overlong forms, surrogates and too large values out. -/
def lead (byte : UInt8) : Lead :=
  if byte < 0x80 then .complete (Char.ofNat byte.toNat)
  else if byte < 0xC2 then .invalid
  else if byte < 0xE0 then .open ⟨byte.toNat - 0xC0, 0x80, 0xBF, 0⟩
  else if byte < 0xF0 then
    .open ⟨byte.toNat - 0xE0, if byte = 0xE0 then 0xA0 else 0x80,
      if byte = 0xED then 0x9F else 0xBF, 1⟩
  else if byte < 0xF5 then
    .open ⟨byte.toNat - 0xF0, if byte = 0xF0 then 0x90 else 0x80,
      if byte = 0xF4 then 0x8F else 0xBF, 2⟩
  else .invalid

/-- Where the reader stands: between two characters, or inside a sequence that began with `first`.
-/
inductive Place where
  | between
  | inside (first : UInt8) (length : Nat) (pending : Pending)

/-- Reads the bytes from a place on; `position` is the number of bytes before the character being
read. -/
def decodeFrom (position : Nat) : Place → List UInt8 → Except Malformed (List Char)
  | .between, [] => .ok []
  | .inside first length _, [] => .error ⟨first, position, length, .truncated⟩
  | .between, byte :: rest =>
      match lead byte with
      | .complete c => (decodeFrom (position + 1) .between rest).map (c :: ·)
      | .open pending => decodeFrom position (.inside byte 1 pending) rest
      | .invalid => .error ⟨byte, position, 1, .start⟩
  | .inside first length pending, byte :: rest =>
      if pending.low ≤ byte && byte ≤ pending.high then
        let bits := pending.bits * 64 + (byte.toNat - 0x80)
        match pending.further with
        | 0 => (decodeFrom (position + length + 1) .between rest).map (Char.ofNat bits :: ·)
        | further + 1 =>
            decodeFrom position (.inside first (length + 1) ⟨bits, 0x80, 0xBF, further⟩) rest
      else .error ⟨first, position, length, .continuation⟩

/-- The characters that the bytes spell, or the first sequence that spells none. -/
def decode (bytes : List UInt8) : Except Malformed (List Char) :=
  decodeFrom 0 .between bytes

def encode (text : List Char) : List UInt8 :=
  text.flatMap String.utf8EncodeChar

def Fault.message : Fault → String
  | .start => "invalid start byte"
  | .continuation => "invalid continuation byte"
  | .truncated => "unexpected end of data"

/-- Two hexadecimal digits, in lower case. -/
def hexByte (byte : UInt8) : String :=
  String.ofList [Nat.digitChar (byte.toNat / 16), Nat.digitChar (byte.toNat % 16)]

def Malformed.message (problem : Malformed) : String :=
  let place :=
    if problem.length = 1 then
      "byte 0x" ++ hexByte problem.first ++ " in position " ++ toString problem.position
    else
      "bytes in position " ++ toString problem.position ++ "-" ++
        toString (problem.position + problem.length - 1)
  "'utf-8' codec can't decode " ++ place ++ ": " ++ problem.fault.message

end DocHighlight.Text.Utf8
