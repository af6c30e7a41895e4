import HtGate.Text.Decimal
import HtGate.Text.Quoted
import HtGate.Text.Utf8
/-!
# Bytes that are not UTF-8

Where and why a sequence of bytes is no UTF-8: the position of the first byte that belongs to no
character, how many bytes from there on could still have begun one, and what is wrong with what follows.
-/

namespace HtGate.Utf8

/-- Why bytes are not the start of a character. -/
inductive DefectCause where
  /-- No character starts with the byte. -/
  | start
  /-- The next byte does not continue the character. -/
  | continuation
  /-- There is no next byte. -/
  | unfinished
  deriving DecidableEq, Repr

/-- The bytes that are no character. -/
structure Defect where
  /-- The position of the first of them. -/
  position : Nat
  first : UInt8
  /-- How many they are. -/
  length : Nat
  cause : DefectCause
  deriving DecidableEq, Repr

/-- The range of the second byte of a character by the first. -/
def secondRange (first : Nat) : Nat × Nat :=
  if first = 0xE0 then (0xA0, 0xBF)
  else if first = 0xED then (0x80, 0x9F)
  else if first = 0xF0 then (0x90, 0xBF)
  else if first = 0xF4 then (0x80, 0x8F)
  else (0x80, 0xBF)

/-- What is wrong where no character starts, `a` being the first byte and `rest` what follows it. -/
def judgeBytes (a : UInt8) (rest : Bytes) : Nat × DefectCause :=
  if a.toNat < 0xC2 || 0xF5 ≤ a.toNat then (1, .start)
  else
    match rest with
    | [] => (1, .unfinished)
    | b :: rest =>
      let (lo, hi) := secondRange a.toNat
      if b.toNat < lo || hi < b.toNat then (1, .continuation)
      else
        match rest with
        | [] => (2, .unfinished)
        | c :: rest =>
          if (continuation? c).isNone then (2, .continuation)
          else if rest.isEmpty then (3, .unfinished)
          else (3, .continuation)

/-- The first defect, looked for at no more places than `fuel`, the first of which is at `position`. -/
def defectWithin : Nat → Nat → Bytes → Option Defect
  | 0, _, _ => none
  | _, _, [] => none
  | fuel + 1, position, a :: rest =>
    match decodeChar? (a :: rest) with
    | some (c, after) => defectWithin fuel (position + (encodeChar c).length) after
    | none =>
      let (length, cause) := judgeBytes a rest
      some ⟨position, a, length, cause⟩

/-- The first defect of a sequence of bytes. -/
def defect? (bytes : Bytes) : Option Defect := defectWithin bytes.length 0 bytes

namespace DefectCause

/-- The wording of a cause. -/
def message : DefectCause → Text
  | start => "invalid start byte".toList
  | continuation => "invalid continuation byte".toList
  | unfinished => "unexpected end of data".toList

end DefectCause

namespace Defect

/-- The wording of a defect. -/
def message (d : Defect) : Text :=
  let place :=
    if d.length = 1 then
      "byte 0x".toList ++ Text.hex 2 d.first.toNat ++ " in position ".toList
        ++ Text.ofNat d.position
    else
      "bytes in position ".toList ++ Text.ofNat d.position ++ '-'
        :: Text.ofNat (d.position + d.length - 1)
  "'utf-8' codec can't decode ".toList ++ place ++ ": ".toList ++ d.cause.message

end Defect

/-- The text of bytes in which those that are no character stand for what `mend` makes of them. Every step
takes a byte at least, so their number bounds that of the steps and of the places to look at. -/
def mendWithin (mend : Bytes → Text) : Nat → Bytes → Text
  | 0, _ => []
  | fuel + 1, bytes =>
    match defectWithin fuel 0 bytes with
    | none => (decode bytes).getD []
    | some d =>
      let rest := bytes.drop d.position
      (decode (bytes.take d.position)).getD [] ++ mend (rest.take d.length)
        ++ mendWithin mend fuel (rest.drop d.length)

/-- The text of bytes in which those that are no character stand for what `mend` makes of them. -/
def mended (mend : Bytes → Text) (bytes : Bytes) : Text := mendWithin mend (bytes.length + 1) bytes

/-- The text of bytes, with a mark in the place of those that are no character. -/
def lenient : Bytes → Text := mended fun _ => ['\ufffd']

end HtGate.Utf8
