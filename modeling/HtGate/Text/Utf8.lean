import HtGate.Text.Basic
/-!
# UTF-8

Texts as bytes and back. Reading is strict: a character has one encoding, the shortest, and
surrogates have none.
-/

namespace HtGate

/-- A sequence of bytes. -/
abbrev Bytes := List UInt8

namespace Utf8

/-- The bytes of one character. -/
def encodeChar (c : Char) : Bytes :=
  let n := c.toNat
  if n < 0x80 then [n.toUInt8]
  else if n < 0x800 then [(0xC0 + n / 64).toUInt8, (0x80 + n % 64).toUInt8]
  else if n < 0x10000 then
    [(0xE0 + n / 4096).toUInt8, (0x80 + n / 64 % 64).toUInt8, (0x80 + n % 64).toUInt8]
  else
    [(0xF0 + n / 262144).toUInt8, (0x80 + n / 4096 % 64).toUInt8, (0x80 + n / 64 % 64).toUInt8,
      (0x80 + n % 64).toUInt8]

/-- The bytes of a text. -/
def encode (t : Text) : Bytes := t.flatMap encodeChar

/-- The six bits of a continuation byte. -/
def continuation? (b : UInt8) : Option Nat :=
  if 0x80 ≤ b.toNat && b.toNat < 0xC0 then some (b.toNat - 0x80) else none

/-- A character above `least`, which is the smallest that needs as many bytes. -/
def charFrom? (least n : Nat) : Option Char :=
  if h : least ≤ n ∧ n.isValidChar then some (Char.ofNatAux n h.2) else none

/-- The first character of a sequence of bytes and the bytes after it. -/
def decodeChar? : Bytes → Option (Char × Bytes)
  | [] => none
  | a :: r =>
    if a.toNat < 0x80 then (charFrom? 0 a.toNat).map (·, r)
    else if a.toNat < 0xC0 then none
    else if a.toNat < 0xE0 then
      match r with
      | b :: r => do
        let b ← continuation? b
        (charFrom? 0x80 ((a.toNat - 0xC0) * 64 + b)).map (·, r)
      | _ => none
    else if a.toNat < 0xF0 then
      match r with
      | b :: c :: r => do
        let b ← continuation? b
        let c ← continuation? c
        (charFrom? 0x800 (((a.toNat - 0xE0) * 64 + b) * 64 + c)).map (·, r)
      | _ => none
    else if a.toNat < 0xF8 then
      match r with
      | b :: c :: d :: r => do
        let b ← continuation? b
        let c ← continuation? c
        let d ← continuation? d
        (charFrom? 0x10000 ((((a.toNat - 0xF0) * 64 + b) * 64 + c) * 64 + d)).map (·, r)
      | _ => none
    else none

/-- Reads characters while there are bytes, at most `fuel` of them. -/
def decodeWithin : Nat → Bytes → List Char → Option Text
  | _, [], read => some read.reverse
  | 0, _ :: _, _ => none
  | fuel + 1, b :: r, read =>
    match decodeChar? (b :: r) with
    | some (c, rest) => decodeWithin fuel rest (c :: read)
    | none => none

/-- The text that a sequence of bytes encodes. Every character takes at least one byte. -/
def decode (bytes : Bytes) : Option Text := decodeWithin bytes.length bytes []

end Utf8

end HtGate
