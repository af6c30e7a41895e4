import HtGate.Text.Utf8
/-!
# Base64

Three bytes are written as four characters of six bits each, and an incomplete last group is filled
up with the pad. Reading is strict: other characters, an incomplete group that is not filled up and
characters after it are refused. Pads after complete groups are passed over, but not at the start. The
unused bits of the last character are not looked at.
-/

namespace HtGate.Base64

/-- The alphabet: upper-case letters, lower-case letters, digits, plus and slash. -/
def digit (n : Nat) : Char :=
  if n < 26 then Char.ofNat (65 + n)
  else if n < 52 then Char.ofNat (71 + n)
  else if n < 62 then Char.ofNat (n - 4)
  else if n = 62 then '+' else '/'

/-- The value of a character of the alphabet. -/
def digitValue? (c : Char) : Option Nat :=
  if 'A' ≤ c && c ≤ 'Z' then some (c.toNat - 65)
  else if 'a' ≤ c && c ≤ 'z' then some (c.toNat - 71)
  else if '0' ≤ c && c ≤ '9' then some (c.toNat + 4)
  else if c == '+' then some 62
  else if c == '/' then some 63
  else none

/-- The written form of a sequence of bytes. -/
def encode : Bytes → Text
  | [] => []
  | [a] => [digit (a.toNat / 4), digit (a.toNat % 4 * 16), '=', '=']
  | [a, b] =>
    [digit (a.toNat / 4), digit (a.toNat % 4 * 16 + b.toNat / 16), digit (b.toNat % 16 * 4), '=']
  | a :: b :: c :: rest =>
    digit (a.toNat / 4) :: digit (a.toNat % 4 * 16 + b.toNat / 16)
      :: digit (b.toNat % 16 * 4 + c.toNat / 64) :: digit (c.toNat % 64) :: encode rest

/-- The bytes of groups of four characters. After complete groups there may be any number of pads. -/
def decodeGroups (t : Text) : Option Bytes :=
  if t.all (· == '=') then some [] else
  match t with
  | [p, q, '=', '='] => do
    let p ← digitValue? p
    let q ← digitValue? q
    some [(p * 4 + q / 16).toUInt8]
  | [p, q, r, '='] => do
    let p ← digitValue? p
    let q ← digitValue? q
    let r ← digitValue? r
    some [(p * 4 + q / 16).toUInt8, (q % 16 * 16 + r / 4).toUInt8]
  | p :: q :: r :: s :: rest => do
    let p ← digitValue? p
    let q ← digitValue? q
    let r ← digitValue? r
    let s ← digitValue? s
    let more ← decodeGroups rest
    some ((p * 4 + q / 16).toUInt8 :: (q % 16 * 16 + r / 4).toUInt8 :: (r % 4 * 64 + s).toUInt8
      :: more)
  | _ => none

/-- Reads a written form. -/
def decode (t : Text) : Option Bytes := if t.head? == some '=' then none else decodeGroups t

end HtGate.Base64
