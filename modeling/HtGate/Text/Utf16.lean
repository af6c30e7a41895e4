import HtGate.Text.Utf8
/-!
# UTF-16 and UTF-32

Texts in units of two or four bytes, with the byte that counts most first or last. Characters beyond the
first 65536 take two units of two bytes, a high surrogate and a low one; a surrogate by itself is no
character.
-/

namespace HtGate

/-- Which byte of a unit comes first. -/
inductive ByteOrder where
  /-- The one that counts most. -/
  | big
  /-- The one that counts least. -/
  | little
  deriving DecidableEq, Repr

/-- The number that the bytes of a unit write. -/
def ByteOrder.number : ByteOrder → Bytes → Nat
  | big, bytes => bytes.foldl (fun n b => n * 256 + b.toNat) 0
  | little, bytes => bytes.foldr (fun b n => n * 256 + b.toNat) 0

namespace Utf16

/-- Whether a unit is the first of two. -/
def isHigh (unit : Nat) : Bool := 0xD800 ≤ unit && unit < 0xDC00

/-- Whether a unit is the second of two. -/
def isLow (unit : Nat) : Bool := 0xDC00 ≤ unit && unit < 0xE000

/-- The character of two units. -/
def pair (high low : Nat) : Char := Char.ofNat (0x10000 + (high - 0xD800) * 1024 + (low - 0xDC00))

/-- The text of units. -/
def ofUnits : List Nat → Option Text
  | [] => some []
  | high :: low :: rest =>
    if isHigh high then
      if isLow low then (ofUnits rest).map (pair high low :: ·) else none
    else if isLow high then none
    else (ofUnits (low :: rest)).map (Char.ofNat high :: ·)
  | [unit] => if isHigh unit || isLow unit then none else some [Char.ofNat unit]

/-- The units of bytes, which should be even in number. -/
def units (order : ByteOrder) : Bytes → Option (List Nat)
  | [] => some []
  | [_] => none
  | a :: b :: rest => (units order rest).map (order.number [a, b] :: ·)

/-- The text of bytes in units of two. -/
def decode (order : ByteOrder) (bytes : Bytes) : Option Text := (units order bytes).bind ofUnits

end Utf16

namespace Utf32

/-- The text of bytes in units of four. -/
def decode (order : ByteOrder) : Bytes → Option Text
  | [] => some []
  | a :: b :: c :: d :: rest => do
    let first ← Utf8.charFrom? 0 (order.number [a, b, c, d])
    let text ← decode order rest
    some (first :: text)
  | _ => none

end Utf32

end HtGate
