import HtGate.Text.Digit
import HtGate.Text.Utf8
/-!
# Percent signs

In addresses a byte may be written in hexadecimal after a percent sign. A percent sign that is not followed
by two hexadecimal digits stands for itself, and so do characters beyond ASCII.
-/

namespace HtGate.Percent

/-- The bytes of a run of ASCII characters, where percent signs are resolved. -/
def bytesOf : Text → Bytes
  | [] => []
  | '%' :: a :: b :: rest =>
    match Text.hexValue? a, Text.hexValue? b with
    | some high, some low => (high * 16 + low).toUInt8 :: bytesOf rest
    | _, _ => '%'.toNat.toUInt8 :: bytesOf (a :: b :: rest)
  | c :: rest => c.toNat.toUInt8 :: bytesOf rest
termination_by t => t.length

/-- The text that a text stands for, from a position within a run of ASCII characters on. Those of the run
that have been read are in `run`, the last first. The bytes of a run are a text of their own. -/
def resolveFrom (decode : Bytes → Text) (run : Text) : Text → Text
  | [] => decode (bytesOf run.reverse)
  | c :: rest =>
    if c.toNat < 0x80 then resolveFrom decode (c :: run) rest
    else decode (bytesOf run.reverse) ++ c :: resolveFrom decode [] rest

/-- The text that a text with percent signs stands for, if `decode` reads bytes. -/
def resolve (decode : Bytes → Text) (t : Text) : Text := resolveFrom decode [] t

/-- A byte in hexadecimal after a percent sign. -/
def encodeByte (b : UInt8) : Text := '%' :: [b.toNat / 16, b.toNat % 16].map upperDigit
where
  /-- One hexadecimal digit in upper case. -/
  upperDigit (n : Nat) : Char := if n < 10 then Char.ofNat (48 + n) else Char.ofNat (55 + n)

end HtGate.Percent
