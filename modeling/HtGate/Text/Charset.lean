import HtGate.Text.Case
import HtGate.Text.Malformed
/-!
# Character sets

The character sets that a header may name. What a byte does not stand for in one is read as a mark.
-/

namespace HtGate

/-- A character set. -/
inductive Charset where
  | ascii
  | latin1
  | utf8
  deriving DecidableEq, Repr

namespace Charset

/-- The character set with a name, in any case. -/
def named? (name : Text) : Option Charset :=
  match String.ofList (Text.lower name) with
  | "ascii" | "us-ascii" => some ascii
  | "iso-8859-1" => some latin1
  | "utf-8" => some utf8
  | _ => none

/-- The text of bytes. -/
def decode : Charset → Bytes → Text
  | ascii, bytes => bytes.map fun b => if b.toNat < 0x80 then Char.ofNat b.toNat else '\ufffd'
  | latin1, bytes => bytes.map fun b => Char.ofNat b.toNat
  | utf8, bytes => Utf8.lenient bytes

end Charset

end HtGate
