import HtGate.Text.Utf16
/-!
# How JSON is encoded

The encoding of a JSON text shows in its first bytes. It begins with an ASCII character, and so does what
follows it as a rule; the zeros around these tell the number of bytes in a unit and their order.
-/

namespace HtGate.Json

/-- An encoding. -/
inductive Encoding where
  | utf8
  | utf16 (order : ByteOrder)
  | utf32 (order : ByteOrder)
  deriving DecidableEq, Repr

namespace Encoding

/-- The encoding of a JSON text. -/
def ofBytes : Bytes → Encoding
  | [0, _] => utf16 .big
  | [_, 0] => utf16 .little
  | 0 :: 0 :: _ :: _ :: _ => utf32 .big
  | 0 :: _ :: _ :: _ :: _ => utf16 .big
  | _ :: 0 :: 0 :: 0 :: _ => utf32 .little
  | _ :: 0 :: _ :: _ :: _ => utf16 .little
  | _ => utf8

/-- The text of bytes. A mark at the start, which says no more than that they are UTF-8, is dropped. -/
def decode : Encoding → Bytes → Option Text
  | utf8, bytes => (Utf8.decode bytes).map fun t => (Text.dropPrefix? t ['\ufeff']).getD t
  | utf16 order, bytes => Utf16.decode order bytes
  | utf32 order, bytes => Utf32.decode order bytes

end Encoding

/-- The text of the bytes of JSON. -/
def decode (bytes : Bytes) : Option Text := (Encoding.ofBytes bytes).decode bytes

end HtGate.Json
