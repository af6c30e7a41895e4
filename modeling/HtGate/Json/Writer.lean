import HtGate.Json.Basic
import HtGate.Text.Decimal
import HtGate.Text.Quoted
/-!
# Writing JSON

Written JSON is ASCII: every other character is escaped, one beyond the basic plane as a surrogate
pair. There are two layouts, one on a single line and one with an indentation of two spaces.
-/

namespace HtGate.Json

/-- One UTF-16 unit as an escape. -/
def escapeUnit (n : Nat) : Text := '\\' :: 'u' :: Text.hex 4 n

/-- One character of a text. -/
def escapeChar (c : Char) : Text :=
  if c == '"' then ['\\', '"']
  else if c == '\\' then ['\\', '\\']
  else if c == '\n' then ['\\', 'n']
  else if c == '\r' then ['\\', 'r']
  else if c == '\t' then ['\\', 't']
  else if c == '\x08' then ['\\', 'b']
  else if c == '\x0c' then ['\\', 'f']
  else if 0x20 ≤ c.toNat && c.toNat < 0x7F then [c]
  else if c.toNat < 0x10000 then escapeUnit c.toNat
  else
    let n := c.toNat - 0x10000
    escapeUnit (0xD800 + n / 1024) ++ escapeUnit (0xDC00 + n % 1024)

/-- A text between quotes. -/
def writeText (t : Text) : Text := '"' :: t.flatMap escapeChar ++ ['"']

/-- A line end and the indentation of a depth. -/
def lineBreak (depth : Nat) : Text := '\n' :: List.replicate (2 * depth) ' '

/-- What is no list and no object. -/
def writeScalar : Json → Text
  | null => "null".toList
  | bool true => "true".toList
  | bool false => "false".toList
  | int n => Text.ofInt n
  | decimal mantissa exponent => Text.ofInt mantissa ++ 'e' :: Text.ofInt exponent
  | nonFinite name => name
  | text t => writeText t
  | list _ => []
  | object _ => []

mutual

/-- A value on one line. -/
def compact : Json → Text
  | list elements => '[' :: compactElements elements ++ [']']
  | object members => '\x7b' :: compactMembers members ++ ['\x7d']
  | value => writeScalar value

/-- Elements on one line. -/
def compactElements : List Json → Text
  | [] => []
  | [value] => compact value
  | value :: more => compact value ++ ", ".toList ++ compactElements more

/-- Members on one line. -/
def compactMembers : List (Text × Json) → Text
  | [] => []
  | [(key, value)] => writeText key ++ ": ".toList ++ compact value
  | (key, value) :: more =>
    writeText key ++ ": ".toList ++ compact value ++ ", ".toList ++ compactMembers more

end

mutual

/-- A value at a depth, with an element or member on each line. -/
def indented (depth : Nat) : Json → Text
  | list [] => "[]".toList
  | object [] => ['\x7b', '\x7d']
  | list elements =>
    '[' :: indentedElements (depth + 1) elements ++ lineBreak depth ++ [']']
  | object members =>
    '\x7b' :: indentedMembers (depth + 1) members ++ lineBreak depth ++ ['\x7d']
  | value => writeScalar value

/-- Elements with one on each line. -/
def indentedElements (depth : Nat) : List Json → Text
  | [] => []
  | [value] => lineBreak depth ++ indented depth value
  | value :: more =>
    lineBreak depth ++ indented depth value ++ ',' :: indentedElements depth more

/-- Members with one on each line. -/
def indentedMembers (depth : Nat) : List (Text × Json) → Text
  | [] => []
  | [(key, value)] => lineBreak depth ++ writeText key ++ ": ".toList ++ indented depth value
  | (key, value) :: more =>
    lineBreak depth ++ writeText key ++ ": ".toList ++ indented depth value
      ++ ',' :: indentedMembers depth more

end

mutual

/-- The longest whole number in a value, in digits. -/
def widestNumber : Json → Nat
  | int n => (Text.ofNat n.natAbs).length
  | list elements => widestElement elements
  | object members => widestMember members
  | _ => 0

/-- The longest whole number in a list of values, in digits. -/
def widestElement : List Json → Nat
  | [] => 0
  | value :: more => max (widestNumber value) (widestElement more)

/-- The longest whole number in a list of members, in digits. -/
def widestMember : List (Text × Json) → Nat
  | [] => 0
  | (_, value) :: more => max (widestNumber value) (widestMember more)

end

end HtGate.Json
