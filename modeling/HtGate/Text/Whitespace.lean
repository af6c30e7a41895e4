import HtGate.Text.Basic
import HtGate.Text.Ranges
/-!
# Whitespace

The characters that trimming removes and that a run of whitespace is made of: the Unicode spaces and
the control characters that act as separators. The zero-width space and the byte order mark are none
of them.
-/

namespace HtGate.Text

/-- The whitespace characters as ranges of code points. -/
def whitespaceRanges : List (Nat × Nat) :=
  [(0x9, 0xD), (0x1C, 0x20), (0x85, 0x85), (0xA0, 0xA0), (0x1680, 0x1680), (0x2000, 0x200A),
   (0x2028, 0x2029), (0x202F, 0x202F), (0x205F, 0x205F), (0x3000, 0x3000)]

/-- Whether a character is whitespace. -/
def isWhitespace (c : Char) : Bool := inRanges c.toNat whitespaceRanges

/-- The text without whitespace at its start. -/
def trimStart (t : Text) : Text := t.dropWhile isWhitespace

/-- The text without whitespace at its end. -/
def trimEnd (t : Text) : Text := dropTrailing isWhitespace t

/-- The text without whitespace at either end. -/
def trim (t : Text) : Text := trimEnd (trimStart t)

/-- The runs of characters that are no whitespace. -/
def words (t : Text) : List Text := fields isWhitespace t

/-- The items of a list written with blanks between them. The text is trimmed of all whitespace
first, but only blanks separate. -/
def items (t : Text) : List Text := fields isBlank (trim t)

end HtGate.Text
