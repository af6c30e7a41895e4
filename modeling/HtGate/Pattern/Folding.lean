import HtGate.Pattern.Basic
import HtGate.Text.Case
import HtGate.Text.Digit
import HtGate.Text.Whitespace
import HtGate.Text.Word
/-!
# Characters in patterns

Whether a character is one that a part of a pattern stands for. Where case is ignored, a character
counts as its lower-case form, and some lower-case letters count as one another.
-/

namespace HtGate.Pattern

namespace CharClass

/-- Whether a character is of the class. -/
def contains (ascii : Bool) (which : CharClass) (c : Char) : Bool :=
  match which with
  | digit => if ascii then Text.isAsciiDigit c else Text.isDecimal c
  | space => if ascii then c == ' ' || ('\t' ≤ c && c ≤ '\r') else Text.isWhitespace c
  | word => if ascii then Text.isAsciiWord c else Text.isWord c

end CharClass

/-- The lower-case code point of a code point, in ASCII alone or in all scripts. -/
def foldCode (ascii : Bool) (code : Nat) : Nat :=
  if code < 0x80 then if 0x41 ≤ code && code ≤ 0x5A then code + 32 else code
  else if ascii then code
  else (Text.shifted? Text.lowerRuns code).getD code

/-- The first code point of the upper-case form of a code point. -/
def raiseCode (code : Nat) : Nat :=
  if code < 0x80 then if 0x61 ≤ code && code ≤ 0x7A then code - 32 else code
  else match Text.upperExpansions.find? (·.1 == code) with
    | some (_, first :: _) => first
    | _ => (Text.shifted? Text.upperRuns code).getD code

/-- Whether a code point has another case. -/
def isCasedCode (ascii : Bool) (code : Nat) : Bool :=
  if ascii then (0x41 ≤ code && code ≤ 0x5A) || (0x61 ≤ code && code ≤ 0x7A)
  else foldCode false code != code || raiseCode code != code

/-- The lower-case code points that count as one with a lower-case code point. -/
def foldGroup (ascii : Bool) (code : Nat) : List Nat :=
  if ascii then [code] else (Text.foldGroups.find? (·.contains code)).getD [code]

/-- The code points whose lower case is a code point. -/
def foldSources (ascii : Bool) (code : Nat) : List Nat :=
  let plain := if foldCode ascii code = code then [code] else []
  let letters := if 0x61 ≤ code && code ≤ 0x7A then [code - 32] else []
  if ascii then plain ++ letters
  else
    plain ++ letters ++ Text.lowerRuns.filterMap fun (first, last, step, shift) =>
      let source := ((code : Int) - shift).toNat
      if first ≤ source && source ≤ last && (source - first) % step == 0 then some source else none

/-- The last code point of the basic plane. -/
def basicPlaneEnd : Nat := 0xFFFF

namespace SetItem

/-- Whether a member of a set has a code point with another case. -/
def isCased (ascii : Bool) : SetItem → Bool
  | char code => basicPlaneEnd < code || isCasedCode ascii code
  | range low high =>
    basicPlaneEnd < high
      || (List.range (high + 1 - low)).any fun offset => isCasedCode ascii (low + offset)
  | ofClass _ _ => false

/-- Whether a member of a set stands for a character whose code point is `code`. -/
def contains (ascii : Bool) (item : SetItem) (c : Char) : Bool :=
  match item with
  | char code => c.toNat == code
  | range low high => low ≤ c.toNat && c.toNat ≤ high
  | ofClass which negated => which.contains ascii c != negated

/-- Whether a member of a set stands for a lower-case code point when case is ignored. Beyond the basic
plane a single code point counts as it is, and a range also for the upper case. -/
def containsFolded (ascii : Bool) (item : SetItem) (code : Nat) : Bool :=
  match item with
  | char own =>
    if basicPlaneEnd < own then own == code
    else (foldGroup ascii code).any fun member => foldCode ascii own == member
  | range low high =>
    ((foldGroup ascii code).any fun member => (foldSources ascii member).any fun source =>
      low ≤ source && source ≤ high && source ≤ basicPlaneEnd)
    || (basicPlaneEnd < high
      && ((low ≤ code && code ≤ high) || (low ≤ raiseCode code && raiseCode code ≤ high)))
  | ofClass which negated => which.contains ascii (Char.ofNat code) != negated

end SetItem

/-- Whether the case of what a code point stands for counts as any. -/
def isFoldedChar (f : Flags) (code : Nat) : Bool := f.ignoreCase && isCasedCode f.ascii code

/-- Whether the case of the members of a set counts as any. -/
def isFoldedSet (f : Flags) (items : List SetItem) : Bool :=
  f.ignoreCase && items.any (·.isCased f.ascii)

/-- Whether two characters count as the same. -/
def sameChar (f : Flags) (c d : Char) : Bool :=
  if f.ignoreCase then foldCode f.ascii c.toNat == foldCode f.ascii d.toNat else c == d

end HtGate.Pattern
