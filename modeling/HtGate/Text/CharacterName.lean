import HtGate.Text.Basic
import HtGate.Text.Ranges
import HtGate.Text.CharacterName.Aliases
import HtGate.Text.CharacterName.From0000
import HtGate.Text.CharacterName.From1000
import HtGate.Text.CharacterName.From2000
import HtGate.Text.CharacterName.From3000
import HtGate.Text.CharacterName.From10000
import HtGate.Text.CharacterName.From12000
import HtGate.Text.CharacterName.From17000
import HtGate.Text.CharacterName.From1D000
import HtGate.Text.CharacterName.From1F000
/-!
# Characters by name

Which character a name stands for. Most names stand in tables and may be written in either case. The
names of Hangul syllables are put together from the names of their letters, and those of ideographs
from their code points; both have to be written in capitals.
-/

namespace HtGate.Text

namespace CharacterName

/-- How many characters two texts have in common at the front. -/
def common : Text → Text → Nat
  | a :: s, b :: t => if a = b then common s t + 1 else 0
  | _, _ => 0

/-- The names in a string: how many characters each shares with the one before, and the rest of it. The
first component is what stands before the first small letter. -/
def split : Text → Text × List (Nat × Text)
  | [] => ([], [])
  | c :: t =>
    let (lead, names) := split t
    if 'a' ≤ c && c ≤ 'z' then
      let share := c.toNat - 'a'.toNat
      match lead, names with
      | [], (more, rest) :: names => ([], (share + more, rest) :: names)
      | lead, names => ([], (share, lead) :: names)
    else (c :: lead, names)

/-- How many characters a name has in common with the wanted one, if the name before it had `before`. -/
def agreement (wanted : Text) (before share : Nat) (rest : Text) : Nat :=
  if before < share then before else share + common (wanted.drop share) rest

/-- Looks for a name among names that follow one another from a code point on: the code point it stands
for, and how many characters it has in common with the last name read. -/
def seek (wanted : Text) : Nat → Nat → List (Nat × Text) → Option Nat × Nat
  | _, before, [] => (none, before)
  | code, before, (share, rest) :: names =>
    let now := agreement wanted before share rest
    if now = wanted.length && share + rest.length = wanted.length then (some code, now)
    else seek wanted (code + 1) now names

/-- Looks for a name in a table. -/
def lookUp (wanted : Text) : Nat → List (Nat × String) → Option Nat
  | _, [] => none
  | before, (code, names) :: more =>
    match seek wanted code before (split names.toList).2 with
    | (some code, _) => some code
    | (none, now) => lookUp wanted now more

/-- The tables of names. -/
def tables : List (List (Nat × String)) :=
  [from0000, from1000, from2000, from3000, from10000, from12000, from17000, from1D000, from1F000]

/-- The names of the consonants that begin a Hangul syllable. -/
def hangulInitials : List String :=
  ["G", "GG", "N", "D", "DD", "R", "M", "B", "BB", "S", "SS", "", "J", "JJ", "C", "K", "T", "P", "H"]

/-- The names of the vowels of a Hangul syllable. -/
def hangulVowels : List String :=
  ["A", "AE", "YA", "YAE", "EO", "E", "YEO", "YE", "O", "WA", "WAE", "OE", "YO", "U", "WEO", "WE", "WI",
   "YU", "EU", "YI", "I"]

/-- The names of the consonants that end a Hangul syllable. -/
def hangulFinals : List String :=
  ["", "G", "GG", "GS", "N", "NJ", "NH", "D", "L", "LG", "LM", "LB", "LS", "LT", "LP", "LH", "M", "B",
   "BS", "S", "SS", "NG", "J", "C", "K", "T", "P", "H"]

/-- The place of the longest of several names that a text begins with, counted from `index`, and the
rest of the text. -/
def longest? (t : Text) : Nat → List String → Option (Nat × Text)
  | _, [] => none
  | index, name :: names =>
    match dropPrefix? t name.toList, longest? t (index + 1) names with
    | some rest, some (other, shorter) =>
      if shorter.length < rest.length then some (other, shorter) else some (index, rest)
    | some rest, none => some (index, rest)
    | none, found => found

/-- The Hangul syllable that consists of the letters a text names. -/
def hangul? (t : Text) : Option Nat :=
  match longest? t 0 hangulInitials with
  | none => none
  | some (first, t) =>
    match longest? t 0 hangulVowels with
    | none => none
    | some (vowel, t) =>
      match longest? t 0 hangulFinals with
      | some (last, []) =>
        some (0xAC00 + (first * hangulVowels.length + vowel) * hangulFinals.length + last)
      | _ => none

/-- The unified ideographs as ranges of code points. -/
def ideographRanges : List (Nat × Nat) :=
  [(0x3400, 0x4DBF), (0x4E00, 0x9FFF), (0x20000, 0x2A6DF), (0x2A700, 0x2B738), (0x2B740, 0x2B81D),
   (0x2B820, 0x2CEA1), (0x2CEB0, 0x2EBE0), (0x30000, 0x3134A)]

/-- The value of a hexadecimal digit in capitals. -/
def capitalHexValue? (c : Char) : Option Nat :=
  if '0' ≤ c && c ≤ '9' then some (c.toNat - '0'.toNat)
  else if 'A' ≤ c && c ≤ 'F' then some (c.toNat - 'A'.toNat + 10)
  else none

/-- The ideograph whose code point is written in four or five hexadecimal digits. -/
def ideograph? (t : Text) : Option Nat :=
  if t.length != 4 && t.length != 5 then none
  else
    match t.mapM capitalHexValue? with
    | none => none
    | some digits =>
      let code := digits.foldl (fun n d => n * 16 + d) 0
      if inRanges code ideographRanges then some code else none

end CharacterName

/-- The code point of the character that a name stands for. -/
def namedCode? (name : Text) : Option Nat :=
  match dropPrefix? name "HANGUL SYLLABLE ".toList with
  | some letters => CharacterName.hangul? letters
  | none =>
    match dropPrefix? name "CJK UNIFIED IDEOGRAPH-".toList with
    | some digits => CharacterName.ideograph? digits
    | none =>
      let wanted := name.map Char.toUpper
      match CharacterName.aliases.find? fun (_, further) => further.toList == wanted with
      | some (code, _) => some code
      | none => CharacterName.tables.findSome? (CharacterName.lookUp wanted 0)

end HtGate.Text
