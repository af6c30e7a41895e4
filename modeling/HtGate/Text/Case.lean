import HtGate.Text.Basic
import HtGate.Text.Ranges
import HtGate.Text.CaseTable
/-!
# Letter case

Lower and upper case of all scripts. Two lower-case forms are no plain map of one character to one:
the dotted capital I becomes two characters, and the capital sigma has a form of its own at the end
of a word. Upper case may turn one character into up to three.
-/

namespace HtGate.Text

/-- The code point a table of runs maps `n` to. -/
def shifted? (runs : List (Nat × Nat × Nat × Int)) (n : Nat) : Option Nat :=
  (runs.find? fun (first, last, step, _) => first ≤ n && n ≤ last && (n - first) % step == 0).map
    fun (_, _, _, shift) => (n + shift).toNat

/-- The lower-case form of one character as one character. -/
def lowerOne (c : Char) : Char :=
  if c.toNat < 0x80 then c.toLower else ((shifted? lowerRuns c.toNat).map Char.ofNat).getD c

/-- The upper-case form of one character as one character. -/
def upperOne (c : Char) : Char :=
  if c.toNat < 0x80 then c.toUpper else ((shifted? upperRuns c.toNat).map Char.ofNat).getD c

/-- The lower-case form of one character on its own. -/
def lowerChar (c : Char) : Text :=
  if c == '\u0130' then ['i', '\u0307'] else [lowerOne c]

/-- The upper-case form of one character. -/
def upperChar (c : Char) : Text :=
  if c.toNat < 0x80 then [c.toUpper]
  else match upperExpansions.find? (·.1 == c.toNat) with
    | some (_, form) => form.map Char.ofNat
    | none => [upperOne c]

/-- Whether the next character that counts for letter case is a letter with case. -/
def startsCased (t : Text) : Bool :=
  match t.dropWhile (fun c => inRanges c.toNat caseIgnorableRanges) with
  | [] => false
  | c :: _ => inRanges c.toNat casedRanges

/-- The lower-case form of a text that follows `before`, which is given backwards. A capital sigma
takes its final form after a letter with case unless another such letter follows. -/
def lowerAfter (before : Text) : Text → Text
  | [] => []
  | c :: rest =>
    (if c == 'Σ' then [if startsCased before && !startsCased rest then 'ς' else 'σ']
      else lowerChar c) ++ lowerAfter (c :: before) rest

/-- The lower-case form of a text. -/
def lower (t : Text) : Text := lowerAfter [] t

/-- The upper-case form of a text. -/
def upper (t : Text) : Text := t.flatMap upperChar

end HtGate.Text
