import HtGate.Text.Case
import HtGate.Text.Whitespace
/-!
# Cursors

A cursor is a reading position in a line. Words on a line are separated by spaces and tabs only; a
word that opens with a double quote goes up to the next one. What is left of a line is read as one
value, trimmed of all whitespace.
-/

namespace HtGate

/-- A reading position in a line. -/
structure Cursor where
  text : Text
  pos : Nat
  deriving DecidableEq, Repr

namespace Cursor

/-- The start of a line. -/
def start (line : Text) : Cursor := ⟨line, 0⟩

/-- What stands from the position on. -/
def remaining (c : Cursor) : Text := c.text.drop c.pos

/-- The position `n` characters on. -/
def advance (c : Cursor) (n : Nat) : Cursor := { c with pos := c.pos + n }

/-- The end of the line. -/
def toEnd (c : Cursor) : Cursor := { c with pos := c.text.length }

/-- Whether nothing is left. -/
def atEnd (c : Cursor) : Bool := c.text.length ≤ c.pos

/-- The position of the next character that is no blank. -/
def skipBlanks (c : Cursor) : Cursor := c.advance (c.remaining.takeWhile Text.isBlank).length

/-- Whether a word, in any case, stands at the position, with a blank or the end after it. -/
def standsAt (word : Text) (c : Cursor) : Bool :=
  Text.lower (c.remaining.take word.length) == Text.lower word &&
    match c.remaining.drop word.length with
    | [] => true
    | d :: _ => Text.isBlank d

/-- Passes over blanks, and over the word where it stands next; says whether it does. -/
def keyword (word : Text) (c : Cursor) : Bool × Cursor :=
  let c := c.skipBlanks
  if c.standsAt word then (true, c.advance word.length) else (false, c)

/-- The next word, or what stands between quotes; `none` at the end of the line. -/
def token (c : Cursor) : Option Text × Cursor :=
  let c := c.skipBlanks
  if c.atEnd then (none, c)
  else
    match c.remaining with
    | '"' :: rest =>
      match Text.cut '"' rest with
      | (inside, some _) => (some inside, c.advance (inside.length + 2))
      | (inside, none) => (some inside, c.toEnd)
    | rest =>
      let word := rest.takeWhile (fun d => !Text.isBlank d)
      (some word, c.advance word.length)

/-- What is left of the line, trimmed; `none` where that is nothing. -/
def restRaw (c : Cursor) : Option Text × Cursor :=
  let rest := Text.trim c.remaining
  (if rest.isEmpty then none else some rest, c.toEnd)

/-- A text without the pair of quotes around it, if there is one. -/
def unwrap (t : Text) : Text :=
  if 2 ≤ t.length && t.head? == some '"' && t.getLast? == some '"' then (t.drop 1).dropLast else t

/-- What is left of the line, trimmed and without a pair of quotes around it. -/
def rest (c : Cursor) : Option Text × Cursor :=
  let (t, c) := c.restRaw
  (t.map unwrap, c)

end Cursor

end HtGate
