/-!
# Text

A text is a list of characters, so that lengths and positions count code points and every operation
is a function on lists. This module holds what needs no knowledge of the character classes:
splitting at separators, cutting at the first separator, joining, and dropping at the end.
-/

namespace HtGate

/-- A text is the list of its characters. -/
abbrev Text := List Char

namespace Text

/-- A blank separates words on a line: the space and the tab, nothing else. -/
def isBlank (c : Char) : Bool := c == ' ' || c == '\t'

/-- The text without the characters of `p` at its end. -/
def dropTrailing (p : Char → Bool) (t : Text) : Text :=
  (t.reverse.dropWhile p).reverse

/-- The pieces between the separators, in order: one more than there are separators. -/
def splitOn (sep : Char → Bool) : Text → List Text
  | [] => [[]]
  | c :: rest =>
    match splitOn sep rest with
    | [] => [[c]]
    | piece :: more => if sep c then [] :: piece :: more else (c :: piece) :: more

/-- The maximal runs of characters that are no separators, in order. -/
def fields (sep : Char → Bool) (t : Text) : List Text :=
  (splitOn sep t).filter (fun piece => !piece.isEmpty)

/-- The part before the first `c`, and the part after it if there is one. -/
def cut (c : Char) : Text → Text × Option Text
  | [] => ([], none)
  | d :: rest =>
    if d == c then ([], some rest)
    else (d :: (cut c rest).1, (cut c rest).2)

/-- The parts before and after the last `c`; `none` where there is no `c`. -/
def cutLast (c : Char) : Text → Option (Text × Text)
  | [] => none
  | d :: rest =>
    match cutLast c rest with
    | some (before, after) => some (d :: before, after)
    | none => if d == c then some ([], rest) else none

/-- The pieces one after another with `sep` between neighbours. -/
def joinWith (sep : Text) : List Text → Text
  | [] => []
  | [piece] => piece
  | piece :: more => piece ++ sep ++ joinWith sep more

/-- What follows `start`, where the text begins with it. -/
def dropPrefix? : Text → Text → Option Text
  | t, [] => some t
  | [], _ :: _ => none
  | c :: t, d :: start => if c == d then dropPrefix? t start else none

/-- Whether `part` occurs in the text. -/
def includes (part : Text) : Text → Bool
  | [] => part.isEmpty
  | c :: rest => part.isPrefixOf (c :: rest) || includes part rest

/-- Whether a text comes before another, or is the same, in the order of code points. -/
def atMost : Text → Text → Bool
  | [], _ => true
  | _ :: _, [] => false
  | c :: t, d :: u => c.toNat < d.toNat || (c == d && atMost t u)

/-- The characters that end a line: line feed, carriage return, vertical tab, form feed, U+001C to
U+001E, U+0085, U+2028 and U+2029. -/
def isLineEnd (c : Char) : Bool :=
  c == '\n' || c == '\r' || c == '\x0b' || c == '\x0c' || c == '\x1c' || c == '\x1d' ||
  c == '\x1e' || c == '\u0085' || c == '\u2028' || c == '\u2029'

/-- The lines of a text without their ends; nothing after the last end is no line. -/
def lines : Text → List Text
  | [] => []
  | '\r' :: '\n' :: rest => [] :: lines rest
  | c :: rest =>
    if isLineEnd c then [] :: lines rest
    else match lines rest with
      | [] => [[c]]
      | line :: more => (c :: line) :: more

end Text

end HtGate
