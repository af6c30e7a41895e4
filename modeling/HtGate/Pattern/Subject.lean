import HtGate.Pattern.Folding
/-!
# Subjects of matching

The text that a pattern is matched against, and its positions. A position stands before a character or at
the end.
-/

namespace HtGate.Pattern

/-- The text that is matched. -/
structure Subject where
  chars : Array Char

namespace Subject

/-- Whether the character at a position satisfies a condition. -/
@[inline] def has (s : Subject) (test : Char → Bool) (pos : Nat) : Bool :=
  if h : pos < s.chars.size then test s.chars[pos] else false

/-- Whether the character before a position satisfies a condition. -/
def hasBefore (s : Subject) (test : Char → Bool) (pos : Nat) : Bool :=
  pos != 0 && s.has test (pos - 1)

/-- Where a run of characters that satisfy a condition ends, of which at most `n` count. -/
def runEnd (s : Subject) (test : Char → Bool) : Nat → Nat → Nat
  | 0, pos => pos
  | n + 1, pos => if s.has test pos then s.runEnd test n (pos + 1) else pos

/-- Whether the text from one position on and that from another are the same over a length. -/
def sameSpan (s : Subject) (same : Char → Char → Bool) (start other : Nat) : Nat → Bool
  | 0 => true
  | n + 1 =>
    s.has (fun c => s.has (same c) other) start && s.sameSpan same (start + 1) (other + 1) n

/-- Whether a position is one that is asked for. No position in an empty text is at or away from a
word's boundary. -/
def isAt (s : Subject) (multiline ascii : Bool) (pos : Nat) : Anchor → Bool
  | .textStart => pos == 0
  | .textEnd => pos == s.chars.size
  | .lineStart => pos == 0 || (multiline && s.hasBefore (· == '\n') pos)
  | .lineEnd =>
    pos == s.chars.size || (s.has (· == '\n') pos && (multiline || pos + 1 == s.chars.size))
  | .boundary => s.chars.size != 0 && wordBefore != wordAfter
  | .noBoundary => s.chars.size != 0 && wordBefore == wordAfter
where
  /-- Whether a word's character stands before. -/
  wordBefore : Bool := s.hasBefore (CharClass.word.contains ascii) pos
  /-- Whether a word's character stands after. -/
  wordAfter : Bool := s.has (CharClass.word.contains ascii) pos

end Subject

end HtGate.Pattern
