import HtGate.Text.Basic
/-!
# Traces of matching

Matching tries one way after the other. What the attempts leave behind is a trace: the position that was
noted last, and marks where groups begin and end. A failed attempt leaves a trace as well; its marks are
taken back in full only while a repetition is going on.
-/

namespace HtGate.Pattern

/-- What attempts to match leave behind. -/
structure Trace where
  /-- The position noted last. -/
  noted : Nat
  /-- Where groups begin and end; the marks of the group with index `i` are at `2 * i - 2` and
  `2 * i - 1`. -/
  marks : List (Option Nat) := []
  deriving DecidableEq, Repr

namespace Trace

/-- Notes a position. -/
def note (pos : Nat) (t : Trace) : Trace := { t with noted := pos }

/-- Sets a mark. Marks passed over in doing so are there and stand nowhere. -/
def mark (index pos : Nat) (t : Trace) : Trace :=
  { t with
    marks :=
      if index < t.marks.length then t.marks.set index (some pos)
      else t.marks ++ List.replicate (index - t.marks.length) none ++ [some pos] }

/-- Where a group begins and ends, if it has matched. -/
def span? (index : Nat) (t : Trace) : Option (Nat × Nat) :=
  match t.marks[2 * index - 2]?, t.marks[2 * index - 1]? with
  | some (some start), some (some stop) => if stop < start then none else some (start, stop)
  | _, _ => none

/-- Takes back the marks that were set since an earlier trace. Outside of repetitions those that were
there before stay as they are now. -/
def back (t : Trace) (looped : Bool) (before : Trace) : Trace :=
  { t with marks := if looped then before.marks else t.marks.take before.marks.length }

end Trace

/-- An attempt to match from a position on: whether all that has to match does so, and the trace. -/
abbrev Step := Nat → Trace → Bool × Trace

end HtGate.Pattern
