import HtGate.Pattern.Basic
/-!
# Lengths

How long what a pattern matches is at least and at most. Lengths are counted up to a limit only, and a
pattern that can be matched looks back over one length.
-/

namespace HtGate.Pattern

/-- The number from which on nothing is counted any more. It stands for a number without a bound. -/
def maxCount : Nat := 4294967295

/-- The least and the greatest length of what a pattern can match. -/
abbrev Width := Nat × Nat

namespace Width

/-- Lengths as far as they are counted. -/
def counted (w : Width) : Width := (min w.1 (maxCount - 1), min w.2 maxCount)

/-- The lengths of one after the other. -/
def add (a b : Width) : Width := (a.1 + b.1, a.2 + b.2)

/-- The lengths of one or the other. -/
def either (a b : Width) : Width := (min a.1 b.1, max a.2 b.2)

/-- The lengths of a repetition. -/
def times (least : Nat) (most : Option Nat) (w : Width) : Width :=
  (w.1 * least, w.2 * most.getD maxCount)

end Width

mutual

/-- The lengths a part can match, given those of the groups it refers to. -/
def width (groups : Nat → Width) : Pattern → Width
  | char _ | notChar _ | set _ _ | any => (1, 1)
  | anchor _ | look _ _ _ => (0, 0)
  | group _ _ _ body | atomic body => widthOfAll groups body
  | reference index => groups index
  | conditional _ yes no => Width.either (widthOfAll groups yes) (widthOfAll groups no)
  | choice alternatives => widthOfAny groups alternatives
  | repetition _ least most body => Width.times least most (widthOfAll groups body)

/-- The lengths of parts one after another. -/
def widthOfAll (groups : Nat → Width) : List Pattern → Width
  | [] => (0, 0)
  | p :: more => Width.counted (Width.add (width groups p) (widthOfAll groups more))

/-- The lengths of one of several alternatives. -/
def widthOfAny (groups : Nat → Width) : List (List Pattern) → Width
  | [] => (maxCount - 1, 0)
  | parts :: more => Width.either (widthOfAll groups parts) (widthOfAny groups more)

end

mutual

/-- Whether a part can be matched: what is looked back over has one length, and there are no
repetitions where they are not allowed. -/
def isMatchable (template : Bool) : Pattern → Bool
  | char _ | notChar _ | set _ _ | any | anchor _ | reference _ => true
  | group _ _ _ body | atomic body => areMatchable template body
  | look behind _ body =>
    behind.all (fun (least, most) => least == most) && areMatchable template body
  | conditional _ yes no => areMatchable template yes && areMatchable template no
  | choice alternatives => anyMatchable template alternatives
  | repetition _ _ _ body => !template && areMatchable template body

/-- Whether all of several parts can be matched. -/
def areMatchable (template : Bool) : List Pattern → Bool
  | [] => true
  | p :: more => isMatchable template p && areMatchable template more

/-- Whether every one of several alternatives can be matched. -/
def anyMatchable (template : Bool) : List (List Pattern) → Bool
  | [] => true
  | parts :: more => areMatchable template parts && anyMatchable template more

end

end HtGate.Pattern
