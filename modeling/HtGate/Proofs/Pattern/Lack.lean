import HtGate.Pattern.Parser
import HtGate.Proofs.Lack
import Mathlib
/-!
# Reading patterns for want of nothing

A text that is no pattern is refused, and a few texts ask for more than can be counted or nest too deep.
That is all that can go wrong when a pattern is read: no reader says that something is absent or of the
wrong type. Each reader is stepped through once, with what is known of the readers that it calls.
-/

open Std.Do

set_option mvcgen.warning false

namespace HtGate.Pattern

/-- Whether a failure says that something is absent or of the wrong type. -/
def ParseError.IsLack : ParseError → Prop
  | malformed => False
  | fault cause => cause.IsLack

instance : DecidablePred ParseError.IsLack
  | .malformed => .isFalse id
  | .fault cause => inferInstanceAs (Decidable cause.IsLack)

namespace Reader

/-- Whether no failure of a reader says that something is absent or of the wrong type. -/
abbrev NeverLacks {α : Type} (read : Reader α) : Prop :=
  ⦃⌜True⌝⦄ read ⦃post⟨fun _ => ⌜True⌝, fun failure => ⌜¬failure.IsLack⌝⟩⦄

/-- A reader that fails at once lacks nothing if its failure is no lack. -/
lemma neverLacks_throw {α : Type} {failure : ParseError} (h : ¬failure.IsLack) :
    NeverLacks (throw failure : Reader α) :=
  fun _ _ => h

/-- A text that is refused is no pattern, and lacks nothing for it. -/
@[spec]
lemma neverLacks_refuse {α : Type} : NeverLacks (refuse : Reader α) := neverLacks_throw id

/-- To look at the next token lacks nothing. -/
@[spec]
lemma neverLacks_peek : NeverLacks peek := by
  mvcgen [peek]

/-- To go on lacks nothing, also where a backslash stands at the very end. -/
@[spec]
lemma neverLacks_goTo (rest : List Token) : NeverLacks (goTo rest) := by
  mvcgen [goTo]

/-- To take a token that may be missing lacks nothing. -/
@[spec]
lemma neverLacks_take : NeverLacks take := by
  mvcgen [take]

/-- Where a token has to be there, its absence makes the text no pattern. -/
@[spec]
lemma neverLacks_need : NeverLacks need := by
  mvcgen [need]

/-- To take a character if it is next lacks nothing. -/
@[spec]
lemma neverLacks_accept (c : Char) : NeverLacks (accept c) := by
  mvcgen [accept]

/-- Where a character has to be next, any other one makes the text no pattern. -/
@[spec]
lemma neverLacks_expect (c : Char) : NeverLacks (expect c) := by
  mvcgen [expect]

/-- To take characters of a kind lacks nothing, however many there may be. -/
@[spec]
lemma neverLacks_takeWhile (p : Char → Bool) (n : Nat) : NeverLacks (takeWhile p n) := by
  induction n with
  | zero => mvcgen [takeWhile]
  | succ n ih => mvcgen [takeWhile, ih]

/-- To take tokens up to a character lacks nothing, also where the character does not come. -/
@[spec]
lemma neverLacks_takeUntil (last : Char) (n : Nat) : NeverLacks (takeUntil last n) := by
  induction n with
  | zero => mvcgen [takeUntil]
  | succ n ih => mvcgen [takeUntil, ih]

/-- To read a name lacks nothing, also where it is none. -/
@[spec]
lemma neverLacks_nameUntil (last : Char) : NeverLacks (nameUntil last) := by
  mvcgen [nameUntil]

/-- Too few hexadecimal digits, or too large a code point, make the text no pattern. -/
@[spec]
lemma neverLacks_hexCode (digits : Nat) : NeverLacks (hexCode digits) := by
  mvcgen [hexCode]

/-- A character whose name is not known makes the text no pattern. -/
@[spec]
lemma neverLacks_namedCode : NeverLacks namedCode := by
  mvcgen [namedCode]

/-- Escapes that mean the same everywhere lack nothing. -/
@[spec]
lemma neverLacks_commonEscape (c : Char) : NeverLacks (commonEscape c) := by
  mvcgen [commonEscape]

/-- Escapes in sets lack nothing. -/
@[spec]
lemma neverLacks_setEscape (c : Char) : NeverLacks (setEscape c) := by
  mvcgen [setEscape]

/-- A group that cannot be referred to makes the text no pattern. -/
@[spec]
lemma neverLacks_checkReference (index : Nat) : NeverLacks (checkReference index) := by
  mvcgen [checkReference]

/-- References lack nothing, also those to groups that are not there. -/
@[spec]
lemma neverLacks_refer (index : Nat) : NeverLacks (digitEscape.refer index) := by
  mvcgen [digitEscape.refer]

/-- Escapes that begin with a digit lack nothing, be they references or code points. -/
@[spec]
lemma neverLacks_digitEscape (c : Char) : NeverLacks (digitEscape c) := by
  mvcgen [digitEscape]

/-- Escapes outside of sets lack nothing. -/
@[spec]
lemma neverLacks_escape (c : Char) : NeverLacks (escape c) := by
  mvcgen [escape]

/-- The ends of ranges lack nothing. -/
@[spec]
lemma neverLacks_setMember (t : Token) : NeverLacks (setMember t) := by
  mvcgen [setMember]

/-- The members of a set lack nothing, by induction on the fuel for them. -/
@[spec]
lemma neverLacks_setItems (fuel : Nat) (before : List SetItem) : NeverLacks (setItems fuel before) := by
  induction fuel generalizing before with
  | zero => mvcgen [setItems]
  | succ fuel ih => mvcgen [setItems, ih]

/-- Sets lack nothing. -/
@[spec]
lemma neverLacks_characterSet : NeverLacks characterSet := by
  mvcgen [characterSet]

/-- A bound may have too many digits or be too large, and that is no lack. -/
@[spec]
lemma neverLacks_bound (t : Text) (default : Option Nat) : NeverLacks (bound t default) := by
  rw [bound]
  split
  · mvcgen
  · split
    · rename_i h
      exact neverLacks_throw (neverLacks_readNumeral t _ h)
    · split
      · exact neverLacks_throw (by decide)
      · mvcgen

/-- Repetitions in braces lack nothing but what their bounds do. -/
@[spec]
lemma neverLacks_braces : NeverLacks braces := by
  mvcgen [braces]

/-- Where there is nothing to repeat, the text is no pattern. -/
@[spec]
lemma neverLacks_repeatLast (least : Nat) (most : Option Nat) (parts : List Pattern) :
    NeverLacks (repeatLast least most parts) := by
  mvcgen [repeatLast]

/-- Switches to set lack nothing, by induction on the fuel for them. -/
@[spec]
lemma neverLacks_flagsToAdd (fuel : Nat) (c : Char) (flags : Flags) :
    NeverLacks (flagsToAdd fuel c flags) := by
  induction fuel generalizing c flags with
  | zero => mvcgen [flagsToAdd]
  | succ fuel ih => mvcgen [flagsToAdd, ih]

/-- Switches to remove lack nothing, by induction on the fuel for them. -/
@[spec]
lemma neverLacks_flagsToRemove (fuel : Nat) (flags : Flags) : NeverLacks (flagsToRemove fuel flags) := by
  induction fuel generalizing flags with
  | zero => mvcgen [flagsToRemove]
  | succ fuel ih => mvcgen [flagsToRemove, ih]

/-- Switches behind a question mark lack nothing, whatever they are for. -/
@[spec]
lemma neverLacks_flagGroup (c : Char) : NeverLacks (flagGroup c) := by
  mvcgen [flagGroup]

/-- A condition that names a group by number lacks nothing. -/
@[spec]
lemma neverLacks_conditionNumber (t : Text) : NeverLacks (conditionNumber t) := by
  mvcgen [conditionNumber]

/-- A condition lacks nothing, also where it names no group. -/
@[spec]
lemma neverLacks_conditionGroup (t : Text) : NeverLacks (conditionGroup t) := by
  mvcgen [conditionGroup]

/-- A name that is given to two groups makes the text no pattern. -/
@[spec]
lemma neverLacks_openGroup (name : Option Text) : NeverLacks (openGroup name) := by
  mvcgen [openGroup]

/-- To close a group lacks nothing. -/
@[spec]
lemma neverLacks_closeGroup (index : Nat) (body : List Pattern) : NeverLacks (closeGroup index body) := by
  mvcgen [closeGroup]

/-- To pass over a comment in brackets lacks nothing, also where it does not end. -/
@[spec]
lemma neverLacks_skipComment (fuel : Nat) : NeverLacks (skipComment fuel) := by
  induction fuel with
  | zero => mvcgen [skipComment]
  | succ fuel ih => mvcgen [skipComment, ih]

/-- To pass over a comment up to the end of the line lacks nothing. -/
@[spec]
lemma neverLacks_skipLine (fuel : Nat) : NeverLacks (skipLine fuel) := by
  induction fuel with
  | zero => mvcgen [skipLine]
  | succ fuel ih => mvcgen [skipLine, ih]

/-- What opens with a name lacks nothing. -/
@[spec]
lemma neverLacks_namedOpening : NeverLacks namedOpening := by
  mvcgen [namedOpening]

/-- What opens behind a bracket lacks nothing. -/
@[spec]
lemma neverLacks_opening (atStart : Bool) : NeverLacks (opening atStart) := by
  mvcgen [opening]

/-- Brackets may stand too deep in one another. What is inside them lacks what it lacks anywhere. -/
lemma neverLacks_inBrackets {α : Type} {read : Reader α} (h : NeverLacks read) :
    NeverLacks (inBrackets read) := by
  have hdeep : NeverLacks (throw (.fault .nestedTooDeep) : Reader PUnit) :=
    neverLacks_throw (by decide)
  mvcgen [inBrackets, h, hdeep, -Spec.throw_MonadExcept, -Spec.throw_StateT]

/-- The readers that call one another, with the same fuel. -/
lemma neverLacks_of_fuel (fuel : Nat) :
    (∀ outside verbose first, NeverLacks (alternatives outside verbose first fuel)) ∧
    (∀ first verbose before, NeverLacks (parts first verbose before fuel)) ∧
    (∀ o verbose, NeverLacks (bracketed o verbose fuel)) := by
  -- the three readers call one another with less fuel, so that one induction takes all three
  induction fuel with
  | zero =>
    exact ⟨fun _ _ _ => neverLacks_refuse, fun _ _ _ => neverLacks_refuse,
      fun _ _ => neverLacks_refuse⟩
  | succ fuel ih =>
    obtain ⟨halternatives, hparts, hbracketed⟩ := ih
    refine ⟨fun outside verbose first => ?_, fun first verbose before => ?_, fun o verbose => ?_⟩
    · rw [alternatives]
      mvcgen [hparts, halternatives]
    · rw [parts]
      mvcgen [hparts, hbracketed]
    · have hinside (verbose : Bool) := neverLacks_inBrackets (halternatives false verbose true)
      rw [bracketed.eq_def]
      cases o with
      | conditional index =>
        refine neverLacks_inBrackets ?_
        mvcgen [hparts]
      | _ => mvcgen [hinside]

/-- A whole pattern lacks nothing: it is refused, or it asks for switches that contradict one another. -/
lemma neverLacks_expression : NeverLacks expression := by
  have halternatives (fuel : Nat) := (neverLacks_of_fuel fuel).1 true false true
  have hflags : NeverLacks (throw (.fault .patternFlags) : Reader PUnit) :=
    neverLacks_throw (by decide)
  mvcgen [expression, halternatives, hflags, -Spec.throw_MonadExcept]

/-- What a reader that lacks nothing fails with. -/
lemma NeverLacks.not_isLack {α : Type} {read : Reader α} (h : NeverLacks read) {p : Progress}
    {failure : ParseError} (hrun : read.run p = .error failure) : ¬failure.IsLack := by
  have hpost : ((wp (read.run p)).apply
      post⟨fun _ => ⌜True⌝, fun failure => ⌜¬failure.IsLack⌝⟩).down := h p trivial
  rw [hrun] at hpost
  exact hpost

end Reader

/-- To read a pattern lacks nothing. -/
theorem not_isLack_of_parse {t : Text} {cause : Fault} (h : parse t = .error (.fault cause)) :
    ¬cause.IsLack := by
  rw [parse] at h
  cases hrun : Reader.expression.run { rest := tokens t } with
  | error failure =>
    rw [hrun] at h
    cases h
    exact Reader.neverLacks_expression.not_isLack hrun
  | ok a =>
    rw [hrun] at h
    cases h

end HtGate.Pattern
