import HtGate.Text.Basic
/-!
# Patterns

A pattern describes texts. This module holds its parts: characters, sets of characters, positions,
groups, repetitions, assertions and references to what a group matched.
-/

namespace HtGate.Pattern

/-- The switches that change what the parts of a pattern mean. -/
structure Flags where
  /-- Letters match in any case. -/
  ignoreCase : Bool := false
  /-- Every line has a start and an end. -/
  multiline : Bool := false
  /-- The point matches line feeds too. -/
  dotAll : Bool := false
  /-- Whitespace and comments in the pattern are passed over. -/
  verbose : Bool := false
  /-- Classes and case know ASCII only. -/
  ascii : Bool := false
  /-- Classes and case know all scripts. -/
  unicode : Bool := false
  /-- Repetitions are not allowed. -/
  template : Bool := false
  deriving DecidableEq, Repr

namespace Flags

/-- No switch is set. -/
def none : Flags := {}

/-- The switches that are set on either side. -/
def union (f g : Flags) : Flags :=
  { ignoreCase := f.ignoreCase || g.ignoreCase
    multiline := f.multiline || g.multiline
    dotAll := f.dotAll || g.dotAll
    verbose := f.verbose || g.verbose
    ascii := f.ascii || g.ascii
    unicode := f.unicode || g.unicode
    template := f.template || g.template }

/-- The switches that are set on the left and not on the right. -/
def without (f g : Flags) : Flags :=
  { ignoreCase := f.ignoreCase && !g.ignoreCase
    multiline := f.multiline && !g.multiline
    dotAll := f.dotAll && !g.dotAll
    verbose := f.verbose && !g.verbose
    ascii := f.ascii && !g.ascii
    unicode := f.unicode && !g.unicode
    template := f.template && !g.template }

/-- The switches inside a group that adds some and removes some. A choice between ASCII and all scripts
replaces an earlier one. -/
def within (f add remove : Flags) : Flags :=
  let f := if add.ascii || add.unicode then { f with ascii := false, unicode := false } else f
  (f.union add).without remove

end Flags

/-- A class of characters. -/
inductive CharClass where
  | digit
  | space
  | word
  deriving DecidableEq, Repr

/-- A member of a set of characters. -/
inductive SetItem where
  | char (code : Nat)
  | range (low high : Nat)
  | ofClass (which : CharClass) (negated : Bool)
  deriving DecidableEq, Repr

/-- A position in a text. -/
inductive Anchor where
  /-- The start of the text, or of a line. -/
  | lineStart
  /-- The end of the text or before its last line feed, or the end of a line. -/
  | lineEnd
  /-- The start of the text. -/
  | textStart
  /-- The end of the text. -/
  | textEnd
  /-- Between a word and what is no word. -/
  | boundary
  /-- Inside a word or outside of words. -/
  | noBoundary
  deriving DecidableEq, Repr

/-- How a repetition goes about it. -/
inductive Greed where
  /-- As often as possible first. -/
  | greedy
  /-- As seldom as possible first. -/
  | lazy
  /-- As often as possible, and not otherwise. -/
  | possessive
  deriving DecidableEq, Repr

end Pattern

/-- A part of a pattern. Where parts stand one after another there is a list of them. -/
inductive Pattern where
  /-- One character. -/
  | char (code : Nat)
  /-- Any character but one. -/
  | notChar (code : Nat)
  /-- A member of a set, or of its complement. -/
  | set (negated : Bool) (items : List Pattern.SetItem)
  /-- Any character. -/
  | any
  /-- A position. -/
  | anchor (position : Pattern.Anchor)
  /-- A group, which may change switches; one with an index is remembered. -/
  | group (index : Option Nat) (add remove : Pattern.Flags) (body : List Pattern)
  /-- The first way to match the body, and no other. -/
  | atomic (body : List Pattern)
  /-- What follows, or what precedes over a length, matches the body, or does not. -/
  | look (behind : Option (Nat × Nat)) (negated : Bool) (body : List Pattern)
  /-- What a group matched, once more. -/
  | reference (index : Nat)
  /-- Some parts if a group has matched, others if not. -/
  | conditional (index : Nat) (yes no : List Pattern)
  /-- One of several alternatives. -/
  | choice (alternatives : List (List Pattern))
  /-- Several times. -/
  | repetition (greed : Pattern.Greed) (least : Nat) (most : Option Nat) (body : List Pattern)
  deriving Inhabited, Repr

namespace Pattern

/-- Whether two parts are the same one without an inside. -/
def sameLeaf : Pattern → Pattern → Bool
  | char a, char b => a == b
  | notChar a, notChar b => a == b
  | set m a, set n b => m == n && a == b
  | any, any => true
  | anchor a, anchor b => a == b
  | reference a, reference b => a == b
  | _, _ => false

/-- A pattern that has been read. -/
structure Expression where
  parts : List Pattern
  /-- The switches for all of it. -/
  flags : Flags
  /-- The least length of what it matches. -/
  least : Nat
  deriving Repr

end Pattern

end HtGate
