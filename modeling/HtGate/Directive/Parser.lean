import HtGate.Directive.LineReader
import HtGate.Directive.BlockTag
/-!
# Reading a configuration

A configuration is read line by line. Blank lines and comments are passed over; a line that cannot be
read is skipped with a diagnostic. Blocks nest. A closing tag closes the innermost open block of its
kind; blocks left open inside it, or at the end of the text, are discarded with a diagnostic.
-/

namespace HtGate

/-- What is wrong with a line. -/
inductive Problem where
  /-- It cannot be read. -/
  | unreadable (line : Text)
  /-- It closes a block that is not open. -/
  | unmatchedClose (tag : Text)
  /-- It opens a block that is never closed. -/
  | unclosed (tag : Text)
  /-- It opens a block that is still open when the one around it closes. -/
  | unclosedInside (tag outer : Text)
  /-- It switches a feature that is not known. -/
  | unknownOption (word : Text)
  deriving DecidableEq, Repr

namespace Problem

/-- The wording of a problem. -/
def message : Problem → Text
  | unreadable line => "syntax error, skipping line: ".toList ++ line
  | unmatchedClose tag =>
    "closing </".toList ++ tag ++ "> without matching open block, skipping".toList
  | unclosed tag => "unclosed <".toList ++ tag ++ "> block, discarding".toList
  | unclosedInside tag outer =>
    "unclosed <".toList ++ tag ++ "> block inside <".toList ++ outer ++ ">, discarding".toList
  | unknownOption word => "unknown Options flag: ".toList ++ word

end Problem

/-- A problem and the line it is about. -/
structure Diagnostic where
  line : Nat
  problem : Problem
  deriving DecidableEq, Repr

namespace Diagnostic

/-- The wording of a diagnostic. -/
def message (d : Diagnostic) : Text := d.problem.message

end Diagnostic

/-- Something that comes up while a configuration is read. -/
inductive ParseEvent where
  /-- A problem that is reported. -/
  | diagnosed (diagnostic : Diagnostic)
  /-- The reason why a lifetime is no duration. -/
  | badDuration (line : Nat) (reason : DurationError)
  deriving DecidableEq, Repr

namespace ParseEvent

/-- The diagnostic of an event. -/
def diagnostic? : ParseEvent → Option Diagnostic
  | diagnosed d => some d
  | badDuration _ _ => none

/-- The event of a remark on a line. -/
def ofRemark (line : Nat) : Remark → ParseEvent
  | .unknownOption word => diagnosed ⟨line, .unknownOption word⟩
  | .badDuration reason => badDuration line reason

end ParseEvent

/-- A configuration that was read, with what came up on the way. -/
structure Parsed where
  directives : List Directive
  events : List ParseEvent
  deriving Repr

namespace Parsed

/-- The diagnostics in the order in which they were made. -/
def diagnostics (p : Parsed) : List Diagnostic := p.events.filterMap ParseEvent.diagnostic?

end Parsed

/-- What stopped a reading, with what came up before. -/
structure ParseFailure where
  fault : Fault
  events : List ParseEvent
  deriving Repr

namespace Parser

/-- A block that is open, with the directives read so far, the latest first. -/
structure Frame where
  line : Nat
  tag : Text
  head : BlockHead
  children : List Directive
  deriving Repr

namespace Frame

/-- The block that the frame becomes when it is closed. -/
def close (f : Frame) : Directive := .block f.line f.head f.children.reverse

end Frame

/-- A reading in progress: the directives outside blocks and the events so far, the latest first, and
the open blocks, the innermost first. -/
structure State where
  top : List Directive := []
  frames : List Frame := []
  events : List ParseEvent := []
  deriving Repr

namespace State

/-- Adds a directive to the innermost open block. -/
def add (s : State) (d : Directive) : State :=
  match s.frames with
  | [] => { s with top := d :: s.top }
  | f :: outer => { s with frames := { f with children := d :: f.children } :: outer }

/-- Adds a diagnostic. -/
def report (s : State) (line : Nat) (problem : Problem) : State :=
  { s with events := .diagnosed ⟨line, problem⟩ :: s.events }

/-- Adds what was noticed about a line. -/
def note (s : State) (line : Nat) (remarks : List Remark) : State :=
  { s with events := (remarks.map (ParseEvent.ofRemark line)).reverse ++ s.events }

/-- Discards open blocks, each with a diagnostic. -/
def discard (problem : Frame → Problem) (s : State) : List Frame → State
  | [] => s
  | f :: more => discard problem (s.report f.line (problem f)) more

/-- Whether a tag's word closes an open block. -/
def closes (tag : Text) (f : Frame) : Bool := Text.lower f.tag == Text.lower tag

/-- Closes the innermost open block with the tag's word. -/
def closeTag (s : State) (line : Nat) (tag : Text) : State :=
  match s.frames.dropWhile (fun f => !closes tag f) with
  | [] => s.report line (.unmatchedClose tag)
  | f :: outer =>
    let inner := s.frames.takeWhile (fun f => !closes tag f)
    let s := discard (fun g => .unclosedInside g.tag f.tag) s inner
    { s with frames := outer }.add f.close

/-- Reads a line that opens with a slash after the bracket. -/
def closeLine (s : State) (number : Nat) (line : Text) : State :=
  match BlockTag.closing? line with
  | none => s.report number (.unreadable line)
  | some tag =>
    if (BlockTag.kind? tag).isSome then s.closeTag number tag
    else s.report number (.unreadable line)

/-- Reads a line that opens with a bracket. -/
def openLine (s : State) (number : Nat) (line : Text) : State :=
  let frame? : Option Frame := do
    let (tag, argument) ← BlockTag.opening? line
    let kind ← BlockTag.kind? tag
    let head ← BlockTag.head? kind argument
    some ⟨number, tag, head, []⟩
  match frame? with
  | none => s.report number (.unreadable line)
  | some frame => { s with frames := frame :: s.frames }

/-- Reads a line that is to be a rule. -/
def ruleLine (s : State) (number : Nat) (line : Text) : Except Fault State :=
  match RuleReader.read line with
  | .error fault => .error fault
  | .ok reading =>
    let s := s.note number reading.remarks
    match reading.rule with
    | none => .ok (s.report number (.unreadable line))
    | some rule => .ok (s.add (.rule number rule))

/-- Reads one line. -/
def step (s : State) (number : Nat) (raw : Text) : Except Fault State :=
  let line := Text.trim raw
  match line with
  | [] => .ok s
  | '#' :: _ => .ok s
  | '<' :: '/' :: _ => .ok (s.closeLine number line)
  | '<' :: _ => .ok (s.openLine number line)
  | _ => s.ruleLine number line

/-- Reads lines, the first of which has the given number. -/
def run (s : State) (number : Nat) : List Text → Except ParseFailure State
  | [] => .ok s
  | raw :: more =>
    match s.step number raw with
    | .error fault => .error ⟨fault, s.events.reverse⟩
    | .ok s => run s (number + 1) more

/-- Ends the reading: whatever is still open is discarded. -/
def finish (s : State) : Parsed :=
  let s := discard (fun f => .unclosed f.tag) s s.frames
  ⟨s.top.reverse, s.events.reverse⟩

end State

end Parser

/-- Reads a configuration. -/
def parse (content : Text) : Except ParseFailure Parsed :=
  (Parser.State.run {} 1 (Text.splitOn (· == '\n') content)).map Parser.State.finish

end HtGate
