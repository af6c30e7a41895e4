import HtGate.Proofs.Directive.Renumbering
import HtGate.Proofs.Text.Trimming
/-!
# Layout

What a text is read as depends, line numbers apart, on nothing but the lines that bear something, without the
whitespace around them. A reading of the text and one of these lines alone, under the number zero throughout,
hold the same but for the line numbers: a line that bears nothing is no step at all, and a step under one
number is a step under any other.
-/

namespace HtGate

open Directive (renumberAll withoutLinesAll)

/-- The number zero for every line. -/
def Renumbering.erasing : Renumbering where
  ofNat _ := 0
  ofInt _ := 0
  ofInt_natCast _ := rfl

/-- To leave line numbers out is to renumber all lines alike. -/
lemma Directive.withoutLinesAll_eq (ds : List Directive) :
    withoutLinesAll ds = renumberAll .erasing ds := by
  induction ds using forest_induction with
  | nil => rfl
  | rule line r ds ih =>
    rw [withoutLinesAll, renumberAll, ih, withoutLines, renumber, Renumbering.erasing]
  | block line head children ds ihc ih =>
    rw [withoutLinesAll, renumberAll, ih, withoutLines, renumber, ihc, Renumbering.erasing]

instance : DecidablePred Parser.Bears := fun raw =>
  inferInstanceAs (Decidable (Text.trim raw ≠ [] ∧ (Text.trim raw).head? ≠ some '#'))

/-- The lines that are neither blank nor comments, without the whitespace around them. -/
def bearing (lines : List Text) : List Text :=
  (lines.filter fun raw => decide (Parser.Bears raw)).map Text.trim

/-- The lines of a text that are neither blank nor comments, without the whitespace around them. -/
def bearingLines (content : Text) : List Text := bearing (Text.splitOn (· == '\n') content)

/-- Whether two readings come to the same but for line numbers: they stop at the same fault, or they read
equivalent directives and report the same problems in the same order. -/
inductive SameReading : Except ParseFailure Parsed → Except ParseFailure Parsed → Prop
  /-- Both stop. -/
  | stopped {f g : ParseFailure} : f.fault = g.fault → SameReading (.error f) (.error g)
  /-- Both come to their end. -/
  | read {p q : Parsed} : Directive.equivalent p.directives q.directives = true →
    p.diagnostics.map (·.problem) = q.diagnostics.map (·.problem) → SameReading (.ok p) (.ok q)

namespace Parser.State

variable {s t : State} {number : Nat} {raw : Text}

/-- What a reading comes to, without line numbers. -/
def withoutLines (s : State) : State := renumbered {} .erasing s

/-- A step without line numbers is a step under any number. -/
lemma step_withoutLines (s : State) (number : Nat) (raw : Text) :
    s.withoutLines.step 0 raw = (s.step number raw).map withoutLines :=
  step_renumbered {} .erasing number s raw

/-- A step does not depend on the whitespace around the line. -/
lemma step_trim (s : State) (number : Nat) (raw : Text) :
    s.step number (Text.trim raw) = s.step number raw := by
  rw [step, step, Text.trim_trim]

/-- A line that bears nothing is no step at all. -/
lemma step_of_not_bears (s : State) (number : Nat) (h : ¬Bears raw) : s.step number raw = .ok s := by
  rw [step]
  cases hline : Text.trim raw with
  | nil => rfl
  | cons c line =>
    rw [Bears, hline] at h
    obtain rfl : c = '#' := by simpa using h
    rfl

/-- A run comes, line numbers apart, to what its lines that bear something come to one after the other. -/
lemma run_withoutLines (s : State) (number : Nat) (lines : List Text) :
    ((s.run number lines).mapError (·.fault)).map withoutLines =
      (bearing lines).foldlM (fun t line => t.step 0 line) s.withoutLines := by
  induction lines generalizing s number with
  | nil => rfl
  | cons raw more ih =>
    rw [run, bearing, List.filter_cons]
    -- a line that bears nothing changes nothing but the number of the next one
    by_cases hbears : Bears raw
    · rw [decide_eq_true hbears, if_pos rfl, List.map_cons, List.foldlM_cons, step_trim,
        step_withoutLines s number]
      cases s.step number raw with
      | error fault => rfl
      | ok t => exact ih t (number + 1)
    · rw [decide_eq_false hbears, if_neg Bool.false_ne_true, step_of_not_bears s number hbears]
      exact ih s (number + 1)

/-- Readings that hold the same but for line numbers come to the same ends. -/
lemma finish_withoutLines (h : s.withoutLines = t.withoutLines) :
    Directive.equivalent s.finish.directives t.finish.directives = true ∧
      s.finish.diagnostics.map (·.problem) = t.finish.diagnostics.map (·.problem) := by
  have hfinish := congrArg finish h
  rw [withoutLines, withoutLines, finish_renumbered, finish_renumbered] at hfinish
  obtain ⟨hdirectives, hevents⟩ := Parsed.mk.inj hfinish
  have hproblems (p : Parsed) : p.diagnostics.map (·.problem) =
      ((p.events.map (ParseEvent.renumber .erasing)).filterMap ParseEvent.diagnostic?).map
        (·.problem) := by
    rw [ParseEvent.filterMap_renumber, List.map_map]
    rfl
  refine ⟨?_, ?_⟩
  · rw [Directive.equivalent_iff, Directive.withoutLinesAll_eq, Directive.withoutLinesAll_eq]
    exact hdirectives
  · rw [hproblems, hproblems]
    exact congrArg (fun events => (events.filterMap ParseEvent.diagnostic?).map (·.problem)) hevents

end Parser.State

/-- Readings whose states, or the faults that stopped them, are the same but for line numbers come to the same
but for line numbers. -/
lemma sameReading_finish {r r' : Except ParseFailure Parser.State}
    (h : (r.mapError (·.fault)).map Parser.State.withoutLines =
      (r'.mapError (·.fault)).map Parser.State.withoutLines) :
    SameReading (r.map Parser.State.finish) (r'.map Parser.State.finish) := by
  cases r with
  | error f =>
    cases r' with
    | error g => exact .stopped (Except.error.inj h)
    | ok t => cases h
  | ok s =>
    cases r' with
    | error g => cases h
    | ok t =>
      obtain ⟨hdirectives, hproblems⟩ := Parser.State.finish_withoutLines (Except.ok.inj h)
      exact .read hdirectives hproblems

/-- Texts with the same lines but for blank lines, comments and the whitespace around lines come to the same
but for line numbers. -/
theorem parse_layout {x y : Text} (h : bearingLines x = bearingLines y) :
    SameReading (parse x) (parse y) := by
  rw [bearingLines, bearingLines] at h
  apply sameReading_finish
  rw [Parser.State.run_withoutLines, Parser.State.run_withoutLines, h]

/-- Two blocks that are not closed, one of them inside another block, and a line that cannot be read. -/
def plainText : Text :=
  "<Files a>\nRequire all denied\n<Limit GET>\n</Files>\nnonsense\n<IfModule m>".toList

/-- The same lines with comments and blank lines between them, indented, and ended by carriage returns. -/
def spreadText : Text :=
  ("\r\n# c\n\t<Files a> \r\n\u3000Require all denied\r\n\r\n  <Limit GET>\r\n  #</Limit>\r\n"
    ++ "</Files>\r\n\u00A0\n nonsense\r\n\x0b<IfModule m>\r\n").toList

/-- Two texts with the same bearing lines are read alike. -/
theorem parse_spreadText_layout :
    bearingLines plainText = bearingLines spreadText ∧
      SameReading (parse plainText) (parse spreadText) :=
  have hlines : bearingLines plainText = bearingLines spreadText := by decide +kernel
  ⟨hlines, parse_layout hlines⟩

end HtGate
