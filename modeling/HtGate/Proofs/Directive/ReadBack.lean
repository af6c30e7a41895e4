import HtGate.Proofs.Directive.Printing
/-!
# Reading what was written

What a sequence of directives is read back as, line by line: a rule as some rule or not at all, a block
as a block with the same head. Reading the lines of a sequence leaves the reading in progress as if the
directives that are read back had been added one after another, whatever stands around the lines.
-/

namespace HtGate

namespace Remark

/-- The problem that a remark reports. -/
def problem? : Remark → Option Problem
  | unknownOption word => some (.unknownOption word)
  | badDuration _ => none

end Remark

namespace ParseEvent

/-- The problem that an event reports. -/
def problem? (e : ParseEvent) : Option Problem := e.diagnostic?.map (·.problem)

/-- The problem of the event of a remark is that of the remark. -/
lemma problem?_ofRemark (line : Nat) (remark : Remark) :
    (ofRemark line remark).problem? = remark.problem? := by
  cases remark <;> rfl

end ParseEvent

namespace Directive

/-- What a sequence of directives is read back as from its lines, with the problems that are reported.
Line numbers may change. -/
inductive ReadBack : List Directive → List Directive → List Problem → Prop where
  | nil : ReadBack [] [] []
  | rule {line line' r r' t remarks ds es ps} :
    Printer.rule r = .ok t → RuleReader.read (Text.trim t) = .ok ⟨some r', remarks⟩ →
    ReadBack ds es ps →
    ReadBack (.rule line r :: ds) (.rule line' r' :: es) (remarks.filterMap Remark.problem? ++ ps)
  | lost {line r t remarks ds es ps} :
    Printer.rule r = .ok t → RuleReader.read (Text.trim t) = .ok ⟨none, remarks⟩ →
    ReadBack ds es ps →
    ReadBack (.rule line r :: ds) es
      (remarks.filterMap Remark.problem? ++ .unreadable (Text.trim t) :: ps)
  | block {line line' head children children' ds es ps qs} :
    ReadBack children children' ps →
    ReadBack ds es qs →
    ReadBack (.block line head children :: ds) (.block line' head children' :: es) (ps ++ qs)

end Directive

namespace Parser.State

open Directive (Everywhere ReadBack)

/-- The reading in progress with more directives. -/
def addAll (s : State) (ds : List Directive) : State := ds.foldl add s

/-- The reading in progress with more events, the latest first. -/
def withEvents (s : State) (events : List ParseEvent) : State :=
  { s with events := events ++ s.events }

/-- Events make no difference for a directive that is added. -/
lemma add_withEvents (s : State) (events : List ParseEvent) (d : Directive) :
    (s.withEvents events).add d = (s.add d).withEvents events := by
  obtain ⟨top, frames, evs⟩ := s
  cases frames <;> rfl

/-- Events make no difference for the directives that are added. -/
lemma addAll_withEvents (s : State) (events : List ParseEvent) (ds : List Directive) :
    (s.withEvents events).addAll ds = (s.addAll ds).withEvents events := by
  induction ds generalizing s with
  | nil => rfl
  | cons d ds ih => exact (congrArg (addAll · ds) (add_withEvents s events d)).trans (ih (s.add d))

/-- Events come after earlier events. -/
lemma withEvents_withEvents (s : State) (events more : List ParseEvent) :
    (s.withEvents events).withEvents more = s.withEvents (more ++ events) := by
  simp [withEvents]

/-- A directive that is added after events, and others after it, before more events. -/
lemma addAll_add_withEvents (s : State) (earlier later : List ParseEvent) (d : Directive)
    (ds : List Directive) :
    (((s.withEvents earlier).add d).addAll ds).withEvents later =
      (s.addAll (d :: ds)).withEvents (later ++ earlier) := by
  rw [← withEvents_withEvents, ← addAll_withEvents s earlier (d :: ds)]
  rfl

/-- Directives that are added come into the innermost open block. -/
lemma addAll_frames {s : State} {f : Frame} {outer : List Frame} (h : s.frames = f :: outer)
    (ds : List Directive) :
    s.addAll ds = { s with frames := { f with children := ds.reverse ++ f.children } :: outer } := by
  induction ds generalizing s f with
  | nil =>
    obtain ⟨top, frames, events⟩ := s
    cases h
    rfl
  | cons d ds ih =>
    have hadd : s.add d = { s with frames := { f with children := d :: f.children } :: outer } := by
      rw [add, h]
    show (s.add d).addAll ds = _
    rw [ih (f := { f with children := d :: f.children }) (by rw [hadd]), hadd]
    simp

/-- Directives that are added outside blocks come to the others there. -/
lemma addAll_top {s : State} (h : s.frames = []) (ds : List Directive) :
    s.addAll ds = { s with top := ds.reverse ++ s.top } := by
  induction ds generalizing s with
  | nil => rfl
  | cons d ds ih =>
    have hadd : s.add d = { s with top := d :: s.top } := by
      rw [add, h]
    show (s.add d).addAll ds = _
    rw [ih (by rw [hadd]; exact h), hadd]
    simp

/-- A closing tag closes the innermost open block if that has the tag's word. -/
lemma closeTag_innermost {s : State} {f : Frame} {outer : List Frame} (h : s.frames = f :: outer)
    {tag : Text} (htag : closes tag f = true) (number : Nat) :
    s.closeTag number tag = { s with frames := outer }.add f.close := by
  simp [closeTag, h, htag, discard]

/-- A line that is written for a rule adds the rule that is read. -/
lemma step_rule {s : State} {number : Nat} {raw : Text} {c : Char} {u : Text}
    (hraw : Text.trim raw = c :: u) (hc : Text.isAsciiLetter c = true) :
    s.step number raw = s.ruleLine number (c :: u) := by
  rw [← hraw]
  refine step_unmarked (by simp [hraw]) ?_ s number
  rw [hraw]
  rintro d ⟨⟩
  constructor <;> rintro rfl <;> cases hc

/-- A line that is written for the head of a block opens the block. -/
lemma step_opening {s : State} {number : Nat} {raw : Text} {c : Char} {u : Text}
    (hraw : Text.trim raw = '<' :: c :: u) (hc : c ≠ '/') :
    s.step number raw = .ok (s.openLine number ('<' :: c :: u)) := by
  simp only [step, hraw]
  split
  · rename_i h
    cases h
  · rename_i h
    cases h
  · rename_i h
    cases h
    exact absurd rfl hc
  · rfl
  · rename_i h
    exact absurd rfl (h _)

/-- The closing tag of a kind closes the innermost open block if that has the kind's word. -/
lemma step_closeTag {s : State} {number : Nat} {raw : Text} {kind : BlockKind}
    (hraw : Text.trim raw = Printer.closeTag kind) {f : Frame} {outer : List Frame}
    (h : s.frames = f :: outer) (htag : closes kind.tag f = true) :
    s.step number raw = .ok ({ s with frames := outer }.add f.close) := by
  have hclose : s.closeLine number (Printer.closeTag kind) =
      { s with frames := outer }.add f.close := by
    rw [closeLine, BlockTag.closing?_closeTag]
    simp only [BlockTag.kind?_tag, Option.isSome_some, if_true]
    exact closeTag_innermost h htag number
  have hline : Printer.closeTag kind = '<' :: '/' :: (kind.tag ++ ['>']) := rfl
  simp only [step, hraw]
  rw [← hclose, hline]
  rfl

/-- The problems that events report, the earliest first. -/
def problems (events : List ParseEvent) : List Problem :=
  events.reverse.filterMap ParseEvent.problem?

/-- The problems of later events come after those of earlier ones. -/
lemma problems_append (later earlier : List ParseEvent) :
    problems (later ++ earlier) = problems earlier ++ problems later := by
  simp [problems]

/-- The events of remarks report their problems. -/
lemma problems_ofRemarks (number : Nat) (remarks : List Remark) :
    problems (remarks.map (ParseEvent.ofRemark number)).reverse =
      remarks.filterMap Remark.problem? := by
  rw [problems, List.reverse_reverse, List.filterMap_map]
  exact List.filterMap_congr fun remark _ => ParseEvent.problem?_ofRemark number remark

/-- A line that is stepped over before others. -/
lemma run_cons_of_step {s s' : State} {number : Nat} {raw : Text} {more : List Text}
    (h : s.step number raw = .ok s') : s.run number (raw :: more) = s'.run (number + 1) more := by
  rw [run, h]

end Parser.State

namespace Statement

/-- Whether the line of a statement can be read at all: as a rule or not, or as the same head. -/
def Readable : Statement → Prop
  | rule r => ∃ t reading, Printer.rule r = .ok t ∧ RuleReader.read (Text.trim t) = .ok reading
  | opening head => head.Stable

end Statement

namespace Parser.State

open Directive (Everywhere ReadBack)
open Printer (linesAll pad IsIndent linesAll_rule_iff linesAll_block_iff trim_pad_append)

/-- A reading that ends without a fault has read every line that begins with a letter. -/
lemma read_of_run {s s' : State} {number : Nat} {lines : List Text}
    (h : s.run number lines = .ok s') {raw : Text} (hraw : raw ∈ lines) {c : Char} {u : Text}
    (htrim : Text.trim raw = c :: u) (hc : Text.isAsciiLetter c = true) :
    ∃ reading, RuleReader.read (c :: u) = .ok reading := by
  induction lines generalizing s number with
  | nil => cases hraw
  | cons first more ih =>
    obtain ⟨t, hstep, hmore⟩ := run_cons.1 h
    rcases List.mem_cons.1 hraw with rfl | hraw
    · rw [step_rule htrim hc, ruleLine] at hstep
      cases hread : RuleReader.read (c :: u) with
      | error fault => simp [hread] at hstep
      | ok reading => exact ⟨reading, rfl⟩
    · exact ih hmore hraw

/-- Reading the lines adds what the directives are read back as, wherever the lines stand. -/
def Adds (ls : List Text) (ds : List Directive) : Prop :=
  ∀ (s : State) (number : Nat) (more : List Text), ∃ es events,
    ReadBack ds es (problems events) ∧
      s.run number (ls ++ more) = ((s.addAll es).withEvents events).run (number + ls.length) more

/-- The line of a rule that can be read, before lines that add what comes after it. -/
lemma Adds.rule {indent : Text} (hindent : IsIndent indent) {depth : Nat} {line : Int} {r : Rule}
    {t : Text} {lines : List Text} {ds : List Directive} (hw : r.WellFormed)
    (hr : Statement.Readable (.rule r)) (hprint : Printer.rule r = .ok t) (ih : Adds lines ds) :
    Adds ((pad indent depth ++ t) :: lines) (.rule line r :: ds) := by
  intro s number more
  obtain ⟨t', ⟨read, remarks⟩, hprint', hread⟩ := hr
  obtain ⟨reader, u, hline⟩ := Rule.WellFormed.line hw
  obtain ⟨t'', hprint'', -, c, v, htrim, hc⟩ := hline.written
  obtain rfl := Except.ok.inj (hprint.symm.trans hprint')
  obtain rfl := Except.ok.inj (hprint.symm.trans hprint'')
  have hstep : s.step number (pad indent depth ++ t) = s.ruleLine number (c :: v) :=
    step_rule ((trim_pad_append hindent depth t).trans htrim) hc
  rw [htrim] at hread
  let noted := (remarks.map (ParseEvent.ofRemark number)).reverse
  cases read with
  | none =>
    -- the line is reported, and nothing is added
    let lost := ParseEvent.diagnosed ⟨number, .unreadable (c :: v)⟩
    obtain ⟨es, events, hback, hrun⟩ :=
      ih ((s.withEvents noted).withEvents [lost]) (number + 1) more
    have hs : s.step number (pad indent depth ++ t) =
        .ok ((s.withEvents noted).withEvents [lost]) := by
      rw [hstep, ruleLine, hread]
      rfl
    refine ⟨es, (events ++ [lost]) ++ noted, ?_, ?_⟩
    · have : ReadBack (.rule line r :: ds) es _ := hback.lost hprint (htrim.symm ▸ hread)
      rw [← problems_ofRemarks number, htrim] at this
      rwa [problems_append, problems_append]
    · rw [List.cons_append, run_cons_of_step hs, hrun, addAll_withEvents, addAll_withEvents,
        withEvents_withEvents, withEvents_withEvents, List.length_cons, Nat.add_right_comm,
        Nat.add_assoc, List.append_assoc]
  | some r' =>
    obtain ⟨es, events, hback, hrun⟩ :=
      ih ((s.withEvents noted).add (.rule number r')) (number + 1) more
    have hs : s.step number (pad indent depth ++ t) =
        .ok ((s.withEvents noted).add (.rule number r')) := by
      rw [hstep, ruleLine, hread]
      rfl
    refine ⟨.rule number r' :: es, events ++ noted, ?_, ?_⟩
    · have : ReadBack (.rule line r :: ds) (.rule number r' :: es) _ :=
        hback.rule hprint (htrim.symm ▸ hread)
      rwa [← problems_ofRemarks number, ← problems_append] at this
    · rw [List.cons_append, run_cons_of_step hs, hrun, List.length_cons, addAll_add_withEvents,
        Nat.add_right_comm, Nat.add_assoc]

/-- A head that is read back as itself opens a block, whatever is being read. -/
lemma step_head {indent : Text} (hindent : IsIndent indent) (depth : Nat) {head : BlockHead}
    {first : Text} (hw : head.WellFormed) (hstable : head.Stable)
    (hprint : Printer.openTag head = .ok first) (s : State) (number : Nat) :
    s.step number (pad indent depth ++ first) =
      .ok { s with frames := ⟨number, head.kind.tag, head, []⟩ :: s.frames } := by
  obtain ⟨argument, hopening⟩ := BlockTag.opening_of_wellFormed hw
  obtain ⟨c, u, heq, hc, -, htrim⟩ := hopening.line
  rw [hopening.written] at hprint
  cases hprint
  rw [heq] at htrim ⊢
  rw [step_opening ((trim_pad_append hindent depth _).trans htrim) hc, openLine_eq, ← heq,
    (hopening.read?_iff).2 ⟨rfl, hstable⟩]

/-- The closing tag that is written for the innermost open block turns the block into a directive,
after whatever events its lines reported. -/
lemma step_closing {indent : Text} (hindent : IsIndent indent) (depth : Nat) (head : BlockHead)
    (s : State) (opened number : Nat) (children : List Directive) (events : List ParseEvent) :
    State.step ((State.addAll
        { s with frames := ⟨opened, head.kind.tag, head, []⟩ :: s.frames } children).withEvents
          events) number (pad indent depth ++ Printer.closeTag head.kind) =
      .ok ((s.withEvents events).add (.block opened head children)) := by
  let f : Frame := ⟨opened, head.kind.tag, head, children.reverse⟩
  have hinner : (State.addAll
      { s with frames := ⟨opened, head.kind.tag, head, []⟩ :: s.frames } children).withEvents
        events = { s.withEvents events with frames := f :: s.frames } := by
    rw [addAll_frames rfl, List.append_nil]
    rfl
  have htag : Text.trim (Printer.closeTag head.kind) = Printer.closeTag head.kind :=
    Text.trim_eq_self_iff.2 (.inr ⟨⟨'<', rfl, rfl⟩, Text.endsSolid_concat _ rfl⟩)
  -- no frame is left inside, so that the closing tag meets the block it belongs to
  rw [hinner, step_closeTag ((trim_pad_append hindent depth _).trans htag) rfl
    (beq_self_eq_true _), Frame.close, List.reverse_reverse]
  rfl

/-- The lines of a block whose head is read back as itself, around lines that add its children and
before lines that add what comes after it. -/
lemma Adds.block {indent : Text} (hindent : IsIndent indent) {depth : Nat} {line : Int}
    {head : BlockHead} {first : Text} {inside lines : List Text} {children ds : List Directive}
    (hw : head.WellFormed) (hstable : head.Stable) (hprint : Printer.openTag head = .ok first)
    (ihc : Adds inside children) (ih : Adds lines ds) :
    Adds ((pad indent depth ++ first) ::
        (inside ++ (pad indent depth ++ Printer.closeTag head.kind) :: lines))
      (.block line head children :: ds) := by
  intro s number more
  -- the head opens a block, its children are added to it, and its closing tag closes it
  obtain ⟨children', events, hback, hrun⟩ :=
    ihc { s with frames := ⟨number, head.kind.tag, head, []⟩ :: s.frames } (number + 1)
      ((pad indent depth ++ Printer.closeTag head.kind) :: (lines ++ more))
  obtain ⟨es, events', hback', hrun'⟩ :=
    ih ((s.withEvents events).add (.block number head children'))
      (number + 1 + inside.length + 1) more
  refine ⟨.block number head children' :: es, events' ++ events, ?_, ?_⟩
  · rw [problems_append]
    exact .block hback hback'
  · rw [List.cons_append, List.append_assoc, List.cons_append,
      run_cons_of_step (step_head hindent depth hw hstable hprint s number), hrun,
      run_cons_of_step (step_closing hindent depth head s number _ children' events), hrun',
      addAll_add_withEvents]
    congr 1
    simp only [List.length_cons, List.length_append]
    omega

/-- Reading the lines of a sequence adds what the sequence is read back as. -/
theorem run_linesAll {indent : Text} (hindent : IsIndent indent) {ds : List Directive}
    (hw : Everywhere Statement.WellFormed ds) (hr : Everywhere Statement.Readable ds) {depth : Nat}
    {ls : List Text} (h : linesAll indent depth ds = .ok ls) : Adds ls ds := by
  induction ds using Directive.forest_induction generalizing depth ls with
  | nil =>
    cases h
    exact fun _ _ _ => ⟨[], [], .nil, rfl⟩
  | rule line r ds ih =>
    obtain ⟨hwr, hwds⟩ := Directive.everywhere_rule.1 hw
    obtain ⟨hrr, hrds⟩ := Directive.everywhere_rule.1 hr
    obtain ⟨t, lines, hprint, hlines, rfl⟩ := linesAll_rule_iff.1 h
    exact .rule hindent hwr hrr hprint (ih hwds hrds hlines)
  | block line head children ds ihc ih =>
    obtain ⟨hwhead, hwchildren, hwds⟩ := Directive.everywhere_block.1 hw
    obtain ⟨hstable, hrchildren, hrds⟩ := Directive.everywhere_block.1 hr
    obtain ⟨first, inside, lines, hprint, hinside, hlines, rfl⟩ := linesAll_block_iff.1 h
    exact .block hindent hwhead hstable hprint (ihc hwchildren hrchildren hinside)
      (ih hwds hrds hlines)

end Parser.State

end HtGate
