import HtGate.Proofs.Directive.Parsing
/-!
# New line numbers

A reading uses the numbers of lines for nothing but to note them. So a reading of the same lines under other
numbers, which goes on from what was read before, comes to the same under these numbers and on top of that.
The relation of the two is a function of the state, `renumbered`, with which every step commutes, whatever
the numbers are.
-/

namespace HtGate

/-- New numbers for lines. Lines are counted in natural numbers while a text is read and are integers in
what is read. -/
structure Renumbering where
  ofNat : Nat → Nat
  ofInt : Int → Int
  ofInt_natCast : ∀ n : Nat, ofInt n = ofNat n

namespace Directive

mutual

/-- The directive under new line numbers. -/
def renumber (g : Renumbering) : Directive → Directive
  | rule line r => rule (g.ofInt line) r
  | block line head children => block (g.ofInt line) head (renumberAll g children)

/-- The directives under new line numbers. -/
def renumberAll (g : Renumbering) : List Directive → List Directive
  | [] => []
  | d :: ds => renumber g d :: renumberAll g ds

end

/-- New line numbers are given to each part of a list. -/
lemma renumberAll_append (g : Renumbering) (ds es : List Directive) :
    renumberAll g (ds ++ es) = renumberAll g ds ++ renumberAll g es := by
  induction ds with
  | nil => rfl
  | cons d ds ih => rw [List.cons_append, renumberAll, renumberAll, ih, List.cons_append]

/-- New line numbers are given in any order. -/
lemma renumberAll_reverse (g : Renumbering) (ds : List Directive) :
    renumberAll g ds.reverse = (renumberAll g ds).reverse := by
  induction ds with
  | nil => rfl
  | cons d ds ih =>
    rw [List.reverse_cons, renumberAll_append, ih, renumberAll, renumberAll, renumberAll,
      List.reverse_cons]

end Directive

/-- The diagnostic under new line numbers. -/
def Diagnostic.renumber (g : Renumbering) (d : Diagnostic) : Diagnostic :=
  { d with line := g.ofNat d.line }

/-- The event under new line numbers. -/
def ParseEvent.renumber (g : Renumbering) : ParseEvent → ParseEvent
  | diagnosed d => diagnosed (d.renumber g)
  | badDuration line reason => badDuration (g.ofNat line) reason

/-- A remark under a new line number is the same remark on that line. -/
lemma ParseEvent.renumber_ofRemark (g : Renumbering) (number : Nat) (remark : Remark) :
    (ofRemark number remark).renumber g = ofRemark (g.ofNat number) remark := by
  cases remark <;> rfl

/-- The diagnostics among events under new line numbers are those under the old ones, renumbered. -/
lemma ParseEvent.filterMap_renumber (g : Renumbering) (events : List ParseEvent) :
    (events.map (renumber g)).filterMap diagnostic? =
      (events.filterMap diagnostic?).map (Diagnostic.renumber g) := by
  rw [List.filterMap_map, List.map_filterMap]
  congr 1
  funext e
  cases e <;> rfl

namespace Parser

open Directive (renumberAll renumberAll_reverse)

/-- The frame under new line numbers. -/
def Frame.renumber (g : Renumbering) (f : Frame) : Frame :=
  { f with line := g.ofNat f.line, children := renumberAll g f.children }

/-- A frame under new line numbers is closed to the block under these numbers. -/
lemma Frame.close_renumber (g : Renumbering) (f : Frame) :
    (f.renumber g).close = f.close.renumber g := by
  rw [close, close, Directive.renumber, renumberAll_reverse, g.ofInt_natCast]
  rfl

namespace State

/-- What a reading comes to, under new line numbers and on top of what was read before. -/
def renumbered (base : State) (g : Renumbering) (s : State) : State where
  top := renumberAll g s.top ++ base.top
  frames := s.frames.map (Frame.renumber g)
  events := s.events.map (ParseEvent.renumber g) ++ base.events

variable (base : State) (g : Renumbering) (number : Nat) (s : State)

/-- To add a directive commutes with new line numbers. -/
lemma add_renumbered (d : Directive) :
    (renumbered base g s).add (d.renumber g) = renumbered base g (s.add d) := by
  rw [add, add]
  cases hframes : s.frames with
  | nil => simp [renumbered, hframes, renumberAll]
  | cons f outer => simp [renumbered, hframes, Frame.renumber, renumberAll]

/-- To report a problem commutes with new line numbers. -/
lemma report_renumbered (problem : Problem) :
    (renumbered base g s).report (g.ofNat number) problem =
      renumbered base g (s.report number problem) := rfl

/-- To note remarks commutes with new line numbers. -/
lemma note_renumbered (remarks : List Remark) :
    (renumbered base g s).note (g.ofNat number) remarks =
      renumbered base g (s.note number remarks) := by
  have hremarks : remarks.map (ParseEvent.ofRemark (g.ofNat number)) =
      (remarks.map (ParseEvent.ofRemark number)).map (ParseEvent.renumber g) := by
    rw [List.map_map]
    congr 1
    funext remark
    exact (ParseEvent.renumber_ofRemark g number remark).symm
  simp [note, renumbered, hremarks]

/-- To discard frames commutes with new line numbers, since what is reported about them does not depend on
the numbers. -/
lemma discard_renumbered {problem : Frame → Problem}
    (hproblem : ∀ f, problem (f.renumber g) = problem f) (fs : List Frame) :
    discard problem (renumbered base g s) (fs.map (Frame.renumber g)) =
      renumbered base g (discard problem s fs) := by
  induction fs generalizing s with
  | nil => rfl
  | cons f fs ih =>
    rw [List.map_cons, discard, discard, hproblem]
    exact ih (s.report f.line (problem f))

/-- To close a block by its tag commutes with new line numbers, whether one is open or not. -/
lemma closeTag_renumbered (tag : Text) :
    (renumbered base g s).closeTag (g.ofNat number) tag =
      renumbered base g (s.closeTag number tag) := by
  -- a frame keeps its tag, so the same one is closed
  have hcloses : (fun f : Frame => !closes tag f) ∘ Frame.renumber g = fun f => !closes tag f := rfl
  have hframes : (renumbered base g s).frames = s.frames.map (Frame.renumber g) := rfl
  rw [closeTag, closeTag, hframes, List.dropWhile_map, List.takeWhile_map, hcloses]
  cases s.frames.dropWhile fun f => !closes tag f with
  | nil => exact report_renumbered base g number s _
  | cons f outer =>
    simp only [List.map_cons]
    rw [Frame.close_renumber, discard_renumbered base g s (fun _ => rfl)]
    exact add_renumbered base g { discard _ s _ with frames := outer } f.close

/-- A line that closes a block commutes with new line numbers. -/
lemma closeLine_renumbered (line : Text) :
    (renumbered base g s).closeLine (g.ofNat number) line =
      renumbered base g (s.closeLine number line) := by
  rw [closeLine, closeLine]
  cases BlockTag.closing? line with
  | none => exact report_renumbered base g number s _
  | some tag =>
    dsimp only
    split
    · exact closeTag_renumbered base g number s tag
    · exact report_renumbered base g number s _

/-- A line that opens a block commutes with new line numbers. -/
lemma openLine_renumbered (line : Text) :
    (renumbered base g s).openLine (g.ofNat number) line =
      renumbered base g (s.openLine number line) := by
  rw [openLine_eq, openLine_eq]
  cases BlockTag.read? line with
  | none => exact report_renumbered base g number s _
  | some found => rfl

/-- A line with a rule commutes with new line numbers, and stops the reading under all of them or under
none. -/
lemma ruleLine_renumbered (line : Text) :
    (renumbered base g s).ruleLine (g.ofNat number) line =
      (s.ruleLine number line).map (renumbered base g) := by
  rw [ruleLine, ruleLine]
  cases RuleReader.read line with
  | error fault => rfl
  | ok reading =>
    dsimp only
    rw [note_renumbered]
    cases reading.rule with
    | none =>
      dsimp only
      rw [report_renumbered]
      rfl
    | some r =>
      have hrule : Directive.rule (g.ofNat number) r = (Directive.rule number r).renumber g := by
        rw [Directive.renumber, g.ofInt_natCast]
      dsimp only
      rw [hrule, add_renumbered]
      rfl

/-- A step under new line numbers comes to what it comes to, under these numbers. -/
lemma step_renumbered (raw : Text) :
    (renumbered base g s).step (g.ofNat number) raw =
      (s.step number raw).map (renumbered base g) := by
  rw [step, step]
  split
  · rfl
  · rfl
  · rw [closeLine_renumbered]
    rfl
  · rw [openLine_renumbered]
    rfl
  · exact ruleLine_renumbered base g number s _

/-- The end of a reading under new line numbers. -/
lemma finish_renumbered :
    (renumbered base g s).finish =
      ⟨base.top.reverse ++ renumberAll g s.finish.directives,
        base.events.reverse ++ s.finish.events.map (ParseEvent.renumber g)⟩ := by
  have hdiscard : discard (fun f => .unclosed f.tag) (renumbered base g s)
      (s.frames.map (Frame.renumber g)) = _ :=
    discard_renumbered base g s (fun _ => rfl) s.frames
  rw [finish, show (renumbered base g s).frames = s.frames.map (Frame.renumber g) from rfl, hdiscard,
    finish, discard_eq]
  simp [renumbered, renumberAll_reverse]

end State

end Parser

end HtGate
