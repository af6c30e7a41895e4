import HtGate.Proofs.Directive.Accounting
import HtGate.Proofs.Directive.Renumbering
/-!
# Configurations one after the other

Two texts with a line feed between them are read as one is and then the other, with the line numbers of the
second raised by the lines of the first, if no block is open where the first one ends. A reading of the
second text on its own and one that goes on from the first text are compared step by step: the one holds
what the other holds, with raised line numbers and on top of what the first text has left. That relation is
a function of the state, `after`, and raising numbers is one way to renumber lines.
-/

namespace HtGate

namespace Directive

mutual

/-- The directive with every line number raised. -/
def raise (k : Nat) : Directive → Directive
  | rule line r => rule (line + k) r
  | block line head children => block (line + k) head (raiseAll k children)

/-- The directives with every line number raised. -/
def raiseAll (k : Nat) : List Directive → List Directive
  | [] => []
  | d :: ds => raise k d :: raiseAll k ds

end

end Directive

/-- Line numbers raised by the same number. -/
def Renumbering.raising (k : Nat) : Renumbering where
  ofNat := (· + k)
  ofInt := (· + k)
  ofInt_natCast n := (Int.natCast_add n k).symm

/-- To raise line numbers is to renumber. -/
lemma Directive.raiseAll_eq (k : Nat) (ds : List Directive) :
    raiseAll k ds = renumberAll (.raising k) ds := by
  induction ds using forest_induction with
  | nil => rfl
  | rule line r ds ih => rw [raiseAll, renumberAll, ih, raise, renumber, Renumbering.raising]
  | block line head children ds ihc ih =>
    rw [raiseAll, renumberAll, ih, raise, renumber, ihc, Renumbering.raising]

/-- The diagnostic with its line number raised. -/
def Diagnostic.raise (k : Nat) (d : Diagnostic) : Diagnostic := { d with line := d.line + k }

/-- The event with its line number raised. -/
def ParseEvent.raise (k : Nat) : ParseEvent → ParseEvent
  | diagnosed d => diagnosed (d.raise k)
  | badDuration line reason => badDuration (line + k) reason

/-- To raise the line of an event is to renumber it. -/
lemma ParseEvent.raise_eq (k : Nat) : raise k = renumber (.raising k) := by
  funext e
  cases e <;> rfl

/-- The diagnostics among raised events are the raised diagnostics. -/
lemma ParseEvent.filterMap_raise (k : Nat) (events : List ParseEvent) :
    (events.map (raise k)).filterMap diagnostic? =
      (events.filterMap diagnostic?).map (Diagnostic.raise k) := by
  rw [raise_eq]
  exact filterMap_renumber (.raising k) events

namespace Text

/-- A text is split into one piece more than it has separators. -/
lemma length_splitOn (sep : Char → Bool) (t : Text) :
    (splitOn sep t).length = t.countP sep + 1 := by
  induction t with
  | nil => rfl
  | cons c t ih =>
    cases hc : sep c with
    | true => rw [splitOn_cons_of_sep hc, List.length_cons, ih, List.countP_cons_of_pos hc]
    | false =>
      obtain ⟨piece, more, ht⟩ := List.exists_cons_of_ne_nil (splitOn_ne_nil sep t)
      rw [ht, List.length_cons] at ih
      rw [splitOn_cons_of_not_sep hc ht, List.length_cons, ih,
        List.countP_cons_of_neg (by simp [hc])]

end Text

namespace Parser

open Directive (raiseAll raiseAll_eq)

/-- The frame with every line number raised. -/
def Frame.raise (k : Nat) (f : Frame) : Frame :=
  { f with line := f.line + k, children := raiseAll k f.children }

/-- To raise the lines of a frame is to renumber it. -/
lemma Frame.raise_eq (k : Nat) : raise k = renumber (.raising k) := by
  funext f
  rw [raise, raiseAll_eq]
  rfl

namespace State

/-- What a reading comes to, with raised line numbers and on top of what was read before. -/
def after (base : State) (k : Nat) (s : State) : State where
  top := raiseAll k s.top ++ base.top
  frames := s.frames.map (Frame.raise k)
  events := s.events.map (ParseEvent.raise k) ++ base.events

variable (base : State) (k number : Nat) (s : State)

/-- A state after others is the state renumbered on top of them. -/
lemma after_eq : after base k s = renumbered base (.raising k) s := by
  rw [after, raiseAll_eq, Frame.raise_eq, ParseEvent.raise_eq]
  rfl

/-- A step commutes with raised line numbers on top of what was read before. -/
lemma step_after (raw : Text) :
    (after base k s).step (number + k) raw = (s.step number raw).map (after base k) := by
  have hafter : after base k = renumbered base (.raising k) := funext fun s => after_eq base k s
  rw [hafter]
  exact step_renumbered base (.raising k) number s raw

variable {base k number s}

/-- A run commutes with raised line numbers on top of what was read before. -/
lemma run_after {t : State} {lines : List Text} (h : s.run number lines = .ok t) :
    (after base k s).run (number + k) lines = .ok (after base k t) := by
  induction lines generalizing s number with
  | nil =>
    cases h
    rfl
  | cons raw more ih =>
    obtain ⟨s', hstep, hrest⟩ := run_cons.1 h
    have hmore := ih hrest
    rw [Nat.add_right_comm] at hmore
    refine run_cons.2 ⟨after base k s', ?_, hmore⟩
    rw [step_after, hstep]
    rfl

/-- What a state after others ends with is what they hold, and behind it what the state ends with, raised. -/
lemma finish_after :
    (after base k s).finish =
      ⟨base.top.reverse ++ raiseAll k s.finish.directives,
        base.events.reverse ++ s.finish.events.map (ParseEvent.raise k)⟩ := by
  rw [after_eq, finish_renumbered, raiseAll_eq, ParseEvent.raise_eq]

/-- A reading with no block open ends with what it holds. -/
lemma finish_of_frames (h : s.frames = []) : s.finish = ⟨s.top.reverse, s.events.reverse⟩ := by
  rw [finish, h]
  rfl

/-- A reading with no block open is one that nothing has been added to. -/
lemma after_empty (h : base.frames = []) : after base k {} = base := by
  cases base
  cases h
  rfl

end State

end Parser

/-- Whether no block is open when all lines of a text have been read. -/
def EndsClosed (content : Text) : Prop :=
  ∀ m tag, ¬Parser.OpenAt (Text.splitOn (· == '\n') content)
    (Text.splitOn (· == '\n') content).length m tag

open Parser.State in
/-- Two texts, of which the first ends with no block open, are read one after the other as they are read on
their own, with the line numbers of the second raised by the lines of the first. -/
theorem parse_append {a b : Text} {pa pb : Parsed} (ha : parse a = .ok pa) (hb : parse b = .ok pb)
    (hclosed : EndsClosed a) :
    ∃ p, parse (a ++ '\n' :: b) = .ok p ∧
      p.directives = pa.directives ++ Directive.raiseAll (a.count '\n' + 1) pb.directives ∧
      p.diagnostics = pa.diagnostics ++ pb.diagnostics.map (Diagnostic.raise (a.count '\n' + 1)) := by
  rw [parse] at ha hb
  cases hruna : run {} 1 (Text.splitOn (· == '\n') a) with
  | error failure =>
    rw [hruna] at ha
    cases ha
  | ok sa =>
    cases hrunb : run {} 1 (Text.splitOn (· == '\n') b) with
    | error failure =>
      rw [hrunb] at hb
      cases hb
    | ok sb =>
      rw [hruna] at ha
      rw [hrunb] at hb
      cases ha
      cases hb
      have hreaches : Parser.Reaches (Text.splitOn (· == '\n') a)
          (Text.splitOn (· == '\n') a).length sa := by
        rw [Parser.Reaches, List.take_length]
        exact hruna
      have hframes : sa.frames = [] := by
        apply List.eq_nil_iff_forall_not_mem.2
        intro f hf
        exact hclosed f.line f.tag ⟨sa, hreaches, f, hf, rfl, rfl⟩
      -- the second text is read from where the first one ends, which is an empty reading on top of it
      have hrun : run {} 1 (Text.splitOn (· == '\n') (a ++ '\n' :: b)) =
          .ok (after sa (a.count '\n' + 1) sb) := by
        rw [Text.splitOn_append_of_sep rfl, run_append, hruna, Except.bind, Text.length_splitOn]
        have hmore : (after sa (a.count '\n' + 1) {}).run (1 + (a.count '\n' + 1)) _ = _ := run_after hrunb
        rw [after_empty hframes] at hmore
        exact hmore
      refine ⟨(after sa (a.count '\n' + 1) sb).finish, ?_, ?_, ?_⟩
      · rw [parse, hrun]
        rfl
      · rw [finish_after, finish_of_frames hframes]
      · rw [Parsed.diagnostics, finish_after, finish_of_frames hframes, List.filterMap_append,
          ParseEvent.filterMap_raise]
        rfl

/-- A closed block, with a line that cannot be read. -/
def closedText : Text := "<Files a>\nRequire all denied\nnonsense\n</Files>".toList

/-- Lines with a tag that closes nothing, a block that is discarded and one that is left open. -/
def brokenText : Text :=
  "</Files>\n<IfModule m>\n<Limit GET>\n</IfModule>\nRequire all granted\n<Files b>".toList

/-- The second text keeps its directives and diagnostics behind the first one, four lines further down. -/
theorem parse_closedText_append :
    EndsClosed closedText ∧
    ∃ p, parse (closedText ++ '\n' :: brokenText) = .ok p ∧
      p.directives =
        [.block 1 { kind := .files, name := some ['a'] } [.rule 2 { kind := .requireAllDenied }],
          .block 6 { kind := .ifModule, name := some ['m'] } [],
          .rule 9 { kind := .requireAllGranted }] ∧
      p.diagnostics.map (·.line) = [3, 5, 7, 10] := by
  have ha : parse closedText = .ok
      ⟨[.block 1 { kind := .files, name := some ['a'] } [.rule 2 { kind := .requireAllDenied }]],
        [.diagnosed ⟨3, .unreadable "nonsense".toList⟩]⟩ := rfl
  have hb : parse brokenText = .ok
      ⟨[.block 2 { kind := .ifModule, name := some ['m'] } [], .rule 5 { kind := .requireAllGranted }],
        [.diagnosed ⟨1, .unmatchedClose "Files".toList⟩,
          .diagnosed ⟨3, .unclosedInside "Limit".toList "IfModule".toList⟩,
          .diagnosed ⟨6, .unclosed "Files".toList⟩]⟩ := rfl
  have hclosed : EndsClosed closedText := by
    rintro m tag ⟨s, hreaches, f, hf, -⟩
    cases hreaches
    cases hf
  obtain ⟨p, hp, hdirectives, hdiagnostics⟩ := parse_append ha hb hclosed
  refine ⟨hclosed, p, hp, ?_, ?_⟩
  · rw [hdirectives]
    rfl
  · rw [hdiagnostics]
    rfl

end HtGate
