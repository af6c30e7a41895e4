import HtGate.Proofs.Directive.Parsing
/-!
# The lines of a forest

The lines that a sequence of directives is written as, rule by rule and block by block. A well-formed
sequence always has them; its text is split into the same lines again. What the lines state are the
statements of the sequence, each as far as its own line is read back.
-/

namespace HtGate.Printer

open Directive (Everywhere statements statementsOf)
open Parser.State (reading readings)

/-- The lines of a sequence that begins with a rule. -/
lemma linesAll_rule_iff {indent : Text} {depth : Nat} {line : Int} {r : Rule}
    {ds : List Directive} {ls : List Text} :
    linesAll indent depth (.rule line r :: ds) = .ok ls ↔
      ∃ t more, rule r = .ok t ∧ linesAll indent depth ds = .ok more ∧
        ls = (pad indent depth ++ t) :: more := by
  simp only [linesAll, lines]
  cases rule r with
  | error fault => simp [bind, Except.bind]
  | ok t => cases linesAll indent depth ds <;> simp [bind, Except.bind, eq_comm]

/-- The lines of a sequence that begins with a block. -/
lemma linesAll_block_iff {indent : Text} {depth : Nat} {line : Int} {head : BlockHead}
    {children ds : List Directive} {ls : List Text} :
    linesAll indent depth (.block line head children :: ds) = .ok ls ↔
      ∃ first inside more, openTag head = .ok first ∧
        linesAll indent (depth + 1) children = .ok inside ∧
        linesAll indent depth ds = .ok more ∧
        ls = (pad indent depth ++ first) ::
          (inside ++ (pad indent depth ++ closeTag head.kind) :: more) := by
  simp only [linesAll, lines]
  cases openTag head with
  | error fault => simp [bind, Except.bind]
  | ok first =>
    cases linesAll indent (depth + 1) children with
    | error fault => simp [bind, Except.bind]
    | ok inside => cases linesAll indent depth ds <;> simp [bind, Except.bind, eq_comm]

/-- A text that indents: blanks only. -/
def IsIndent (indent : Text) : Prop := ∀ c ∈ indent, Text.isBlank c = true

section Indent

variable {indent : Text} (hindent : IsIndent indent)

include hindent

/-- The indentation of a depth is blanks only. -/
lemma isIndent_pad (depth : Nat) : IsIndent (pad indent depth) := by
  intro c hc
  obtain ⟨t, ht, hct⟩ := List.mem_flatten.1 hc
  rw [List.eq_of_mem_replicate ht] at hct
  exact hindent c hct

/-- The indentation of a line is trimmed. -/
lemma trim_pad_append (depth : Nat) (t : Text) : Text.trim (pad indent depth ++ t) = Text.trim t :=
  Text.trim_append_left fun c hc =>
    Text.isWhitespace_of_isBlank (isIndent_pad hindent depth c hc)

/-- An indented line stands on one line. -/
lemma oneLine_pad_append (depth : Nat) {t : Text} (h : t.OneLine) :
    Text.OneLine (pad indent depth ++ t) := by
  refine Text.oneLine_append.2 ⟨fun hm => ?_, h⟩
  have hblank := isIndent_pad hindent depth _ hm
  cases hblank

end Indent

/-- A well-formed sequence has lines. None of them has a line feed if the indentation has none. -/
lemma linesAll_of_wellFormed (indent : Text) {ds : List Directive}
    (h : Everywhere Statement.WellFormed ds) (depth : Nat) :
    ∃ ls, linesAll indent depth ds = .ok ls ∧ (IsIndent indent → ∀ l ∈ ls, Text.OneLine l) := by
  induction ds using Directive.forest_induction generalizing depth with
  | nil => exact ⟨[], rfl, nofun⟩
  | rule line r ds ih =>
    obtain ⟨hr, hds⟩ := Directive.everywhere_rule.1 h
    obtain ⟨t, hprint, hline, -⟩ := Statement.written_of_wellFormed hr
    obtain ⟨more, hmore, hlines⟩ := ih hds depth
    refine ⟨_, linesAll_rule_iff.2 ⟨t, more, hprint, hmore, rfl⟩, fun hindent => ?_⟩
    exact List.forall_mem_cons.2 ⟨oneLine_pad_append hindent depth hline, hlines hindent⟩
  | block line head children ds ihc ih =>
    obtain ⟨hhead, hchildren, hds⟩ := Directive.everywhere_block.1 h
    obtain ⟨first, hprint, hline, -⟩ := Statement.written_of_wellFormed hhead
    obtain ⟨inside, hinside, hinsideLines⟩ := ihc hchildren (depth + 1)
    obtain ⟨more, hmore, hlines⟩ := ih hds depth
    refine ⟨_, linesAll_block_iff.2 ⟨first, inside, more, hprint, hinside, hmore, rfl⟩,
      fun hindent => ?_⟩
    -- the lines of a block are its opening, those inside it, its closing tag and what follows
    have hclose : (closeTag head.kind).OneLine := by cases head.kind <;> decide
    refine List.forall_mem_cons.2 ⟨oneLine_pad_append hindent depth hline, ?_⟩
    intro l hl
    rcases List.mem_append.1 hl with hl | hl
    · exact hinsideLines hindent l hl
    · exact List.forall_mem_cons.2 ⟨oneLine_pad_append hindent depth hclose, hlines hindent⟩ l hl

/-- A well-formed sequence has a written form, with whatever indentation. -/
lemma exists_print (indent : Text) {ds : List Directive} (h : Everywhere Statement.WellFormed ds) :
    ∃ text, print indent ds = .ok text := by
  obtain ⟨ls, hls, -⟩ := linesAll_of_wellFormed indent h 0
  refine ⟨ls.flatMap (· ++ ['\n']), ?_⟩
  rw [print, hls]
  rfl

/-- A well-formed sequence has a written form, which is split into its lines and a last one without
text. -/
lemma print_of_wellFormed {indent : Text} (hindent : IsIndent indent) {ds : List Directive}
    (h : Everywhere Statement.WellFormed ds) :
    ∃ ls, linesAll indent 0 ds = .ok ls ∧ print indent ds = .ok (ls.flatMap (· ++ ['\n'])) ∧
      Text.splitOn (· == '\n') (ls.flatMap (· ++ ['\n'])) = ls ++ [[]] := by
  obtain ⟨ls, hls, hlines⟩ := linesAll_of_wellFormed indent h 0
  refine ⟨ls, hls, ?_, Text.splitOn_lines (hlines hindent)⟩
  rw [print, hls]
  rfl

/-- Every rule of a sequence has a line among those of the sequence. -/
lemma exists_line {indent : Text} (hindent : IsIndent indent) {ds : List Directive} {depth : Nat}
    {ls : List Text} (h : linesAll indent depth ds = .ok ls) {number : Int} {r : Rule}
    (hr : (number, .rule r) ∈ statements ds) :
    ∃ raw ∈ ls, ∃ t, rule r = .ok t ∧ Text.trim raw = Text.trim t := by
  induction ds using Directive.forest_induction generalizing depth ls with
  | nil => cases hr
  | rule line r' ds ih =>
    obtain ⟨t, more, hprint, hmore, rfl⟩ := linesAll_rule_iff.1 h
    rcases List.mem_cons.1 hr with heq | hr
    · cases heq
      exact ⟨_, List.mem_cons_self, t, hprint, trim_pad_append hindent depth t⟩
    · obtain ⟨raw, hraw, hline⟩ := ih hmore hr
      exact ⟨raw, List.mem_cons_of_mem _ hraw, hline⟩
  | block line head children ds ihc ih =>
    obtain ⟨first, inside, more, hprint, hinside, hmore, rfl⟩ := linesAll_block_iff.1 h
    simp only [statements, statementsOf, List.cons_append, List.mem_cons, List.mem_append,
      Prod.mk.injEq, reduceCtorEq, and_false, false_or] at hr
    rcases hr with hr | hr
    · obtain ⟨raw, hraw, hline⟩ := ihc hinside hr
      exact ⟨raw, by simp [hraw], hline⟩
    · obtain ⟨raw, hraw, hline⟩ := ih hmore hr
      exact ⟨raw, by simp [hraw], hline⟩

/-- What the line of a statement states, if anything. -/
def reread (x : Statement) : Option Statement :=
  match x.written with
  | .ok t => Statement.ofLine? (Text.trim t)
  | .error _ => none

/-- A well-formed statement is what its line states exactly if it is stable. -/
lemma reread_iff {x : Statement} (h : x.WellFormed) : reread x = some x ↔ x.Stable := by
  obtain ⟨t, ht, -, hiff⟩ := Statement.written_of_wellFormed h
  rw [← hiff, reread, ht]

/-- A closing tag states nothing. -/
lemma ofLine?_closeTag (kind : BlockKind) :
    Statement.ofLine? (Text.trim (closeTag kind)) = none := by
  have htrim : Text.trim (closeTag kind) = closeTag kind :=
    Text.trim_eq_self_iff.2 (.inr ⟨⟨'<', rfl, rfl⟩, Text.endsSolid_concat _ rfl⟩)
  rw [htrim]
  rfl

/-- The statements of lines and more lines. -/
lemma readings_append (number : Nat) (ls more : List Text) :
    readings number (ls ++ more) = readings number ls ++ readings (number + ls.length) more := by
  induction ls generalizing number with
  | nil => rfl
  | cons l ls ih =>
    rw [List.cons_append, readings, readings, ih, List.append_assoc, List.length_cons,
      Nat.add_right_comm, Nat.add_assoc]

/-- An indented line states what its statement is read back as. -/
lemma reading_pad_append {indent : Text} (hindent : IsIndent indent) (depth number : Nat)
    {x : Statement} {t : Text} (hx : x.written = .ok t) :
    (reading number (pad indent depth ++ t)).map (·.2) = (reread x).toList := by
  rw [reading, trim_pad_append hindent, reread, hx]
  simp only
  cases Statement.ofLine? (Text.trim t) <;> rfl

/-- An indented closing tag states nothing. -/
lemma reading_closeTag {indent : Text} (hindent : IsIndent indent) (depth number : Nat)
    (kind : BlockKind) : reading number (pad indent depth ++ closeTag kind) = [] := by
  rw [reading, trim_pad_append hindent, ofLine?_closeTag]
  rfl

/-- The lines of a sequence state what its statements are read back as. -/
lemma readings_linesAll {indent : Text} (hindent : IsIndent indent) {ds : List Directive}
    {depth : Nat} {ls : List Text} (h : linesAll indent depth ds = .ok ls) (number : Nat) :
    (readings number ls).map (·.2) = ((statements ds).map (·.2)).filterMap reread := by
  induction ds using Directive.forest_induction generalizing depth number ls with
  | nil =>
    cases h
    rfl
  | rule line r ds ih =>
    obtain ⟨t, more, hprint, hmore, rfl⟩ := linesAll_rule_iff.1 h
    rw [readings, List.map_append, reading_pad_append hindent depth number (x := .rule r) hprint,
      ih hmore]
    simp only [statements, statementsOf, List.map_append, List.filterMap_append]
    cases hx : reread (.rule r) <;> simp [hx]
  | block line head children ds ihc ih =>
    obtain ⟨first, inside, more, hprint, hinside, hmore, rfl⟩ := linesAll_block_iff.1 h
    rw [readings, readings_append, readings, reading_closeTag hindent, List.nil_append,
      List.map_append, List.map_append,
      reading_pad_append hindent depth number (x := .opening head) hprint, ih hmore, ihc hinside]
    simp only [statements, statementsOf, List.map_append, List.map_cons, List.cons_append]
    cases hx : reread (.opening head) <;> simp [hx]

end HtGate.Printer
