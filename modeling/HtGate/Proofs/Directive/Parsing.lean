import HtGate.Proofs.Directive.StatementLine
/-!
# What a reading collects

The statements of a configuration that is read are statements of its lines, in the order of the lines.
The invariant is about the statements that a reading in progress holds: those outside blocks and those
of the open blocks, from the outermost to the innermost. A line adds at the end what it states, if
anything; closing a block drops the blocks left open inside it and changes nothing else. What reading a
line can do is said once, and what holds of a reading follows from it case by case.
-/

namespace HtGate.Parser

open Directive (statements statementsOf)

/-- Whether a line is neither blank nor a comment. -/
def Bears (raw : Text) : Prop := Text.trim raw ≠ [] ∧ (Text.trim raw).head? ≠ some '#'

/-- The statements of an open block with the numbers of their lines. -/
def Frame.collected (f : Frame) : List (Int × Statement) :=
  ((f.line : Int), .opening f.head) :: statements f.children.reverse

namespace State

/-- The statements that a reading in progress holds, with the numbers of their lines. -/
def collected (s : State) : List (Int × Statement) :=
  statements s.top.reverse ++ s.frames.reverse.flatMap Frame.collected

/-- The statement of a line with its number, if there is one. -/
def reading (number : Nat) (raw : Text) : List (Int × Statement) :=
  ((Statement.ofLine? (Text.trim raw)).map ((number : Int), ·)).toList

/-- The statements of lines with their numbers. -/
def readings (number : Nat) : List Text → List (Int × Statement)
  | [] => []
  | raw :: more => reading number raw ++ readings (number + 1) more

/-- A directive that is added comes last. -/
lemma collected_add (s : State) (d : Directive) :
    (s.add d).collected = s.collected ++ statementsOf d := by
  rw [add]
  split
  · rename_i hframes
    simp [collected, hframes]
  · rename_i f outer hframes
    simp [collected, hframes, Frame.collected]

/-- Discarding blocks makes diagnostics only. -/
lemma discard_eq (problem : Frame → Problem) (s : State) (fs : List Frame) :
    discard problem s fs = { s with events := (discard problem s fs).events } := by
  induction fs generalizing s with
  | nil => rfl
  | cons f fs ih =>
    rw [discard]
    exact ih _

/-- What a reading holds is what it holds outside a block, what is in the block, and what is in the blocks
that are open inside it. -/
lemma collected_of_frames {s : State} {inner outer : List Frame} {f : Frame}
    (h : s.frames = inner ++ f :: outer) :
    s.collected = collected { s with frames := outer } ++ f.collected ++
      inner.reverse.flatMap Frame.collected := by
  rw [collected, collected, h]
  simp

/-- A line that opens with a bracket opens the block of the tag that is read. -/
lemma openLine_eq (s : State) (number : Nat) (line : Text) :
    s.openLine number line =
      match BlockTag.read? line with
      | none => s.report number (.unreadable line)
      | some (tag, head) => { s with frames := ⟨number, tag, head, []⟩ :: s.frames } := by
  rw [openLine, BlockTag.read?]
  cases BlockTag.opening? line with
  | none => rfl
  | some found =>
    obtain ⟨tag, argument⟩ := found
    simp only [Option.bind_eq_bind, Option.bind_some]
    cases BlockTag.kind? tag with
    | none => rfl
    | some kind =>
      simp only [Option.bind_some]
      cases BlockTag.head? kind argument <;> rfl

/-- A line that is neither blank nor marked as a comment or a tag is read as a rule. -/
lemma step_unmarked {raw : Text} (hne : Text.trim raw ≠ [])
    (hmark : ∀ c ∈ (Text.trim raw).head?, c ≠ '#' ∧ c ≠ '<') (s : State) (number : Nat) :
    s.step number raw = s.ruleLine number (Text.trim raw) := by
  simp only [step]
  split
  · rename_i hnil
    exact absurd hnil hne
  · rename_i heq
    exact absurd rfl (hmark '#' (by rw [heq]; rfl)).1
  · rename_i heq
    exact absurd rfl (hmark '<' (by rw [heq]; rfl)).2
  · rename_i heq
    exact absurd rfl (hmark '<' (by rw [heq]; rfl)).2
  · rfl

/-- Whether a line is skipped for a problem. -/
inductive Skips (raw : Text) : Problem → Prop
  /-- It cannot be read. -/
  | unreadable : Skips raw (.unreadable (Text.trim raw))
  /-- It closes a block that is not open. -/
  | unmatched {tag : Text} : BlockTag.closing? (Text.trim raw) = some tag →
    Skips raw (.unmatchedClose tag)

/-- What reading a line can do. -/
inductive Stepped (s : State) (number : Nat) (raw : Text) : State → Prop
  /-- It is passed over. -/
  | passed : ¬Bears raw → Stepped s number raw s
  /-- It is reported and skipped. -/
  | skipped (remarks : List Remark) {problem : Problem} : Skips raw problem →
    Stepped s number raw ((s.note number remarks).report number problem)
  /-- It is a rule. -/
  | stated (remarks : List Remark) (r : Rule) :
    Statement.ofLine? (Text.trim raw) = some (.rule r) →
    Stepped s number raw ((s.note number remarks).add (.rule number r))
  /-- It opens a block. -/
  | opened (tag : Text) (head : BlockHead) :
    Statement.ofLine? (Text.trim raw) = some (.opening head) →
    Stepped s number raw { s with frames := ⟨number, tag, head, []⟩ :: s.frames }
  /-- It closes a block, and discards those that are open inside it. -/
  | closed {tag : Text} {inner outer : List Frame} {f : Frame} :
    BlockTag.closing? (Text.trim raw) = some tag → s.frames = inner ++ f :: outer →
    closes tag f = true →
    Stepped s number raw
      ({ discard (fun g => .unclosedInside g.tag f.tag) s inner with frames := outer }.add f.close)

/-- A line that closes a block is a step of a reading. -/
lemma stepped_closeLine {s : State} {number : Nat} {raw : Text} :
    Stepped s number raw (s.closeLine number (Text.trim raw)) := by
  rw [closeLine]
  cases hclosing : BlockTag.closing? (Text.trim raw) with
  | none => exact .skipped [] .unreadable
  | some tag =>
    dsimp only
    split
    · rw [closeTag]
      split
      · exact .skipped [] (.unmatched hclosing)
      · rename_i f outer hdrop
        -- the blocks inside the one that is closed are the frames that the search passes over
        have hframes : s.frames = s.frames.takeWhile (fun f => !closes tag f) ++ f :: outer := by
          rw [← hdrop, List.takeWhile_append_dropWhile]
        have hcloses := List.head?_dropWhile_not (fun f => !closes tag f) s.frames
        rw [hdrop] at hcloses
        exact .closed hclosing hframes (by simpa using hcloses)
    · exact .skipped [] .unreadable

/-- Reading a line does one of the things that it can do. -/
lemma stepped {s s' : State} {number : Nat} {raw : Text} (h : s.step number raw = .ok s') :
    Stepped s number raw s' := by
  simp only [step] at h
  split at h
  · -- an empty line
    rename_i hnil
    cases h
    exact .passed fun hbears => hbears.1 hnil
  · -- a comment
    rename_i hhash
    cases h
    exact .passed fun hbears => hbears.2 (by simp [hhash])
  · -- a closing tag
    cases h
    exact stepped_closeLine
  · -- an opening tag
    rename_i u hslash heq
    cases h
    rw [openLine_eq]
    cases hread : BlockTag.read? (Text.trim raw) with
    | none => exact .skipped [] .unreadable
    | some found =>
      obtain ⟨tag, head⟩ := found
      rw [heq] at hread
      exact .opened tag head (heq ▸ Statement.ofLine?_of_tag hslash hread)
  · -- any other line is to be a rule
    rename_i hnil hhash _ hopen
    rw [ruleLine] at h
    split at h
    · cases h
    · rename_i found hread
      obtain ⟨rule, remarks⟩ := found
      cases rule with
      | none =>
        cases h
        exact .skipped remarks .unreadable
      | some r =>
        cases h
        exact .stated remarks r (Statement.ofLine?_of_read hnil hhash hopen hread)

/-- A line adds at the end what it states, if anything. -/
lemma collected_step {s s' : State} {number : Nat} {raw : Text}
    (h : s.step number raw = .ok s') :
    s'.collected.Sublist (s.collected ++ reading number raw) := by
  cases stepped h with
  | passed | skipped => exact List.sublist_append_left _ _
  | stated remarks r hline =>
    rw [reading, hline, collected_add]
    exact List.Sublist.refl _
  | opened tag head hline =>
    rw [reading, hline]
    simp [collected, Frame.collected, statements]
  | closed _ hframes =>
    -- the statements of the blocks that are discarded are the last ones
    rw [discard_eq, collected_add, collected_of_frames hframes, List.append_assoc]
    exact List.sublist_append_left _ _

/-- A reading that comes to its end takes a step for each line. -/
lemma run_cons {s s' : State} {number : Nat} {raw : Text} {lines : List Text} :
    s.run number (raw :: lines) = .ok s' ↔
      ∃ t, s.step number raw = .ok t ∧ t.run (number + 1) lines = .ok s' := by
  rw [run]
  cases s.step number raw <;> simp

/-- Reading lines adds at the end what they state. -/
lemma collected_run {s s' : State} {number : Nat} {lines : List Text}
    (h : s.run number lines = .ok s') :
    s'.collected.Sublist (s.collected ++ readings number lines) := by
  induction lines generalizing s number with
  | nil =>
    cases h
    simp [readings]
  | cons raw more ih =>
    obtain ⟨t, hstep, hmore⟩ := run_cons.1 h
    refine (ih hmore).trans ?_
    rw [readings, ← List.append_assoc]
    exact (collected_step hstep).append_right _

/-- What lines state is read from them. -/
lemma isRead_readings (number : Nat) {lines : List Text} (h : ∀ raw ∈ lines, raw.OneLine) :
    ∀ e ∈ readings number lines, e.2.IsRead := by
  induction lines generalizing number with
  | nil => simp [readings]
  | cons raw more ih =>
    intro e he
    rcases List.mem_append.1 he with he | he
    · simp only [reading, Option.mem_toList, Option.map_eq_some_iff] at he
      obtain ⟨x, hx, rfl⟩ := he
      exact ⟨raw, h raw (by simp), hx⟩
    · exact ih (number + 1) (fun raw hraw => h raw (by simp [hraw])) e he

end State

end HtGate.Parser

namespace HtGate

open Directive

/-- A configuration that is read is what its lines leave behind at the end. -/
lemma parse_eq_ok_iff {content : Text} {p : Parsed} :
    parse content = .ok p ↔
      ∃ s, Parser.State.run {} 1 (Text.splitOn (· == '\n') content) = .ok s ∧ s.finish = p := by
  rw [parse]
  cases Parser.State.run {} 1 (Text.splitOn (· == '\n') content) <;> simp [Except.map]

/-- The statements of a configuration that is read are statements of its lines. -/
theorem statements_parse {content : Text} {p : Parsed} (h : parse content = .ok p) :
    (statements p.directives).Sublist
      (Parser.State.readings 1 (Text.splitOn (· == '\n') content)) := by
  obtain ⟨s, hrun, rfl⟩ := parse_eq_ok_iff.1 h
  refine List.Sublist.trans ?_ (Parser.State.collected_run hrun)
  rw [Parser.State.finish, Parser.State.discard_eq]
  exact List.sublist_append_left _ _

/-- Every statement of a configuration that is read is what some line states. -/
theorem isRead_parse {content : Text} {p : Parsed} (h : parse content = .ok p) :
    Everywhere Statement.IsRead p.directives := by
  have hlines : ∀ raw ∈ Text.splitOn (· == '\n') content, raw.OneLine := by
    intro raw hraw hm
    have hsep := Text.not_sep_of_mem_splitOn hraw '\n' hm
    cases hsep
  exact fun e he => Parser.State.isRead_readings 1 hlines e ((statements_parse h).subset he)

/-- Every statement of a configuration that is read is well-formed. -/
theorem wellFormed_parse {content : Text} {p : Parsed} (h : parse content = .ok p) :
    Everywhere Statement.WellFormed p.directives :=
  (isRead_parse h).imp fun _ => Statement.IsRead.wellFormed

end HtGate
