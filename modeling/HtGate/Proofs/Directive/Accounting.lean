import HtGate.Proofs.Directive.Parsing
/-!
# No line is lost

Every line of a configuration that bears something is accounted for: it is a statement of what is read, or
there is a diagnostic about it, or it closes a block, or it was read inside a block that is reported as
unclosed. The invariant is about a reading in progress after so many lines: a block that is open has been
open ever since its line, and every line so far is accounted for by the statements that the reading holds
and by the diagnostics that it has made. Statements that are dropped are those of a block that is reported.
-/

namespace HtGate

/-- Whether a problem is that the block of a tag is not closed. -/
def Problem.IsUnclosed (tag : Text) : Problem → Prop
  | .unclosed t => t = tag
  | .unclosedInside t _ => t = tag
  | _ => False

namespace Parser

open Directive (statements statementsOf)

/-- Whether the line with a number, counted from one, is neither blank nor a comment. -/
def Significant (lines : List Text) (n : Nat) : Prop :=
  ∃ k raw, n = k + 1 ∧ lines[k]? = some raw ∧ Bears raw

/-- Whether a reading of the first `n` lines comes to a state. -/
def Reaches (lines : List Text) (n : Nat) (s : State) : Prop :=
  State.run {} 1 (lines.take n) = .ok s

/-- Whether the block of a tag that begins at line `m` is open when line `n` has been read. -/
def OpenAt (lines : List Text) (n m : Nat) (tag : Text) : Prop :=
  ∃ s, Reaches lines n s ∧ ∃ f ∈ s.frames, f.line = m ∧ f.tag = tag

/-- Whether line `n` is a closing tag that closes an open block, which becomes a directive. -/
def ClosesBlock (lines : List Text) (n : Nat) : Prop :=
  ∃ k raw tag s, n = k + 1 ∧ lines[k]? = some raw ∧
    BlockTag.closing? (Text.trim raw) = some tag ∧ Reaches lines k s ∧
    ∃ inner f outer events, s.frames = inner ++ f :: outer ∧ State.closes tag f = true ∧
      Reaches lines n ({ s with frames := outer, events := events }.add f.close)

/-- Whether statements and diagnostics account for a line. -/
inductive AccountedFor (lines : List Text) (held : List (Int × Statement)) (made : List Diagnostic)
    (n : Nat) : Prop
  /-- It is one of the statements. -/
  | stated {x : Statement} : ((n : Int), x) ∈ held → AccountedFor lines held made n
  /-- One of the diagnostics is about it. -/
  | reported {d : Diagnostic} : d ∈ made → d.line = n → AccountedFor lines held made n
  /-- It closes a block. -/
  | closing : ClosesBlock lines n → AccountedFor lines held made n
  /-- It is inside a block that is reported as unclosed. -/
  | discarded {m : Nat} {tag : Text} {d : Diagnostic} : m ≤ n → OpenAt lines n m tag → d ∈ made →
    d.line = m → d.problem.IsUnclosed tag → AccountedFor lines held made n

namespace State

/-- The diagnostics of a reading in progress. -/
def diagnostics (s : State) : List Diagnostic := s.events.filterMap ParseEvent.diagnostic?

section Reports

variable {s : State} {d : Diagnostic}

/-- A problem that is reported is the latest diagnostic. -/
@[simp]
lemma diagnostics_report (s : State) (line : Nat) (problem : Problem) :
    (s.report line problem).diagnostics = ⟨line, problem⟩ :: s.diagnostics := rfl

/-- Remarks that are noted take no diagnostic away. -/
lemma mem_diagnostics_note (line : Nat) (remarks : List Remark) (h : d ∈ s.diagnostics) :
    d ∈ (s.note line remarks).diagnostics := by
  simp only [diagnostics, note, List.filterMap_append, List.mem_append]
  exact .inr h

/-- A directive that is added changes no diagnostic. -/
@[simp]
lemma diagnostics_add (s : State) (x : Directive) : (s.add x).diagnostics = s.diagnostics := by
  rw [add]
  split <;> rfl

/-- A directive that is added changes no more of the open blocks than what is inside them. -/
lemma mem_frames_add {f : Frame} (x : Directive) (hf : f ∈ (s.add x).frames) :
    ∃ g ∈ s.frames, g.line = f.line ∧ g.tag = f.tag := by
  rw [add] at hf
  split at hf
  · exact ⟨f, hf, rfl, rfl⟩
  · rename_i g outer hframes
    rw [hframes]
    rcases List.mem_cons.1 hf with rfl | hmem
    · exact ⟨g, .head _, rfl, rfl⟩
    · exact ⟨f, .tail _ hmem, rfl, rfl⟩

/-- Discarding blocks makes one diagnostic for each of them. -/
lemma mem_diagnostics_discard (problem : Frame → Problem) (s : State) (fs : List Frame) :
    d ∈ (discard problem s fs).diagnostics ↔
      (∃ f ∈ fs, d = ⟨f.line, problem f⟩) ∨ d ∈ s.diagnostics := by
  induction fs generalizing s with
  | nil => simp [discard]
  | cons f fs ih =>
    rw [discard, ih, diagnostics_report]
    simp only [List.mem_cons, exists_eq_or_imp]
    rw [or_left_comm, or_assoc]

end Reports

section Stepped

variable {s s' : State} {number : Nat} {raw : Text}

/-- Diagnostics stay. -/
lemma Stepped.mem_diagnostics (h : Stepped s number raw s') {d : Diagnostic}
    (hd : d ∈ s.diagnostics) : d ∈ s'.diagnostics := by
  cases h with
  | passed | opened => exact hd
  | skipped remarks =>
    rw [diagnostics_report]
    exact .tail _ (mem_diagnostics_note number remarks hd)
  | stated remarks r =>
    rw [diagnostics_add]
    exact mem_diagnostics_note number remarks hd
  | closed =>
    rw [diagnostics_add]
    exact (mem_diagnostics_discard _ s _).2 (.inr hd)

/-- An open block begins at this line, or it was open before. -/
lemma Stepped.mem_frames (h : Stepped s number raw s') {f : Frame} (hf : f ∈ s'.frames) :
    f.line = number ∨ ∃ g ∈ s.frames, g.line = f.line ∧ g.tag = f.tag := by
  cases h with
  | passed | skipped => exact .inr ⟨f, hf, rfl, rfl⟩
  | stated remarks => exact .inr (mem_frames_add (s := s.note number remarks) _ hf)
  | opened =>
    rcases List.mem_cons.1 hf with rfl | hmem
    · exact .inl rfl
    · exact .inr ⟨f, hmem, rfl, rfl⟩
  | closed _ hframes =>
    obtain ⟨g, hg, hlike⟩ := mem_frames_add _ hf
    rw [hframes]
    exact .inr ⟨g, List.mem_append_right _ (.tail _ hg), hlike⟩

/-- A statement stays, or it is dropped with its block, which is reported as unclosed. -/
lemma Stepped.mem_collected (h : Stepped s number raw s') {e : Int × Statement}
    (he : e ∈ s.collected) :
    e ∈ s'.collected ∨ ∃ f ∈ s.frames, e ∈ f.collected ∧
      ∃ d ∈ s'.diagnostics, d.line = f.line ∧ d.problem.IsUnclosed f.tag := by
  cases h with
  | passed | skipped => exact .inl he
  | stated =>
    rw [collected_add]
    exact .inl (List.mem_append_left _ he)
  | opened =>
    rw [collected, List.reverse_cons, List.flatMap_append, ← List.append_assoc]
    exact .inl (List.mem_append_left _ he)
  | @closed tag inner outer f _ hframes =>
    rw [collected_of_frames hframes] at he
    rcases List.mem_append.1 he with he | he
    · rw [discard_eq, collected_add]
      exact .inl he
    · -- a block inside the one that is closed takes what it holds with it
      obtain ⟨g, hg, heg⟩ := List.mem_flatMap.1 he
      have hg := List.mem_reverse.1 hg
      refine .inr ⟨g, hframes ▸ List.mem_append_left _ hg, heg, ⟨g.line, .unclosedInside g.tag f.tag⟩,
        ?_, rfl, rfl⟩
      rw [diagnostics_add]
      exact (mem_diagnostics_discard _ s inner).2 (.inl ⟨g, hg, rfl⟩)

/-- A line that bears something becomes a statement, or is reported, or closes a block. -/
lemma Stepped.accounts (h : Stepped s number raw s') (hbears : Bears raw) :
    (∃ x, ((number : Int), x) ∈ s'.collected) ∨ (∃ d ∈ s'.diagnostics, d.line = number) ∨
      ∃ tag inner f outer events, BlockTag.closing? (Text.trim raw) = some tag ∧
        s.frames = inner ++ f :: outer ∧ closes tag f = true ∧
        s' = { s with frames := outer, events := events }.add f.close := by
  cases h with
  | passed hnot => exact absurd hbears hnot
  | skipped => exact .inr (.inl ⟨_, .head _, rfl⟩)
  | stated remarks r =>
    rw [collected_add]
    exact .inl ⟨.rule r, List.mem_append_right _ (.head _)⟩
  | opened tag head =>
    refine .inl ⟨.opening head, ?_⟩
    rw [collected, List.reverse_cons, List.flatMap_append]
    simp [Frame.collected]
  | @closed tag inner outer f hclosing hframes hcloses =>
    rw [discard_eq]
    exact .inr (.inr ⟨tag, inner, f, outer, _, hclosing, hframes, hcloses, rfl⟩)

end Stepped

/-- The diagnostics at the end are those on the way, and one for each block that is still open. -/
lemma mem_diagnostics_finish {s : State} {d : Diagnostic} :
    d ∈ s.finish.diagnostics ↔
      (∃ f ∈ s.frames, d = ⟨f.line, .unclosed f.tag⟩) ∨ d ∈ s.diagnostics := by
  rw [Parsed.diagnostics, finish, List.filterMap_reverse, List.mem_reverse]
  exact mem_diagnostics_discard (fun f => .unclosed f.tag) s s.frames

/-- A statement stays to the end, or it is dropped with its block, which is reported as unclosed. -/
lemma mem_statements_finish {s : State} {e : Int × Statement} (he : e ∈ s.collected) :
    e ∈ statements s.finish.directives ∨ ∃ f ∈ s.frames, e ∈ f.collected ∧
      ∃ d ∈ s.finish.diagnostics, d.line = f.line ∧ d.problem.IsUnclosed f.tag := by
  rcases List.mem_append.1 he with he | he
  · rw [finish, discard_eq]
    exact .inl he
  · obtain ⟨f, hf, hef⟩ := List.mem_flatMap.1 he
    have hf := List.mem_reverse.1 hf
    exact .inr ⟨f, hf, hef, ⟨f.line, .unclosed f.tag⟩, mem_diagnostics_finish.2 (.inl ⟨f, hf, rfl⟩),
      rfl, rfl⟩

/-- What lines state has the numbers of the lines that state it, which bear something. -/
lemma significant_of_mem_readings {number : Nat} {lines : List Text} {e : Int × Statement}
    (h : e ∈ readings number lines) :
    ∃ k raw, e.1 = ((number + k : Nat) : Int) ∧ lines[k]? = some raw ∧ Bears raw := by
  -- the number of a line goes up by one for each line in front of it
  induction lines generalizing number with
  | nil => cases h
  | cons raw more ih =>
    rcases List.mem_append.1 h with h | h
    · simp only [reading, Option.mem_toList, Option.map_eq_some_iff] at h
      obtain ⟨x, hx, rfl⟩ := h
      refine ⟨0, raw, rfl, rfl, fun hnil => ?_, fun hhash => ?_⟩
      · rw [hnil] at hx
        cases hx
      · obtain ⟨rest, hrest⟩ := List.head?_eq_some_iff.1 hhash
        rw [hrest] at hx
        cases hx
    · obtain ⟨k, raw', hk, hraw, hbears⟩ := ih h
      exact ⟨k + 1, raw', by omega, hraw, hbears⟩

/-- What lines state is in the order of the lines, with one statement to a line at most. -/
lemma pairwise_readings (number : Nat) (lines : List Text) :
    (readings number lines).Pairwise fun a b => a.1 < b.1 := by
  induction lines generalizing number with
  | nil => exact .nil
  | cons raw more ih =>
    refine List.pairwise_append.2 ⟨?_, ih (number + 1), fun a ha b hb => ?_⟩
    · rw [reading]
      cases Statement.ofLine? (Text.trim raw) with
      | none => exact .nil
      | some x => exact List.pairwise_singleton _ _
    · simp only [reading, Option.mem_toList, Option.map_eq_some_iff] at ha
      obtain ⟨x, -, rfl⟩ := ha
      obtain ⟨k, -, hk, -⟩ := significant_of_mem_readings hb
      dsimp only
      omega

/-- Lines are read one after the other: what follows is read from where the lines before it have come to. -/
lemma run_append (s : State) (number : Nat) (lines more : List Text) :
    s.run number (lines ++ more) =
      (s.run number lines).bind fun t => t.run (number + lines.length) more := by
  induction lines generalizing s number with
  | nil => rfl
  | cons raw lines ih =>
    rw [List.cons_append, run, run]
    cases s.step number raw with
    | error fault => rfl
    | ok t =>
      dsimp only
      rw [ih, List.length_cons, Nat.add_right_comm, Nat.add_assoc]

/-- A run over two lists of lines is one over the first list and then one over the second. -/
lemma run_append_eq_ok_iff {s s' : State} {number : Nat} {lines more : List Text} :
    s.run number (lines ++ more) = .ok s' ↔
      ∃ t, s.run number lines = .ok t ∧ t.run (number + lines.length) more = .ok s' := by
  rw [run_append]
  cases s.run number lines <;> simp [Except.bind]

/-- A reading of one line more takes one step more. -/
lemma run_concat {s s' : State} {number : Nat} {lines : List Text} {raw : Text} :
    s.run number (lines ++ [raw]) = .ok s' ↔
      ∃ t, s.run number lines = .ok t ∧ t.step (number + lines.length) raw = .ok s' := by
  have hend (u : State) (k : Nat) : u.run k [] = .ok s' ↔ u = s' := by rw [run, Except.ok.injEq]
  simp only [run_append_eq_ok_iff, run_cons, hend, exists_eq_right]

end State

/-- A reading comes to a state after one line more by a step from the state before. -/
lemma reaches_succ {lines : List Text} {n : Nat} {raw : Text} {s' : State}
    (hraw : lines[n]? = some raw) :
    Reaches lines (n + 1) s' ↔ ∃ s, Reaches lines n s ∧ s.step (n + 1) raw = .ok s' := by
  obtain ⟨hn, rfl⟩ := List.getElem?_eq_some_iff.1 hraw
  rw [Reaches, List.take_succ_eq_append_getElem hn, State.run_concat, List.length_take_of_le hn.le,
    Nat.add_comm 1 n]
  rfl

/-- What holds of a reading after `n` lines. -/
structure Ledger (lines : List Text) (n : Nat) (s : State) : Prop where
  reaches : Reaches lines n s
  /-- An open block has been open ever since its line. -/
  openSince : ∀ f ∈ s.frames, ∀ k, f.line ≤ k → k ≤ n → OpenAt lines k f.line f.tag
  /-- Every line so far is accounted for. -/
  accounted : ∀ k ≤ n, Significant lines k → AccountedFor lines s.collected s.diagnostics k

section Ledger

variable {lines : List Text} {n : Nat} {s s' : State}

/-- What a reading holds is in the order of the lines. -/
lemma pairwise_collected (h : Reaches lines n s) :
    s.collected.Pairwise fun a b => a.1 < b.1 :=
  (State.pairwise_readings 1 (lines.take n)).sublist (State.collected_run h)

/-- What is inside a block comes after its line. -/
lemma line_le_of_mem_collected (h : Reaches lines n s) {f : Frame} (hf : f ∈ s.frames)
    {e : Int × Statement} (he : e ∈ f.collected) : (f.line : Int) ≤ e.1 := by
  have hsub : f.collected.Sublist s.collected := by
    refine .trans ?_ (List.sublist_append_right _ _)
    exact List.sublist_flatten_of_mem (List.mem_map_of_mem (List.mem_reverse.2 hf))
  have hpairwise := (pairwise_collected h).sublist hsub
  rw [Frame.collected, List.pairwise_cons] at hpairwise
  rcases List.mem_cons.1 he with rfl | he
  · exact Int.le_refl _
  · exact Int.le_of_lt (hpairwise.1 e he)

/-- Lines stay accounted for while diagnostics are added and statements are dropped with blocks that are
reported as unclosed. -/
lemma Ledger.accountedFor (h : Ledger lines n s) {held : List (Int × Statement)}
    {made : List Diagnostic} (hmade : ∀ d ∈ s.diagnostics, d ∈ made)
    (hheld : ∀ e ∈ s.collected, e ∈ held ∨ ∃ f ∈ s.frames, e ∈ f.collected ∧
      ∃ d ∈ made, d.line = f.line ∧ d.problem.IsUnclosed f.tag)
    {k : Nat} (hk : k ≤ n) (hsignificant : Significant lines k) : AccountedFor lines held made k := by
  cases h.accounted k hk hsignificant with
  | stated hx =>
    rcases hheld _ hx with hx | ⟨f, hf, hx, d, hd, hline, hunclosed⟩
    · exact .stated hx
    · -- the line is inside the block, which was open when the line was read
      have hle := line_le_of_mem_collected h.reaches hf hx
      have hle : f.line ≤ k := Int.ofNat_le.1 hle
      exact .discarded hle (h.openSince f hf k hle hk) hd hline hunclosed
  | reported hd hline => exact .reported (hmade _ hd) hline
  | closing hcloses => exact .closing hcloses
  | discarded hle hopen hd hline hunclosed =>
    exact .discarded hle hopen (hmade _ hd) hline hunclosed

/-- Nothing is open and nothing is due before the first line. -/
lemma ledger_zero (lines : List Text) : Ledger lines 0 {} where
  reaches := rfl
  openSince f hf := by cases hf
  accounted k hk hsignificant := by
    obtain ⟨j, -, rfl, -⟩ := hsignificant
    cases hk

/-- Reading a line keeps the ledger. -/
lemma Ledger.step (h : Ledger lines n s) {raw : Text} (hraw : lines[n]? = some raw)
    (hstep : s.step (n + 1) raw = .ok s') : Ledger lines (n + 1) s' := by
  have hreaches : Reaches lines (n + 1) s' := (reaches_succ hraw).2 ⟨s, h.reaches, hstep⟩
  have hstepped := State.stepped hstep
  refine ⟨hreaches, fun f hf k hle hk => ?_, fun k hk hsignificant => ?_⟩
  · -- a block that begins at this line is open from here on, and any other was open before
    rcases Nat.le_succ_iff.1 hk with hk | rfl
    · rcases hstepped.mem_frames hf with hline | ⟨g, hg, hline, htag⟩
      · omega
      · rw [← hline, ← htag]
        exact h.openSince g hg k (hline ▸ hle) hk
    · exact ⟨s', hreaches, f, hf, rfl, rfl⟩
  · rcases Nat.le_succ_iff.1 hk with hk | rfl
    · exact h.accountedFor (fun d hd => hstepped.mem_diagnostics hd)
        (fun e he => hstepped.mem_collected he) hk hsignificant
    · -- this line is accounted for by what reading it has done
      obtain ⟨j, raw', hj, hraw', hbears⟩ := hsignificant
      obtain rfl := Nat.succ.inj hj
      obtain rfl := Option.some.inj (hraw.symm.trans hraw')
      rcases hstepped.accounts hbears with ⟨x, hx⟩ | ⟨d, hd, hline⟩ |
        ⟨tag, inner, f, outer, events, hclosing, hframes, hcloses, rfl⟩
      · exact .stated hx
      · exact .reported hd hline
      · exact .closing ⟨n, raw, tag, s, rfl, hraw, hclosing, h.reaches, inner, f, outer, events,
          hframes, hcloses, hreaches⟩

/-- The ledger holds of every reading. -/
lemma ledger_of_reaches (hn : n ≤ lines.length) (h : Reaches lines n s) : Ledger lines n s := by
  induction n generalizing s with
  | zero =>
    cases h
    exact ledger_zero lines
  | succ n ih =>
    have hraw : lines[n]? = some lines[n] := List.getElem?_eq_getElem hn
    obtain ⟨t, ht, hstep⟩ := (reaches_succ hraw).1 h
    exact (ih (Nat.le_of_succ_le hn) ht).step hraw hstep

end Ledger

end Parser

open Directive Parser.State

/-- Nothing is lost in a reading: what is read has its statements in the order of their lines, each on a
line that is neither blank nor a comment, and every such line is accounted for. -/
theorem parse_accounts {content : Text} {p : Parsed} (h : parse content = .ok p) :
    (statements p.directives).Pairwise (fun a b => a.1 < b.1) ∧
    (∀ e ∈ statements p.directives, ∃ n : Nat, e.1 = n ∧
      Parser.Significant (Text.splitOn (· == '\n') content) n) ∧
    ∀ n, Parser.Significant (Text.splitOn (· == '\n') content) n →
      Parser.AccountedFor (Text.splitOn (· == '\n') content) (statements p.directives)
        p.diagnostics n := by
  have hsub := statements_parse h
  refine ⟨(pairwise_readings 1 _).sublist hsub, fun e he => ?_, fun n hn => ?_⟩
  · obtain ⟨k, raw, hk, hraw, hbears⟩ := significant_of_mem_readings (hsub.subset he)
    exact ⟨1 + k, hk, k, raw, Nat.add_comm 1 k, hraw, hbears⟩
  · rw [parse] at h
    cases hrun : run {} 1 (Text.splitOn (· == '\n') content) with
    | error failure =>
      rw [hrun] at h
      cases h
    | ok s =>
      rw [hrun] at h
      cases h
      -- a run over all the lines is one over a first part of them, for which the ledger holds
      have hreaches : Parser.Reaches (Text.splitOn (· == '\n') content) _ s :=
        (congrArg (run {} 1) List.take_length).trans hrun
      have hledger := Parser.ledger_of_reaches le_rfl hreaches
      obtain ⟨k, raw, rfl, hraw, -⟩ := id hn
      have hk : k < (Text.splitOn (· == '\n') content).length :=
        (List.getElem?_eq_some_iff.1 hraw).1
      exact hledger.accountedFor (fun d hd => mem_diagnostics_finish.2 (.inr hd))
        (fun e he => mem_statements_finish he) hk hn

/-- Lines of which one is inside a block that is never closed, and one closes nothing. -/
def leakyText : Text :=
  "<Files a>\n<Limit GET>\nRequire all denied\n</Files>\n</IfModule>\n# end\nRequire all granted".toList

/-- The dropped rule of line 3 is accounted for, and so is every other line. -/
theorem parse_leakyText_accounts :
    ∃ p, parse leakyText = .ok p ∧ (statements p.directives).map (·.1) = [1, 7] ∧
      p.diagnostics.map (·.line) = [2, 5] ∧
      Parser.AccountedFor (Text.splitOn (· == '\n') leakyText) (statements p.directives)
        p.diagnostics 3 := by
  have hp : parse leakyText = .ok
      ⟨[.block 1 { kind := .files, name := some "a".toList } [],
        .rule 7 { kind := .requireAllGranted }],
      [.diagnosed ⟨2, .unclosedInside "Limit".toList "Files".toList⟩,
        .diagnosed ⟨5, .unmatchedClose "IfModule".toList⟩]⟩ := rfl
  have hthird : Parser.Significant (Text.splitOn (· == '\n') leakyText) 3 :=
    ⟨2, "Require all denied".toList, rfl, rfl, by decide, by decide⟩
  exact ⟨_, hp, rfl, rfl, (parse_accounts hp).2.2 3 hthird⟩

end HtGate
