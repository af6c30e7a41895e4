import HtGate.Proofs.Directive.Accounting
import HtGate.Proofs.Directive.Numerals
/-!
# Where a reading stops

A line that cannot be read is reported and skipped, with one exception: a line that asks for a numeral that
cannot be read stops the whole reading. Whether a line does depends on the line alone, so a reading comes to
its end exactly if no line does, by induction on the lines. Then every line that bears something and states
nothing is reported as what it is, or it closes a block.
-/

namespace HtGate

namespace Parser

/-- Whether a line that is neither a comment nor a tag asks for a numeral. -/
def Asks (raw numeral : Text) : Prop :=
  (∀ c ∈ (Text.trim raw).head?, c ≠ '#' ∧ c ≠ '<') ∧ RuleReader.Asks (Text.trim raw) numeral

/-- Whether every numeral that a line asks for can be read. -/
def Legible (raw : Text) : Prop := ∀ numeral, Asks raw numeral → numeral.Legible

namespace State

variable {s s' : State} {number : Nat} {raw : Text} {lines : List Text}

/-- What reading a line as a rule comes to, if it is neither a comment nor a tag. -/
lemma step_of_asks {numeral : Text} (h : Asks raw numeral) (s : State) (number : Nat) :
    s.step number raw = s.ruleLine number (Text.trim raw) := by
  obtain ⟨hhead, kw, c, hc, hasks⟩ := h
  obtain ⟨reader, hmem⟩ := RuleReader.asking_subset_table kw hasks.mem_asking
  -- a keyword is not empty, so the line is not blank
  have hne : Text.trim raw ≠ [] := fun hnil => by
    rw [hnil] at hc
    exact Cursor.keyword_nil (RuleReader.isKeyword_of_mem_table _ hmem) hc
  exact step_unmarked hne hhead s number

/-- A line that stops a reading asks for a numeral that cannot be read. -/
lemma exists_asks_of_step {fault : Fault} (h : s.step number raw = .error fault) :
    ∃ numeral, Asks raw numeral ∧ Fault.readNumeral numeral = .error fault := by
  simp only [step] at h
  split at h
  · cases h
  · cases h
  · cases h
  · cases h
  · -- nothing but a rule can stop the reading
    rename_i hnil hhash _ hopen
    rw [ruleLine] at h
    split at h
    · rename_i fault' hread
      cases h
      obtain ⟨numeral, hasks, hnumeral⟩ := RuleReader.exists_asks_of_read hread
      refine ⟨numeral, ⟨fun c hc => ⟨?_, ?_⟩, hasks⟩, hnumeral⟩
      · rintro rfl
        obtain ⟨u, hu⟩ := List.head?_eq_some_iff.1 hc
        exact hhash u hu
      · rintro rfl
        obtain ⟨u, hu⟩ := List.head?_eq_some_iff.1 hc
        exact hopen u hu
    · split at h <;> cases h

/-- Whether a line stops a reading depends on the line alone. -/
lemma exists_step_iff (s : State) (number : Nat) (raw : Text) :
    (∃ s', s.step number raw = .ok s') ↔ Legible raw := by
  constructor
  · rintro ⟨s', h⟩ numeral hasks
    by_contra hbad
    obtain ⟨fault, hread⟩ := hasks.2.read hbad
    rw [step_of_asks hasks, ruleLine, hread] at h
    cases h
  · intro h
    cases hstep : s.step number raw with
    | ok s' => exact ⟨s', rfl⟩
    | error fault =>
      obtain ⟨numeral, hasks, hread⟩ := exists_asks_of_step hstep
      exact absurd (h numeral hasks) (Fault.not_legible_iff.2 ⟨fault, hread⟩)

/-- A reading comes to its end if every line can be read or reported. -/
lemma exists_run_iff (s : State) (number : Nat) (lines : List Text) :
    (∃ s', s.run number lines = .ok s') ↔ ∀ raw ∈ lines, Legible raw := by
  induction lines generalizing s number with
  | nil => simp [run]
  | cons raw lines ih =>
    rw [run, List.forall_mem_cons, ← exists_step_iff s number raw]
    cases s.step number raw with
    | error fault => simp
    | ok t => simpa using ih t (number + 1)

/-- A reading that does not come to its end stops at the first line with a numeral that cannot be read. -/
lemma exists_asks_of_run {failure : ParseFailure} (h : s.run number lines = .error failure) :
    ∃ before raw after numeral, lines = before ++ raw :: after ∧ (∀ b ∈ before, Legible b) ∧
      Asks raw numeral ∧ Fault.readNumeral numeral = .error failure.fault := by
  -- the first line whose step fails; the steps in front of it went through
  induction lines generalizing s number with
  | nil => cases h
  | cons raw lines ih =>
    rw [run] at h
    cases hstep : s.step number raw with
    | error fault =>
      rw [hstep] at h
      cases h
      obtain ⟨numeral, hasks, hread⟩ := exists_asks_of_step hstep
      exact ⟨[], raw, lines, numeral, rfl, by simp, hasks, hread⟩
    | ok t =>
      rw [hstep] at h
      obtain ⟨before, raw', after, numeral, rfl, hbefore, hasks⟩ := ih h
      refine ⟨raw :: before, raw', after, numeral, rfl, ?_, hasks⟩
      exact List.forall_mem_cons.2 ⟨(exists_step_iff s number raw).1 ⟨t, hstep⟩, hbefore⟩

/-- Diagnostics stay to the end of a reading. -/
lemma mem_diagnostics_run (h : s.run number lines = .ok s') {d : Diagnostic} (hd : d ∈ s.diagnostics) :
    d ∈ s'.diagnostics := by
  induction lines generalizing s number with
  | nil =>
    cases h
    exact hd
  | cons raw lines ih =>
    obtain ⟨t, hstep, hmore⟩ := run_cons.1 h
    exact ih hmore ((stepped hstep).mem_diagnostics hd)

/-- What a reading that comes to its end does with a line that bears something and states nothing. -/
lemma reported_of_run {n : Nat} (h : run {} 1 lines = .ok s') (hraw : lines[n]? = some raw)
    (hbears : Bears raw) (hnone : Statement.ofLine? (Text.trim raw) = none) :
    ClosesBlock lines (n + 1) ∨ ∃ problem, Skips raw problem ∧ ⟨n + 1, problem⟩ ∈ s'.diagnostics := by
  obtain ⟨hn, rfl⟩ := List.getElem?_eq_some_iff.1 hraw
  obtain ⟨t, ht, hrest⟩ : ∃ t, Reaches lines (n + 1) t ∧
      t.run (1 + (n + 1)) (lines.drop (n + 1)) = .ok s' := by
    have hlength : (lines.take (n + 1)).length = n + 1 := List.length_take_of_le hn
    rw [← List.take_append_drop (n + 1) lines, run_append_eq_ok_iff, hlength] at h
    exact h
  obtain ⟨b, hb, hstep⟩ := (reaches_succ hraw).1 ht
  -- a line that states nothing is reported unless it closes a block
  cases stepped hstep with
  | passed hnot => exact absurd hbears hnot
  | skipped remarks hskips =>
    exact .inr ⟨_, hskips, mem_diagnostics_run hrest (by simp)⟩
  | stated _ _ hstated =>
    rw [hnone] at hstated
    cases hstated
  | opened _ _ hopens =>
    rw [hnone] at hopens
    cases hopens
  | @closed tag inner outer f hclosing hframes hcloses =>
    rw [discard_eq] at ht
    exact .inl ⟨n, _, tag, b, rfl, hraw, hclosing, hb, inner, f, outer, _, hframes, hcloses, ht⟩

end State

end Parser

open Parser.State

/-- A reading comes to its end exactly if every numeral that a line asks for can be read. Otherwise it stops at
the first line with one that cannot, and the fault is that of the numeral: a value that is not acceptable. In a
reading that comes to its end, each line that bears something states what it is read as, or closes a block, or
is reported as a line that cannot be read or closes nothing. -/
theorem parse_stops (content : Text) :
    ((∃ p, parse content = .ok p) ↔
      ∀ raw ∈ Text.splitOn (· == '\n') content, ∀ numeral, Parser.Asks raw numeral → numeral.Legible) ∧
    (∀ failure, parse content = .error failure →
      ∃ before raw after numeral, Text.splitOn (· == '\n') content = before ++ raw :: after ∧
        (∀ b ∈ before, ∀ numeral, Parser.Asks b numeral → numeral.Legible) ∧ Parser.Asks raw numeral ∧
        Fault.readNumeral numeral = .error failure.fault ∧ failure.fault.category = .value) ∧
    ∀ p, parse content = .ok p → ∀ n raw, (Text.splitOn (· == '\n') content)[n]? = some raw →
      Parser.Bears raw → (Statement.ofLine? (Text.trim raw)).isSome = true ∨
        Parser.ClosesBlock (Text.splitOn (· == '\n') content) (n + 1) ∨
        ∃ problem, Skips raw problem ∧ ⟨n + 1, problem⟩ ∈ p.diagnostics := by
  rw [parse]
  have hrun := exists_run_iff {} 1 (Text.splitOn (· == '\n') content)
  -- the reading stops exactly where the run over the lines does; the end of the text cannot fail
  cases hs : run {} 1 (Text.splitOn (· == '\n') content) with
  | error failure =>
    rw [hs] at hrun
    refine ⟨by simpa [Except.map, Parser.Legible] using hrun, ?_, ?_⟩
    · intro failure' hfailure
      cases hfailure
      obtain ⟨before, raw, after, numeral, hsplit, hbefore, hasks, hread⟩ := exists_asks_of_run hs
      exact ⟨before, raw, after, numeral, hsplit, hbefore, hasks, hread, Fault.category_of_readNumeral hread⟩
    · intro p hp
      cases hp
  | ok s =>
    rw [hs] at hrun
    refine ⟨by simpa [Except.map, Parser.Legible] using hrun, ?_, ?_⟩
    · intro failure hfailure
      cases hfailure
    · intro p hp n raw hraw hbears
      cases hp
      cases hnone : Statement.ofLine? (Text.trim raw) with
      | some x => exact .inl rfl
      | none =>
        refine .inr ((reported_of_run hs hraw hbears hnone).imp_right ?_)
        rintro ⟨problem, hskips, hmem⟩
        exact ⟨problem, hskips, mem_diagnostics_finish.2 (.inr hmem)⟩

/-- A superscript digit as a number of seconds stops a reading, and the rule before it is lost. -/
theorem parse_superscript_stops :
    parse "Require all denied\nBruteForceWindow ²".toList = .error ⟨.notDecimal ['²'], []⟩ ∧
      ∃ p, parse "Require all denied\nBruteForceWindow x".toList = .ok p ∧
        p.directives = [.rule 1 { kind := .requireAllDenied }] ∧
        p.diagnostics = [⟨2, .unreadable "BruteForceWindow x".toList⟩] :=
  ⟨rfl, _, rfl, rfl, rfl⟩

end HtGate
