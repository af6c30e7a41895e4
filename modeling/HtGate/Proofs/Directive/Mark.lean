import HtGate.Proofs.Directive.Stopping
/-!
# A mark in front of a configuration

The byte order mark is no whitespace, and no keyword begins with it. A configuration with a mark in front is
read as if its first line were another one, which cannot be read. That line is reported with the mark, and no
reading of the configuration without the mark reports such a line.
-/

namespace HtGate

namespace Text

/-- The byte order mark. -/
def mark : Char := '\uFEFF'

/-- The mark is no whitespace. -/
lemma not_isWhitespace_mark : isWhitespace mark = false := by decide

/-- Trimming drops none of a character that is no whitespace. -/
lemma count_trim {c : Char} (hc : isWhitespace c = false) (t : Text) : (trim t).count c = t.count c := by
  have hdrop (u : Text) : (u.dropWhile isWhitespace).count c = u.count c := by
    have hnone : (u.takeWhile isWhitespace).count c = 0 := by
      refine List.count_eq_zero.2 fun hmem => ?_
      rw [List.mem_takeWhile_imp hmem] at hc
      cases hc
    conv_rhs => rw [← List.takeWhile_append_dropWhile (p := isWhitespace) (l := u)]
    rw [List.count_append, hnone, Nat.zero_add]
  rw [trim, trimEnd, dropTrailing, List.count_reverse, hdrop, List.count_reverse, trimStart, hdrop]

/-- A line with a mark in front keeps it when it is trimmed. -/
lemma trim_mark (t : Text) : ∃ u, trim (mark :: t) = mark :: u := by
  have hstart : trimStart (mark :: t) = mark :: t :=
    List.dropWhile_cons_of_neg (by simp [not_isWhitespace_mark])
  have hprefix : trim (mark :: t) <+: mark :: t := by
    rw [trim, hstart, trimEnd, dropTrailing, ← List.reverse_suffix, List.reverse_reverse]
    exact List.dropWhile_suffix _
  cases htrim : trim (mark :: t) with
  | nil =>
    have hcount := count_trim not_isWhitespace_mark (mark :: t)
    rw [htrim, List.count_nil, List.count_cons_self] at hcount
    omega
  | cons c u =>
    rw [htrim] at hprefix
    exact ⟨u, by rw [(List.cons_prefix_cons.1 hprefix).1]⟩

/-- No keyword has a mark in its lower-case form. -/
lemma IsKeyword.mark_not_mem_lower {t : Text} (h : t.IsKeyword) : mark ∉ lower t := by
  rw [lower_ascii h.ascii, List.mem_map]
  rintro ⟨c, hc, hmark⟩
  have hlow : c.toLower ≠ mark := forall_of_codes (h.ascii c hc) (by decide)
  exact hlow hmark

end Text

open Text (mark)

/-- No keyword stands where a mark does. -/
lemma Cursor.not_keyword_mark {kw t : Text} (hk : kw.IsKeyword) {c : Cursor} :
    (Cursor.start (mark :: t)).keyword kw ≠ (true, c) := by
  intro h
  have hstands := standsAt_of_keyword h
  have hremaining : (Cursor.start (mark :: t)).skipBlanks.remaining = mark :: t := by
    rw [remaining_skipBlanks]
    rfl
  obtain ⟨n, hn⟩ : ∃ n, kw.length = n + 1 :=
    Nat.exists_eq_succ_of_ne_zero fun hzero => hk.ne_nil (List.eq_nil_of_length_eq_zero hzero)
  rw [standsAt, hremaining, hn, List.take_succ_cons, Bool.and_eq_true, beq_iff_eq] at hstands
  refine hk.mark_not_mem_lower ?_
  rw [← hstands.1]
  exact List.mem_append_left _ (.head _)

/-- A line that begins with a mark is no rule. -/
lemma RuleReader.read_mark (t : Text) : read (mark :: t) = .ok ⟨none, []⟩ := by
  rcases readBy_cases table (mark :: t) with hnone | ⟨e, he, c, hc, -⟩
  · exact hnone
  · exact absurd hc (Cursor.not_keyword_mark (isKeyword_of_mem_table e he))

/-- Only a line that cannot be read is reported in these words. -/
lemma Problem.eq_unreadable_of_message {problem : Problem} {line : Text}
    (h : problem.message = (Problem.unreadable line).message) : problem = .unreadable line := by
  have hhead := congrArg List.head? h
  cases problem with
  | unreadable line' => exact congrArg _ (List.append_cancel_left h)
  | unmatchedClose tag =>
    change some 'c' = some 's' at hhead
    simp at hhead
  | unclosed tag | unclosedInside tag outer | unknownOption word =>
    change some 'u' = some 's' at hhead
    simp at hhead

namespace Parser.State

variable {s s' : State} {number : Nat} {raw l : Text} {lines : List Text} {d : Diagnostic}

/-- A line with a mark in front is reported and skipped. -/
lemma step_mark (s : State) (number : Nat) (raw : Text) :
    s.step number (mark :: raw) = .ok (s.report number (.unreadable (Text.trim (mark :: raw)))) := by
  obtain ⟨u, hu⟩ := Text.trim_mark raw
  have hmark : ∀ c ∈ (Text.trim (mark :: raw)).head?, c ≠ '#' ∧ c ≠ '<' := by
    rw [hu]
    rintro c ⟨⟩
    decide
  rw [step_unmarked (by simp [hu]) hmark, hu, ruleLine, RuleReader.read_mark]
  rfl

/-- A diagnostic that a line cannot be read is about this line, or it was there before. -/
lemma Stepped.of_unreadable (h : Stepped s number raw s') (hd : d ∈ s'.diagnostics)
    (hl : d.problem = .unreadable l) : d ∈ s.diagnostics ∨ d.line = number ∧ l = Text.trim raw := by
  -- what is remarked about a rule is about its values, never that a line cannot be read
  have hnote (remarks : List Remark) (hd : d ∈ (s.note number remarks).diagnostics) :
      d ∈ s.diagnostics := by
    rw [diagnostics, note, List.filterMap_append, List.mem_append] at hd
    refine hd.resolve_left fun hremark => ?_
    obtain ⟨event, hevent, hsome⟩ := List.mem_filterMap.1 hremark
    obtain ⟨remark, -, rfl⟩ := List.mem_map.1 (List.mem_reverse.1 hevent)
    cases remark <;> cases hsome
    cases hl
  cases h with
  | passed | opened => exact .inl hd
  | skipped remarks hskips =>
    rw [diagnostics_report] at hd
    rcases List.mem_cons.1 hd with rfl | hd
    · cases hl
      cases hskips
      exact .inr ⟨rfl, rfl⟩
    · exact .inl (hnote remarks hd)
  | stated remarks =>
    rw [diagnostics_add] at hd
    exact .inl (hnote remarks hd)
  | closed =>
    rw [diagnostics_add] at hd
    rcases (mem_diagnostics_discard _ s _).1 hd with ⟨f, -, rfl⟩ | hd
    · cases hl
    · exact .inl hd

/-- A line that is reported as one that cannot be read was reported before the run, or is one of its lines. -/
lemma of_unreadable_run (h : s.run number lines = .ok s') (hd : d ∈ s'.diagnostics)
    (hl : d.problem = .unreadable l) :
    d ∈ s.diagnostics ∨ ∃ k raw, lines[k]? = some raw ∧ d.line = number + k ∧ l = Text.trim raw := by
  induction lines generalizing s number with
  | nil =>
    cases h
    exact .inl hd
  | cons raw lines ih =>
    obtain ⟨t, hstep, hmore⟩ := run_cons.1 h
    rcases ih hmore with ht | ⟨k, raw', hraw, hline, htrim⟩
    · rcases (stepped hstep).of_unreadable ht hl with hs | ⟨hline, htrim⟩
      · exact .inl hs
      · exact .inr ⟨0, raw, rfl, hline, htrim⟩
    · exact .inr ⟨k + 1, raw', hraw, by omega, htrim⟩

end Parser.State

open Parser.State

/-- A reading with a mark in front reports a line that no reading without the mark reports. -/
lemma exists_diagnostic_mark {content : Text} {p p' : Parsed} (hp : parse (mark :: content) = .ok p)
    (hp' : parse content = .ok p') :
    ∃ d ∈ p.diagnostics, ∀ d' ∈ p'.diagnostics, ¬(d'.line = d.line ∧ d'.message = d.message) := by
  obtain ⟨first, more, hlines⟩ :=
    List.exists_cons_of_ne_nil (Text.splitOn_ne_nil (· == '\n') content)
  have hmarked : Text.splitOn (· == '\n') (mark :: content) = (mark :: first) :: more :=
    Text.splitOn_cons_of_not_sep (by decide) hlines
  obtain ⟨s, hs, rfl⟩ := parse_eq_ok_iff.1 hp
  obtain ⟨s', hs', rfl⟩ := parse_eq_ok_iff.1 hp'
  rw [hmarked, run_cons] at hs
  obtain ⟨t, hstep, hrun⟩ := hs
  rw [step_mark] at hstep
  cases hstep
  refine ⟨⟨1, .unreadable (Text.trim (mark :: first))⟩,
    mem_diagnostics_finish.2 (.inr (mem_diagnostics_run hrun (.head _))), ?_⟩
  rintro d' hd' ⟨hline, hmessage⟩
  have hproblem := Problem.eq_unreadable_of_message hmessage
  rcases mem_diagnostics_finish.1 hd' with ⟨f, -, rfl⟩ | hd'
  · cases hproblem
  · rcases of_unreadable_run hs' hd' hproblem with hnone | ⟨k, raw, hraw, hk, htrim⟩
    · cases hnone
    · -- the line would have one mark more than it has
      obtain rfl : k = 0 := by simp only at hline; omega
      rw [hlines] at hraw
      cases hraw
      have hcount := congrArg (List.count mark) htrim
      rw [Text.count_trim Text.not_isWhitespace_mark, Text.count_trim Text.not_isWhitespace_mark,
        List.count_cons_self] at hcount
      omega

end HtGate
