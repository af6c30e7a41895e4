import HtGate.Proofs.Directive.ReadBack
/-!
# Writing and reading again

A configuration that was read always has a written form. Reading that again gives an equivalent
configuration exactly if every statement in it is stable, whatever blanks its blocks are indented with.
The only problems that are reported then are unknown features.
-/

namespace HtGate

open Directive (Everywhere ReadBack statements statementsOf withoutLinesAll withoutLines equivalent)
open Printer (IsIndent print reread)

namespace Statement

/-- The problems that are reported when a statement is read: the features it switches that are not
known. -/
def problems : Statement → List Problem
  | rule r => r.remarks.filterMap Remark.problem?
  | opening _ => []

/-- What the line of a well-formed stable rule is read as. -/
lemma read_of_stable {r : Rule} (hw : r.WellFormed) (hs : r.Stable) {t : Text}
    (h : Printer.rule r = .ok t) : RuleReader.read (Text.trim t) = .ok ⟨some r, r.remarks⟩ := by
  obtain ⟨t', remarks, hprint, hread⟩ := (Rule.readsBack_iff_stable hw).2 hs
  obtain rfl := Except.ok.inj (h.symm.trans hprint)
  obtain ⟨t', hprint', hline, -⟩ := written_of_wellFormed (x := .rule r) hw
  obtain rfl := Except.ok.inj (h.symm.trans hprint')
  have hremarks := (RuleReader.wellFormed_of_read (fun hm => hline (Text.mem_of_mem_trim hm)) hread).2
  rw [hread, hremarks]

/-- A well-formed stable statement is readable. -/
lemma readable_of_stable {x : Statement} (hw : x.WellFormed) (hs : x.Stable) : x.Readable := by
  cases x with
  | rule r =>
    obtain ⟨t, hprint, -⟩ := written_of_wellFormed (x := .rule r) hw
    exact ⟨t, _, hprint, read_of_stable hw hs hprint⟩
  | opening head => exact hs

end Statement

namespace Directive.ReadBack

/-- A stable sequence is read back as it is, and only unknown features are reported. -/
lemma of_stable {ds es : List Directive} {ps : List Problem} (h : ReadBack ds es ps)
    (hw : Everywhere Statement.WellFormed ds) (hs : Everywhere Statement.Stable ds) :
    withoutLinesAll es = withoutLinesAll ds ∧
      ps = (statements ds).flatMap fun e => e.2.problems := by
  induction h with
  | nil => exact ⟨rfl, rfl⟩
  | rule hprint hread _ ih =>
    obtain ⟨hwr, hwds⟩ := everywhere_rule.1 hw
    obtain ⟨hsr, hsds⟩ := everywhere_rule.1 hs
    obtain ⟨hlines, rfl⟩ := ih hwds hsds
    rw [Statement.read_of_stable hwr hsr hprint] at hread
    cases hread
    exact ⟨by simp [withoutLinesAll, withoutLines, hlines],
      by simp [statements, statementsOf, Statement.problems]⟩
  | lost hprint hread _ _ =>
    -- a stable rule is not lost
    obtain ⟨hwr, -⟩ := everywhere_rule.1 hw
    obtain ⟨hsr, -⟩ := everywhere_rule.1 hs
    rw [Statement.read_of_stable hwr hsr hprint] at hread
    cases hread
  | block _ _ ihc ih =>
    obtain ⟨-, hwchildren, hwds⟩ := everywhere_block.1 hw
    obtain ⟨-, hschildren, hsds⟩ := everywhere_block.1 hs
    obtain ⟨hinside, rfl⟩ := ihc hwchildren hschildren
    obtain ⟨hlines, rfl⟩ := ih hwds hsds
    exact ⟨by simp [withoutLinesAll, withoutLines, hlines, hinside],
      by simp [statements, statementsOf, Statement.problems]⟩

end Directive.ReadBack

/-- What a reading ends with to which directives and events were added at the start. -/
lemma Parser.State.finish_addAll (ds : List Directive) (events : List ParseEvent) :
    ((({} : Parser.State).addAll ds).withEvents events).finish = ⟨ds, events.reverse⟩ := by
  rw [addAll_top rfl]
  simp [finish, withEvents, discard]

/-- The written form of a readable sequence is read as what its lines are read back as. -/
theorem parse_print {indent : Text} (hindent : IsIndent indent) {ds : List Directive}
    (hw : Everywhere Statement.WellFormed ds) (hr : Everywhere Statement.Readable ds) :
    ∃ text p, print indent ds = .ok text ∧ parse text = .ok p ∧
      ReadBack ds p.directives (p.diagnostics.map (·.problem)) := by
  obtain ⟨ls, hls, hprint, hsplit⟩ := Printer.print_of_wellFormed hindent hw
  obtain ⟨es, events, hback, hrun⟩ :=
    Parser.State.run_linesAll hindent hw hr hls {} 1 [[]]
  -- the text after the last line feed is a line without text
  have hlast : ((({} : Parser.State).addAll es).withEvents events).run (1 + ls.length) [[]] =
      .ok ((({} : Parser.State).addAll es).withEvents events) := rfl
  have hproblems : (Parsed.diagnostics ⟨es, events.reverse⟩).map (·.problem) =
      Parser.State.problems events := by
    rw [Parsed.diagnostics, List.map_filterMap]
    rfl
  refine ⟨_, ⟨es, events.reverse⟩, hprint, ?_, hproblems ▸ hback⟩
  rw [parse, hsplit, hrun, hlast, ← Parser.State.finish_addAll]
  rfl

/-- A sequence with stable heads whose written form is read without a fault is readable. -/
lemma readable_of_parse {indent : Text} (hindent : IsIndent indent) {ds : List Directive}
    (hw : Everywhere Statement.WellFormed ds)
    (hheads : ∀ e ∈ statements ds, ∀ head, e.2 = .opening head → head.Stable) {text : Text}
    {p : Parsed} (hprint : print indent ds = .ok text) (hparse : parse text = .ok p) :
    Everywhere Statement.Readable ds := by
  obtain ⟨ls, hls, hprint', hsplit⟩ := Printer.print_of_wellFormed hindent hw
  obtain rfl := Except.ok.inj (hprint.symm.trans hprint')
  rintro ⟨number, x⟩ hx
  cases x with
  | opening head => exact hheads _ hx head rfl
  | rule r =>
    have hwr : r.WellFormed := hw _ hx
    obtain ⟨raw, hraw, t, ht, htrim⟩ := Printer.exists_line hindent hls hx
    obtain ⟨reader, u, hline⟩ := hwr.line
    obtain ⟨t', ht', -, c, v, htrim', hc⟩ := hline.written
    obtain rfl := Except.ok.inj (ht.symm.trans ht')
    -- the rule's line is one of the text's, and none of them has stopped the reading
    obtain ⟨s, hrun, -⟩ := parse_eq_ok_iff.1 hparse
    rw [hsplit] at hrun
    obtain ⟨reading, hread⟩ :=
      Parser.State.read_of_run hrun (List.mem_append_left _ hraw) (htrim.trans htrim') hc
    exact ⟨t, reading, ht, htrim' ▸ hread⟩

/-- The written form of a well-formed stable sequence is read as an equivalent one, and only unknown
features are reported. -/
theorem parse_print_of_stable {indent : Text} (hindent : IsIndent indent) {ds : List Directive}
    (hw : Everywhere Statement.WellFormed ds) (hs : Everywhere Statement.Stable ds) :
    ∃ text p, print indent ds = .ok text ∧ parse text = .ok p ∧
      equivalent p.directives ds = true ∧
      p.diagnostics.map (·.problem) = (statements ds).flatMap fun e => e.2.problems := by
  have hr : Everywhere Statement.Readable ds :=
    fun e he => Statement.readable_of_stable (hw e he) (hs e he)
  obtain ⟨text, p, hprint, hparse, hback⟩ := parse_print hindent hw hr
  obtain ⟨hlines, hproblems⟩ := hback.of_stable hw hs
  exact ⟨text, p, hprint, hparse, Directive.equivalent_iff.2 hlines, hproblems⟩

/-- A partial map that loses nothing of a sequence changes nothing in it. -/
lemma forall_eq_some_of_sublist_filterMap {α : Type} {f : α → Option α} {l : List α}
    (h : l.Sublist (l.filterMap f)) : ∀ x ∈ l, f x = some x := by
  have hlen : l.length = (l.filterMap f).length :=
    le_antisymm h.length_le (List.length_filterMap_le f l)
  have heq : l.filterMap f = l := (h.eq_of_length hlen).symm
  clear h hlen
  induction l with
  | nil => exact nofun
  | cons a l ih =>
    cases ha : f a with
    | none =>
      -- the map would have to lengthen what follows
      rw [List.filterMap_cons_none ha] at heq
      have hle := List.length_filterMap_le f l
      rw [heq, List.length_cons] at hle
      omega
    | some b =>
      rw [List.filterMap_cons_some ha] at heq
      obtain ⟨rfl, hl⟩ := List.cons.inj heq
      exact List.forall_mem_cons.2 ⟨ha, ih hl⟩

/-- A configuration that was read has a written form, and that is read as an equivalent configuration
exactly if every statement of it, at every depth, is stable. -/
theorem parse_print_equivalent_iff {indent : Text} (hindent : IsIndent indent) {content : Text}
    {p : Parsed} (h : parse content = .ok p) :
    ∃ text, print indent p.directives = .ok text ∧
      ((∃ q, parse text = .ok q ∧ equivalent q.directives p.directives = true) ↔
        Everywhere Statement.Stable p.directives) := by
  have hw := wellFormed_parse h
  obtain ⟨ls, hls, hprint, hsplit⟩ := Printer.print_of_wellFormed hindent hw
  refine ⟨_, hprint, ?_, fun hs => ?_⟩
  · rintro ⟨q, hparse, hequiv⟩
    -- each statement is read back from its own line or from none, so that none can be missing
    have hlast : Parser.State.readings (1 + ls.length) [[]] = [] := rfl
    have hsub := (statements_parse hparse).map (·.2)
    rw [Directive.statements_of_equivalent hequiv, hsplit, Printer.readings_append, hlast,
      List.append_nil, Printer.readings_linesAll hindent hls] at hsub
    have hkept := forall_eq_some_of_sublist_filterMap hsub
    exact fun e he => (Printer.reread_iff (hw e he)).1 (hkept e.2 (List.mem_map_of_mem he))
  · obtain ⟨text, q, hprint', hparse, hequiv, -⟩ := parse_print_of_stable hindent hw hs
    obtain rfl := Except.ok.inj (hprint.symm.trans hprint')
    exact ⟨q, hparse, hequiv⟩

/-- A configuration with a value that is one word only between quotes. -/
def spacedAuthType : Text := "AuthType \"a b\"".toList

/-- What that configuration is read as. -/
def spacedAuthTypeParsed : Parsed :=
  ⟨[.rule 1 { kind := .authType, value := some "a b".toList }], []⟩

/-- That configuration is read as an equivalent one exactly if its rule is stable. -/
theorem spacedAuthType_equivalent_iff :
    IsIndent [] ∧ parse spacedAuthType = .ok spacedAuthTypeParsed ∧
      ∃ text, print [] spacedAuthTypeParsed.directives = .ok text ∧
        ((∃ q, parse text = .ok q ∧
            equivalent q.directives spacedAuthTypeParsed.directives = true) ↔
          Everywhere Statement.Stable spacedAuthTypeParsed.directives) :=
  have hindent : IsIndent [] := List.forall_mem_nil _
  have hread : parse spacedAuthType = .ok spacedAuthTypeParsed := rfl
  ⟨hindent, hread, parse_print_equivalent_iff hindent hread⟩

/-- The written form of that configuration has no quotes, and is read as another value. -/
theorem spacedAuthType_not_equivalent :
    ∃ p text q, parse spacedAuthType = .ok p ∧ print [] p.directives = .ok text ∧
      parse text = .ok q ∧ equivalent q.directives p.directives = false :=
  ⟨spacedAuthTypeParsed, "AuthType a b\n".toList,
    ⟨[.rule 1 { kind := .authType, value := some "a".toList }], []⟩, rfl, rfl, rfl, by decide⟩

end HtGate
