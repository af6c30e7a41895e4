import HtGate.Proofs.Directive.Merging
import HtGate.Proofs.Quiet
/-!
# Rules between others

A configuration answers differently after it was written and read again if the evaluations of the two
differ for some request. The smallest such configurations have the rule that is not read back between two
others, which are.
-/

namespace HtGate

open Directive (Everywhere ReadBack statements statementsOf everywhere_nil everywhere_rule)
open Printer (print)

/-- Whether the answer to some request, with some files, modules and time, changes when a sequence is
written and read again, though neither evaluation ends with a fault. -/
def Directive.Diverges (ds : List Directive) : Prop :=
  ∃ text p world s e e', print [] ds = .ok text ∧ parse text = .ok p ∧
    Evaluation.ofDirectives world ds s = .ok e ∧
    Evaluation.ofDirectives world p.directives s = .ok e' ∧ ¬e'.SameOutcome e

/-- Whether a statement stands in a configuration that can be read and whose answers change when it is
written and read again. -/
def Statement.Exposed (x : Statement) : Prop :=
  ∃ content q, parse content = .ok q ∧ x ∈ (statements q.directives).map (·.2) ∧
    Directive.Diverges q.directives

namespace Parser.State

/-- A line that states a rule adds the rule. -/
lemma step_of_rule {raw : Text} {r : Rule}
    (h : Statement.ofLine? (Text.trim raw) = some (.rule r)) (s : State) (number : Nat) :
    ∃ events, s.step number raw = .ok ((s.withEvents events).add (.rule number r)) := by
  obtain ⟨hnil, hhash, hopen, remarks, hread⟩ := Statement.read_of_ofLine? h
  refine ⟨(remarks.map (ParseEvent.ofRemark number)).reverse, ?_⟩
  simp only [step]
  split
  · rename_i heq
    exact absurd heq hnil
  · rename_i rest heq
    exact absurd heq (hhash rest)
  · rename_i rest heq
    exact absurd heq (hopen _)
  · rename_i rest _ heq
    exact absurd heq (hopen rest)
  · rw [ruleLine, hread]
    rfl

/-- Lines that state rules add the rules. -/
lemma run_of_rules {lines : List (Text × Rule)}
    (h : ∀ e ∈ lines, Statement.ofLine? (Text.trim e.1) = some (.rule e.2)) (s : State)
    (number : Nat) (more : List Text) :
    ∃ ds events, List.Forall₂ (fun e d => ∃ line, d = Directive.rule line e.2) lines ds ∧
      s.run number (lines.map (·.1) ++ more) =
        ((s.addAll ds).withEvents events).run (number + lines.length) more := by
  induction lines generalizing s number with
  | nil => exact ⟨[], [], .nil, rfl⟩
  | cons e lines ih =>
    obtain ⟨he, hlines⟩ := List.forall_mem_cons.1 h
    obtain ⟨earlier, hstep⟩ := step_of_rule he s number
    obtain ⟨ds, later, hds, hrun⟩ := ih hlines
      ((s.withEvents earlier).add (.rule number e.2)) (number + 1)
    refine ⟨.rule number e.2 :: ds, later ++ earlier, .cons ⟨_, rfl⟩ hds, ?_⟩
    rw [List.map_cons, List.cons_append, run_cons_of_step hstep, hrun, addAll_add_withEvents,
      List.length_cons, Nat.add_right_comm, Nat.add_assoc]

end Parser.State

/-- A configuration of lines that state rules is read as these rules. -/
lemma parse_of_rules (lines : List (Text × Rule))
    (h : ∀ e ∈ lines, e.1.OneLine ∧ Statement.ofLine? (Text.trim e.1) = some (.rule e.2)) :
    ∃ q, parse ((lines.map (·.1)).flatMap (· ++ ['\n'])) = .ok q ∧
      List.Forall₂ (fun e d => ∃ line, d = Directive.rule line e.2) lines q.directives := by
  have hlines : ∀ l ∈ lines.map (·.1), l.OneLine := by
    intro l hl
    obtain ⟨e, he, rfl⟩ := List.mem_map.1 hl
    exact (h e he).1
  obtain ⟨ds, events, hds, hrun⟩ :=
    Parser.State.run_of_rules (fun e he => (h e he).2) {} 1 [[]]
  refine ⟨⟨ds, events.reverse⟩, ?_, hds⟩
  rw [parse, Text.splitOn_lines hlines, hrun, ← Parser.State.finish_addAll]
  rfl

/-- How the line of a rule that comes first is read back. -/
lemma Directive.ReadBack.of_rule {line : Int} {r : Rule} {ds es : List Directive} {ps : List Problem}
    (h : ReadBack (.rule line r :: ds) es ps) {t : Text} {reading : LineReading}
    (hprint : Printer.rule r = .ok t) (hread : RuleReader.read (Text.trim t) = .ok reading) :
    ∃ line' es' ps', es = (reading.rule.map (.rule line')).toList ++ es' ∧ ReadBack ds es' ps' := by
  cases h with
  | @rule _ line' _ r' t' remarks _ es' ps' hprint' hread' hback =>
    obtain rfl := Except.ok.inj (hprint.symm.trans hprint')
    cases hread.symm.trans hread'
    exact ⟨line', es', ps', rfl, hback⟩
  | @lost _ _ t' remarks _ es' ps' hprint' hread' hback =>
    obtain rfl := Except.ok.inj (hprint.symm.trans hprint')
    cases hread.symm.trans hread'
    exact ⟨0, _, ps', rfl, hback⟩

/-- A rule, perhaps another one, and the demand for a user. -/
def framed (first : Rule) (inner : Option Rule) (a b c : Int) : List Directive :=
  .rule a first :: ((inner.map (.rule b)).toList ++ [.rule c { kind := .requireValidUser }])

section Framed

variable {first r : Rule} {inner : Option Rule}

/-- A rule between others is read back as whatever its line is read as. -/
lemma reread_framed (hfirst : first.WellFormed) (hstable : first.Stable) (hr : r.WellFormed)
    {t : Text} {reading : LineReading} (hprint : Printer.rule r = .ok t)
    (hread : RuleReader.read (Text.trim t) = .ok reading) (a b c : Int) :
    ∃ text p a' b' c', print [] (framed first (some r) a b c) = .ok text ∧ parse text = .ok p ∧
      p.directives = framed first reading.rule a' b' c' := by
  have hlast : Rule.WellFormed { kind := .requireValidUser } := .bare (by decide)
  have hlastStable : Rule.Stable { kind := .requireValidUser } := nofun
  have hw : Everywhere Statement.WellFormed (framed first (some r) a b c) :=
    everywhere_rule.2 ⟨hfirst, everywhere_rule.2 ⟨hr, everywhere_rule.2 ⟨hlast, everywhere_nil⟩⟩⟩
  have hreadable : Everywhere Statement.Readable (framed first (some r) a b c) :=
    everywhere_rule.2 ⟨Statement.readable_of_stable hfirst hstable,
      everywhere_rule.2 ⟨⟨t, reading, hprint, hread⟩,
        everywhere_rule.2 ⟨Statement.readable_of_stable hlast hlastStable, everywhere_nil⟩⟩⟩
  obtain ⟨text, p, htext, hparse, hback⟩ := parse_print (List.forall_mem_nil _) hw hreadable
  obtain ⟨t0, ht0, -⟩ := Statement.written_of_wellFormed (x := .rule first) hfirst
  have ht1 : Printer.rule { kind := .requireValidUser } = .ok "Require valid-user".toList := rfl
  -- the rules around the inner one are read back as themselves
  obtain ⟨a', es, ps, hes, hmore⟩ := hback.of_rule ht0 (Statement.read_of_stable hfirst hstable ht0)
  obtain ⟨b', es', ps', hes', hlastBack⟩ := hmore.of_rule hprint hread
  obtain ⟨c', es'', ps'', hes'', hnil⟩ :=
    hlastBack.of_rule ht1 (Statement.read_of_stable hlast hlastStable ht1)
  cases hnil
  subst hes'' hes'
  exact ⟨text, p, a', b', c', htext, hparse, hes⟩

/-- A rule that makes a difference between others is exposed. -/
lemma exposed_of_framed {line : Text} (firstLine : Text) (hline : line.OneLine)
    (hr : Statement.ofLine? (Text.trim line) = some (.rule r)) (hfirstLine : firstLine.OneLine)
    (hfirst : Statement.ofLine? (Text.trim firstLine) = some (.rule first)) (hstable : first.Stable)
    {t : Text} {reading : LineReading} (hprint : Printer.rule r = .ok t)
    (hread : RuleReader.read (Text.trim t) = .ok reading)
    (hdiff : ∀ a b c a' b' c', ∃ world s e e',
      Evaluation.ofDirectives world (framed first (some r) a b c) s = .ok e ∧
      Evaluation.ofDirectives world (framed first reading.rule a' b' c') s = .ok e' ∧
      ¬e'.SameOutcome e) : (Statement.rule r).Exposed := by
  have wellFormed {l : Text} {x : Statement} (hl : l.OneLine)
      (hx : Statement.ofLine? (Text.trim l) = some x) : x.WellFormed :=
    Statement.wellFormed_of_ofLine? (fun hm => hl (Text.mem_of_mem_trim hm)) hx
  obtain ⟨q, hparse, hq⟩ := parse_of_rules
    [(firstLine, first), (line, r), ("Require valid-user".toList, { kind := .requireValidUser })]
    (List.forall_mem_cons.2 ⟨⟨hfirstLine, hfirst⟩, List.forall_mem_cons.2 ⟨⟨hline, hr⟩,
      List.forall_mem_singleton.2 ⟨by decide, rfl⟩⟩⟩)
  -- the text has three lines and one rule for each, whose numbers are not fixed here
  obtain ⟨ds, events⟩ := q
  cases hq with
  | cons ha hq =>
    cases hq with
    | cons hb hq =>
      cases hq with
      | cons hc hq =>
        cases hq
        obtain ⟨a, rfl⟩ := ha
        obtain ⟨b, rfl⟩ := hb
        obtain ⟨c, rfl⟩ := hc
        obtain ⟨text, p, a', b', c', htext, hreparse, hp⟩ :=
          reread_framed (wellFormed hfirstLine hfirst) hstable (wellFormed hline hr) hprint hread
            a b c
        obtain ⟨world, s, e, e', he, he', hne⟩ := hdiff a b c a' b' c'
        exact ⟨_, _, hparse, by simp [statements, statementsOf],
          text, p, world, s, e, e', htext, hreparse, he, hp ▸ he', hne⟩

/-- Quiet rules stay quiet between others. -/
lemma isQuiet_framed (hfirst : first.kind.isQuiet = true) (hinner : ∀ r ∈ inner, r.kind.isQuiet = true)
    (a b c : Int) : ∀ d ∈ framed first inner a b c, d.isQuiet = true := by
  cases inner with
  | none =>
    exact List.forall_mem_cons.2 ⟨hfirst, List.forall_mem_singleton.2 rfl⟩
  | some r =>
    exact List.forall_mem_cons.2 ⟨hfirst, List.forall_mem_cons.2
      ⟨hinner r rfl, List.forall_mem_singleton.2 rfl⟩⟩

/-- Whether a user is asked for depends on the last way to prove an identity. -/
lemma isBasic_framed (hfirst : first.kind = .authType) (hinner : ∀ r ∈ inner, r.kind = .authType)
    (a b c : Int) :
    (Authentication.Setup.ofDirectives (framed first inner a b c)).isBasic =
      (inner.getD first).namesBasic := by
  cases inner with
  | none => simp [framed, Authentication.Setup.ofDirectives, Authentication.Setup.add,
      Authentication.Setup.isBasic, Rule.namesBasic, hfirst]
  | some r => simp [framed, Authentication.Setup.ofDirectives, Authentication.Setup.add,
      Authentication.Setup.isBasic, Rule.namesBasic, hfirst, hinner r rfl]

/-- No user is asked for where nothing says how. -/
lemma isBasic_framed_of_ne (hfirst : first.kind = .expiresActive)
    (hinner : ∀ r ∈ inner, r.kind = .expiresByType ∨ r.kind = .guard .protectPath) (a b c : Int) :
    (Authentication.Setup.ofDirectives (framed first inner a b c)).isBasic = false := by
  cases inner with
  | none => simp [framed, Authentication.Setup.ofDirectives, Authentication.Setup.add,
      Authentication.Setup.isBasic, hfirst]
  | some r =>
    rcases hinner r rfl with hr | hr <;>
      simp [framed, Authentication.Setup.ofDirectives, Authentication.Setup.add,
        Authentication.Setup.isBasic, hfirst, hr]

/-- The path that is protected is that of the inner rule. -/
lemma policy_framed (hfirst : first.kind = .expiresActive)
    (hinner : ∀ r ∈ inner, r.kind = .guard .protectPath) (a b c : Int) :
    GuardPolicy.ofDirectives (framed first inner a b c) =
      .ok { protectPath := inner.bind (·.value) } := by
  cases inner with
  | none => simp [framed, GuardPolicy.ofDirectives, GuardPolicy.add, hfirst]; rfl
  | some r =>
    simp [framed, GuardPolicy.ofDirectives, GuardPolicy.add, GuardPolicy.set, hfirst,
      hinner r rfl]
    rfl

/-- Whether lifetimes are on depends on the first rule. -/
lemma isActive_framed {active : Bool}
    (hfirst : Expires.takeUp false (.rule 0 first) = .ok active)
    (hinner : ∀ r ∈ inner, r.kind ≠ .expiresActive) (a b c : Int) :
    Expires.isActive (framed first inner a b c) = .ok active := by
  -- no rule but the first one turns lifetimes on or off
  have hstep (r : Rule) (hr : r.kind ≠ .expiresActive) (line : Int) (b : Bool) :
      Expires.takeUp b (.rule line r) = .ok b := by
    rw [Expires.takeUp]
    split <;> simp_all
  have hlast : Expires.takeUp active (.rule c { kind := .requireValidUser }) = .ok active := rfl
  rw [Expires.isActive, framed, List.foldlM_cons,
    show Expires.takeUp false (.rule a first) = .ok active from hfirst]
  cases inner with
  | none => exact hlast
  | some r =>
    show List.foldlM Expires.takeUp active [.rule b r, _] = _
    rw [List.foldlM_cons, hstep r (hinner r rfl)]
    exact hlast

end Framed

end HtGate
