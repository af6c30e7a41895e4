import HtGate.Cli.Run
import HtGate.Proofs.Divergence.Heads
import HtGate.Proofs.Walker
/-!
# Evaluating a directory

The configurations on the way down to a directory are not evaluated as they were gathered, but as they are
read back from their written form. The answer to a request is the same for gathered configurations whose
statements are all faithful, and for no other statement is that certain.
-/

namespace HtGate

open Directive (Everywhere statements)
open Printer (print)

/-- A faithful configuration that is read from its own written form has the same outcome, where neither
evaluation ends with a fault. -/
theorem sameOutcome_of_faithful {indent : Text} (hindent : Printer.IsIndent indent)
    {ds : List Directive} (hw : Everywhere Statement.WellFormed ds)
    (hf : Everywhere Statement.Faithful ds) {text : Text} {p : Parsed}
    (hprint : print indent ds = .ok text) (hparse : parse text = .ok p) {world : Surroundings}
    {s : Session} {e e' : Evaluation} (he : Evaluation.ofDirectives world ds s = .ok e)
    (he' : Evaluation.ofDirectives world p.directives s = .ok e') : e'.SameOutcome e := by
  have hheads : ∀ x ∈ statements ds, ∀ head, x.2 = .opening head → head.Stable := by
    rintro ⟨line, x⟩ hx head rfl
    exact hf _ hx
  have hreadable := readable_of_parse hindent hw hheads hprint hparse
  obtain ⟨text', p', hprint', hparse', hback⟩ := parse_print hindent hw hreadable
  obtain rfl := Except.ok.inj (hprint.symm.trans hprint')
  obtain rfl := Except.ok.inj (hparse.symm.trans hparse')
  exact (Evaluation.ofDirectives_alike (hback.alike hf) he he').symm

namespace Cli

/-- The configuration of a directory is the written form of what a walk gathers. -/
lemma gathered_eq_ok {files : Files} {root : Text} {target : Option Text} {config : Config}
    (h : gathered files root target = .ok config) :
    ∃ M, (Walker.walk {} files root ((nonEmpty? target).getD root)).result = .ok M ∧
      print [] M = .ok config.content := by
  rw [gathered] at h
  obtain ⟨M, hM, h⟩ := bind_eq_ok_iff.1 h
  obtain ⟨content, hprint, h⟩ := bind_eq_ok_iff.1 h
  refine ⟨M, hM, ?_⟩
  rw [hprint]
  split at h
  · cases h
  · simp only [Config.ofText] at h
    split at h
    · cases h
    · cases h
      rfl

/-- What a walk gathers is a configuration if it has a written form that is not empty nor too large. -/
lemma exists_gathered (files : Files) (root : Text) (target : Option Text) {M : List Directive}
    {content : Text}
    (hM : (Walker.walk {} files root ((nonEmpty? target).getD root)).result = .ok M)
    (hprint : print [] M = .ok content) (hne : content ≠ [])
    (hsize : (Utf8.encode content).length ≤ Config.defaultLimit) :
    ∃ config, gathered files root target = .ok config ∧ config.content = content := by
  have hnonempty : content.isEmpty = false := by simpa using hne
  have hsize' : ¬Config.defaultLimit < (Utf8.encode content).length := by omega
  rw [gathered]
  simp [hM, hprint, hnonempty, Config.ofText, hsize', bind, Except.bind]

/-- The report about a request evaluates what the configuration is read as. -/
lemma make_eq_ok {world : Surroundings} {config : Config} {s : Session} {report : Report}
    (h : Report.make world config (some s) = .ok report) :
    ∃ p e, parse config.content = .ok p ∧
      Evaluation.ofDirectives world p.directives s = .ok e ∧ report.evaluation = some e := by
  obtain ⟨e, -, hparse, he, hevaluation⟩ := Report.eq_of_make h
  exact ⟨report.parsed, e, hparse, he, hevaluation⟩

/-- A report about a request is made where what the configuration is read as can be evaluated. -/
lemma exists_make {world : Surroundings} {config : Config} {s : Session} {p : Parsed}
    {e : Evaluation} (hparse : parse config.content = .ok p)
    (he : Evaluation.ofDirectives world p.directives s = .ok e) :
    ∃ report, Report.make world config (some s) = .ok report ∧ report.evaluation = some e := by
  rw [Report.make, hparse]
  simp [he, Except.map]

/-- The evaluation of a directory has the outcome of what a walk gathers, whatever the files, the
modules, the time and the request, if every statement that is gathered is faithful and neither evaluation
ends with a fault. The condition is exact: every other statement that is gathered stands in a configuration
that is answered differently after it was written and read again. -/
theorem gathered_sameOutcome (world : Surroundings) (root : Text) (target : Option Text)
    {M : List Directive}
    (hM : (Walker.walk {} world.files root ((nonEmpty? target).getD root)).result = .ok M) :
    (Everywhere Statement.Faithful M →
      ∀ (s : Session) (config : Config) (report : Report) (e : Evaluation),
        gathered world.files root target = .ok config →
        Report.make world config (some s) = .ok report →
        Evaluation.ofDirectives world M s = .ok e →
        ∃ e', report.evaluation = some e' ∧ e'.SameOutcome e) ∧
    ∀ x ∈ statements M, ¬x.2.Faithful → x.2.Exposed := by
  have hwalker : Walker.Genuine {} := Walker.genuine_of_kept_nil rfl
  -- a walker that has kept nothing gathers statements that were read from lines
  have hread := hwalker.isRead_walk hM
  refine ⟨fun hf s config report e hconfig hreport he => ?_, fun x hx hunfaithful => ?_⟩
  · obtain ⟨M', hM', hprint⟩ := gathered_eq_ok hconfig
    obtain rfl := Except.ok.inj (hM.symm.trans hM')
    obtain ⟨p, e', hparse, he', hevaluation⟩ := make_eq_ok hreport
    have hwellFormed := hread.imp fun _ => Statement.IsRead.wellFormed
    exact ⟨e', hevaluation,
      sameOutcome_of_faithful (List.forall_mem_nil _) hwellFormed hf hprint hparse he he'⟩
  · exact Statement.exposed_of_not_faithful (hread x hx) hunfaithful

/-- A directory with a configuration that denies all where the module of a tag is loaded. -/
def denyingSite (tag : Text) : Files :=
  { entries := [(["site".toList], ⟨.directory, 0⟩),
      (["site".toList, ".htaccess".toList],
        ⟨.file (Utf8.encode (tag ++ "\nRequire all denied\n</IfModule>\n".toList)), 0⟩)] }

/-- The head of a module with an ordinary name. -/
def plainHead : BlockHead := { kind := .ifModule, name := some ['m'] }

/-- The head of a module whose name has a mark in front. -/
def markedHead : BlockHead := { kind := .ifModule, name := some "!x".toList }

/-- What a walk gathers where a module with an ordinary name is named has the same outcome, and the head of
one with a mark in front is exposed. -/
theorem gathered_plainModule_sameOutcome :
    (∃ config report e e',
      (Walker.walk {} (denyingSite "<IfModule m>".toList) "site".toList "site".toList).result =
        .ok (denying plainHead 1 2) ∧
      gathered (denyingSite "<IfModule m>".toList) "site".toList none = .ok config ∧
      Report.make { files := denyingSite "<IfModule m>".toList } config
        (some (Evaluation.request none)) = .ok report ∧
      Evaluation.ofDirectives { files := denyingSite "<IfModule m>".toList }
        (denying plainHead 1 2) (Evaluation.request none) = .ok e ∧
      report.evaluation = some e' ∧ e'.SameOutcome e) ∧
    (Walker.walk {} (denyingSite "<IfModule \"!x\">".toList) "site".toList "site".toList).result =
        .ok (denying markedHead 1 2) ∧
      ¬markedHead.Stable ∧ (Statement.opening markedHead).Exposed := by
  constructor
  · have hwalk : (Walker.walk {} (denyingSite "<IfModule m>".toList) "site".toList
        "site".toList).result = .ok (denying plainHead 1 2) := rfl
    have hprint : print [] (denying plainHead 1 2) =
        .ok "<IfModule m>\nRequire all denied\n</IfModule>\n".toList := rfl
    have hparse : parse "<IfModule m>\nRequire all denied\n</IfModule>\n".toList =
        .ok ⟨denying plainHead 1 2, []⟩ := rfl
    have hfaithful : Everywhere Statement.Faithful (denying plainHead 1 2) := by
      have hhead : plainHead.Stable := by
        rintro - - t ⟨⟩ ⟨⟩
      have hrule : Rule.Faithful { kind := .requireAllDenied } :=
        Rule.faithful_of_stable (.bare (by decide)) nofun
      exact Directive.everywhere_block.2 ⟨hhead,
        Directive.everywhere_rule.2 ⟨hrule, Directive.everywhere_nil⟩, Directive.everywhere_nil⟩
    obtain ⟨config, hconfig, hcontent⟩ := exists_gathered (denyingSite "<IfModule m>".toList)
      "site".toList none hwalk hprint (by decide) (by decide)
    obtain ⟨e, he, -⟩ := ofDirectives_denying { files := denyingSite "<IfModule m>".toList }
      (show Selection.select none _ (denying plainHead 1 2) = _ from rfl)
    rw [← hcontent] at hparse
    obtain ⟨report, hreport, -⟩ := exists_make hparse he
    obtain ⟨e', hevaluation, hsame⟩ := (gathered_sameOutcome
      { files := denyingSite "<IfModule m>".toList } "site".toList none hwalk).1 hfaithful
      (Evaluation.request none) config report e hconfig hreport he
    exact ⟨config, report, e, e', hwalk, hconfig, hreport, he, hevaluation, hsame⟩
  · have hwalk : (Walker.walk {} (denyingSite "<IfModule \"!x\">".toList) "site".toList
        "site".toList).result = .ok (denying markedHead 1 2) := rfl
    have hstable : ¬markedHead.Stable := by
      intro hstable
      obtain ⟨c, hc, hs⟩ := hstable rfl rfl _ rfl rfl
      have hsolid : ("!x".toList).any Text.isWhitespace = false := rfl
      exact List.any_eq_false.1 hsolid c hc hs
    exact ⟨hwalk, hstable, (gathered_sameOutcome
      { files := denyingSite "<IfModule \"!x\">".toList } "site".toList none hwalk).2
      (1, .opening markedHead) (.head _) hstable⟩

/-- A module with a mark in front lets in what it should keep out: what a walk gathers turns the client
away, and what that is read back as does not. -/
theorem gathered_markedModule_not_sameOutcome :
    ∃ config report e e',
      (Walker.walk {} (denyingSite "<IfModule \"!x\">".toList) "site".toList "site".toList).result =
        .ok (denying markedHead 1 2) ∧
      gathered (denyingSite "<IfModule \"!x\">".toList) "site".toList none = .ok config ∧
      Report.make { files := denyingSite "<IfModule \"!x\">".toList } config
        (some (Evaluation.request none)) = .ok report ∧
      Evaluation.ofDirectives { files := denyingSite "<IfModule \"!x\">".toList }
        (denying markedHead 1 2) (Evaluation.request none) = .ok e ∧
      report.evaluation = some e' ∧
      e.decision.verdict = .denied ∧ e'.decision.verdict = .allowed := by
  have hwalk : (Walker.walk {} (denyingSite "<IfModule \"!x\">".toList) "site".toList
      "site".toList).result = .ok (denying markedHead 1 2) := rfl
  have hprint : print [] (denying markedHead 1 2) =
      .ok "<IfModule !x>\nRequire all denied\n</IfModule>\n".toList := rfl
  have hparse : parse "<IfModule !x>\nRequire all denied\n</IfModule>\n".toList =
      .ok ⟨denying { markedHead with negated := true } 1 2, []⟩ := rfl
  obtain ⟨config, hconfig, hcontent⟩ := exists_gathered
    (denyingSite "<IfModule \"!x\">".toList) "site".toList none hwalk hprint (by decide) (by decide)
  obtain ⟨e, he, hdenied⟩ := ofDirectives_denying
    { files := denyingSite "<IfModule \"!x\">".toList }
    (show Selection.select none _ (denying markedHead 1 2) = _ from rfl)
  obtain ⟨e', he', hallowed⟩ := ofDirectives_skipped
    { files := denyingSite "<IfModule \"!x\">".toList }
    (show Selection.select none _ (denying { markedHead with negated := true } 1 2) = _ from rfl)
  rw [← hcontent] at hparse
  obtain ⟨report, hreport, hevaluation⟩ := exists_make hparse he'
  exact ⟨config, report, e, e', hwalk, hconfig, hreport, he, hevaluation, hdenied, hallowed⟩

end Cli

end HtGate
