import HtGate.Access.Check
import HtGate.Guard
import HtGate.Proofs.Directive.Completeness
import HtGate.Proofs.Directive.Likeness
import HtGate.Proofs.Directive.Printing
import HtGate.Proofs.Pattern.Lack
/-!
# Evaluations for want of nothing

Selections, decisions, lifetimes and policies look at parts of directives that need not be there. Where every
statement is complete, they are there: what the rules of the legacy access control, the switches of
lifetimes and the settings of the protection come to can be said without a failure, and no stage of an
evaluation ends with the fault that something is absent or of the wrong type. What applies to a request is
complete where all directives are, so that this holds of every configuration that is read and of whatever is
selected from it.
-/

namespace HtGate

open Directive (Everywhere everywhere_nil everywhere_append everywhere_rule everywhere_block)

/-- What holds everywhere in a sequence, holds of its rules. -/
lemma Directive.Everywhere.of_rule_mem {p : Statement → Prop} {ds : List Directive}
    (h : Everywhere p ds) {line : Int} {r : Rule} (hr : .rule line r ∈ ds) : p (.rule r) :=
  (everywhere_rule.1 (h.of_mem hr)).1

/-- What takes up directives one after another comes to a value if every step does. -/
lemma exists_foldlM {β ε : Type} {f : β → Directive → Except ε β} {ds : List Directive}
    (h : ∀ d ∈ ds, ∀ b, ∃ b', f b d = .ok b') (b : β) : ∃ b', ds.foldlM f b = .ok b' := by
  induction ds generalizing b with
  | nil => exact ⟨b, rfl⟩
  | cons d ds ih =>
    obtain ⟨b', hb⟩ := h d (.head _) b
    obtain ⟨b'', hb'⟩ := ih (fun e he => h e (.tail _ he)) b'
    exact ⟨b'', by rw [List.foldlM_cons, hb]; exact hb'⟩

variable {ds : List Directive}

namespace Detail

/-- The order that is said. -/
def order? : Detail → Option Text
  | .order said => some said
  | _ => Option.none

/-- Whether lifetimes are said to be on. -/
def active? : Detail → Option Bool
  | .expires active _ => some active
  | _ => Option.none

end Detail

/-- What a directive says if it is a rule of a kind. -/
def Directive.word? {β : Type} (kind : Kind) (read : Detail → Option β) : Directive → Option β
  | rule _ r => if r.kind = kind then read r.detail else none
  | block _ _ _ => none

namespace Condition

/-- The condition of a block whose head is complete lacks nothing. -/
lemma neverLacks_applies {head : BlockHead} (h : head.Complete) (modules : Modules) (s : Session) :
    NeverLacks (applies modules s head) := by
  refine NeverLacks.map ?_ _
  have hcarries := h.carries
  rw [BlockHead.Carries] at hcarries
  rw [check]
  -- only two kinds look at a part of their head, and a complete head has it
  cases hk : head.kind with
  | filesMatch =>
    rw [hk] at hcarries
    obtain ⟨pattern, hpattern, -⟩ := hcarries
    rw [hpattern]
    cases s.filename with
    | none => exact neverLacks_ok _
    | some name =>
      simp only [matchesName]
      split
      · exact neverLacks_ok _
      · rename_i hparse
        exact neverLacks_error (Pattern.not_isLack_of_parse hparse)
      · exact neverLacks_ok _
  | ifModule =>
    rw [hk] at hcarries
    obtain ⟨name, hname, -⟩ := hcarries
    rw [hname]
    exact (neverLacks_ok _).map _
  | files | limit | limitExcept | requireAny | requireAll => exact neverLacks_ok _

end Condition

namespace Selection

variable {modules : Modules} {s : Session}

/-- A selection from a complete sequence lacks nothing. -/
lemma neverLacks_select (h : Everywhere Statement.Complete ds) :
    NeverLacks (select modules s ds) := by
  induction ds using Directive.forest_induction with
  | nil => exact neverLacks_ok _
  | rule line r ds ih =>
    rw [select, ofDirective]
    dsimp only
    split
    · rename_i hfault
      exact (ih (everywhere_rule.1 h).2).passOn hfault
    · exact neverLacks_ok _
  | block line head children ds ihc ih =>
    obtain ⟨hhead, hchildren, hds⟩ := everywhere_block.1 h
    -- the fault is the block's own condition's, one from inside it, or one from behind it
    have hfirst : NeverLacks (ofDirective modules s (.block line head children)) := by
      rw [ofDirective]
      split
      · exact neverLacks_ok _
      · split
        · rename_i hfault
          exact (Condition.neverLacks_applies hhead modules s).passOn hfault
        · exact ihc hchildren
        · exact neverLacks_ok _
    rw [select]
    split
    · rename_i hfault
      exact hfirst.passOn hfault
    · split
      · rename_i hfault
        exact (ih hds).passOn hfault
      · exact neverLacks_ok _

/-- What holds everywhere in a sequence, holds everywhere in what is selected from it. -/
lemma everywhere_select {p : Statement → Prop} (h : Everywhere p ds) {as : List Directive}
    (has : select modules s ds = .ok as) : Everywhere p as := by
  induction ds using Directive.forest_induction generalizing as with
  | nil =>
    cases has
    exact everywhere_nil
  | rule line r ds ih =>
    obtain ⟨hr, hds⟩ := everywhere_rule.1 h
    obtain ⟨first, more, hfirst, hmore, rfl⟩ := select_cons_iff.1 has
    cases hfirst
    exact everywhere_rule.2 ⟨hr, ih hds hmore⟩
  | block line head children ds ihc ih =>
    obtain ⟨hhead, hchildren, hds⟩ := everywhere_block.1 h
    obtain ⟨first, more, hfirst, hmore, rfl⟩ := select_cons_iff.1 has
    refine everywhere_append.2 ⟨?_, ih hds hmore⟩
    -- the block stays whole, its children take its place, or it is left out
    rw [ofDirective] at hfirst
    split at hfirst
    · cases hfirst
      exact everywhere_block.2 ⟨hhead, hchildren, everywhere_nil⟩
    · split at hfirst
      · cases hfirst
      · exact ihc hchildren hfirst
      · cases hfirst
        exact everywhere_nil

end Selection

namespace Require

/-- To judge a rule lacks nothing. -/
lemma neverLacks_judgeRule (ip : Int) (r : Rule) : NeverLacks (judgeRule ip r) := by
  rw [judgeRule]
  split
  · exact neverLacks_ok _
  · exact neverLacks_ok _
  · exact (HostList.neverLacks_contains _ _).map _
  · exact (HostList.neverLacks_contains _ _).map _
  · exact neverLacks_ok _

/-- What a node says lacks nothing if what it finds inside does not. -/
lemma neverLacks_judge_block {ip : Int} {children : List Directive}
    (h : ∀ answer, NeverLacks (anySays answer ip children)) (line : Int) (head : BlockHead) :
    NeverLacks (judge ip (.block line head children)) := by
  rw [judge]
  split
  · exact (h true).map _
  · exact (h false).map _
  · exact neverLacks_ok _

/-- To look for an answer among nodes lacks nothing, by induction on them and on what is inside them. -/
lemma neverLacks_anySays (answer : Bool) (ip : Int) : NeverLacks (anySays answer ip ds) := by
  have hcons {d : Directive} {ds : List Directive} {answer : Bool} (hd : NeverLacks (judge ip d))
      (hds : NeverLacks (anySays answer ip ds)) : NeverLacks (anySays answer ip (d :: ds)) := by
    rw [anySays]
    split
    · rename_i hfault
      exact hd.passOn hfault
    · split
      · exact neverLacks_ok _
      · exact hds
  induction ds using Directive.forest_induction generalizing answer with
  | nil => exact neverLacks_ok _
  | rule line r ds ih => exact hcons (neverLacks_judgeRule ip r) (ih answer)
  | block line head children ds ihc ih => exact hcons (neverLacks_judge_block ihc line head) (ih answer)

/-- To judge a node lacks nothing. -/
lemma neverLacks_judge (ip : Int) (d : Directive) : NeverLacks (judge ip d) := by
  cases d with
  | rule line r => exact neverLacks_judgeRule ip r
  | block line head children =>
    exact neverLacks_judge_block (fun answer => neverLacks_anySays answer ip) line head

/-- To look for the first node that grants lacks nothing. -/
lemma neverLacks_firstGrant (ip : Int) : NeverLacks (firstGrant ip ds) := by
  induction ds with
  | nil => exact neverLacks_ok _
  | cons d ds ih =>
    rw [firstGrant]
    split
    · rename_i hfault
      exact (neverLacks_judge ip d).passOn hfault
    · split
      · exact neverLacks_ok _
      · exact ih

/-- Require nodes lack nothing. -/
lemma neverLacks_evaluate (source : Text) (ds : List Directive) (s : Session) :
    NeverLacks (evaluate source ds s).result := by
  have hfind : NeverLacks (find ds s.clientIp) := by
    rw [find]
    split
    · exact neverLacks_ok _
    · refine (Ipv4.neverLacks_parse _).bind fun reading _ => ?_
      split
      · exact neverLacks_ok _
      · refine (neverLacks_firstGrant _).bind fun found _ => ?_
        split <;> exact neverLacks_ok _
  rw [evaluate]
  split
  · rename_i hfault
    exact hfind.passOn hfault
  · exact neverLacks_ok _

end Require

namespace Legacy

/-- The host list of a directive, if it is a rule of a kind. -/
def hosts (kind : Kind) : Directive → List (Option Text)
  | .rule _ r => if r.kind = kind then [r.value] else []
  | .block _ _ _ => []

/-- What a directive adds to the rules, if it can be taken up. -/
lemma eq_of_add {d : Directive} {rules rules' : Rules} (h : rules.add d = .ok rules') :
    rules' = { order := (d.word? .order Detail.order?).or rules.order,
               allow := rules.allow ++ hosts .allowFrom d, deny := rules.deny ++ hosts .denyFrom d } := by
  cases d with
  | block line head children =>
    cases h
    simp [Directive.word?, hosts]
  | rule line r =>
    cases hk : r.kind with
    | order =>
      cases hdetail : r.detail <;> simp [Rules.add, hk, hdetail] at h
      simp [← h, Directive.word?, Detail.order?, hosts, hk, hdetail]
    | _ =>
      simp only [Rules.add, hk, Except.ok.injEq] at h
      simp [← h, Directive.word?, hosts, hk]

/-- What a complete directive adds to the rules. -/
lemma add_eq {d : Directive} (h : Everywhere Statement.Complete [d]) (rules : Rules) :
    rules.add d = .ok
      { order := (d.word? .order Detail.order?).or rules.order,
        allow := rules.allow ++ hosts .allowFrom d, deny := rules.deny ++ hosts .denyFrom d } := by
  have hadd : ∃ rules', rules.add d = .ok rules' := by
    cases d with
    | block line head children => exact ⟨_, rfl⟩
    | rule line r =>
      cases hk : r.kind with
      | order =>
        have hcarries := (everywhere_rule.1 h).1.carries
        rw [Rule.Carries, hk] at hcarries
        obtain ⟨order, hdetail, -⟩ := hcarries
        exact ⟨{ rules with order := some order }, by simp [Rules.add, hk, hdetail]⟩
      | _ => simp [Rules.add, hk]
  obtain ⟨rules', hrules⟩ := hadd
  rw [hrules, eq_of_add hrules]

/-- The rules of a sequence are those of all but its last directive, with that taken up. -/
lemma ofDirectives_concat (ds : List Directive) (d : Directive) :
    Rules.ofDirectives (ds ++ [d]) = (Rules.ofDirectives ds >>= (Rules.add · d)) := by
  simp [Rules.ofDirectives]

/-- The rules of a complete sequence: the last order that is said, and the host lists of both kinds. -/
lemma ofDirectives_eq (h : Everywhere Statement.Complete ds) :
    Rules.ofDirectives ds = .ok
      { order := ds.reverse.findSome? (·.word? .order Detail.order?),
        allow := ds.flatMap (hosts .allowFrom), deny := ds.flatMap (hosts .denyFrom) } := by
  induction ds using List.reverseRecOn with
  | nil => rfl
  | append_singleton ds d ih =>
    obtain ⟨hds, hd⟩ := everywhere_append.1 h
    rw [ofDirectives_concat, ih hds]
    refine (add_eq hd _).trans ?_
    simp only [List.flatMap_append, List.flatMap_singleton, List.reverse_append,
      List.reverse_singleton, List.singleton_append, List.findSome?_cons]
    cases d.word? .order Detail.order? <;> rfl

/-- To look for an address in host lists lacks nothing. -/
lemma neverLacks_anyContains (ip : Int) (lists : List (Option Text)) :
    NeverLacks (anyContains ip lists) := by
  induction lists with
  | nil => exact neverLacks_ok _
  | cons list more ih =>
    rw [anyContains]
    split
    · rename_i hfault
      exact (HostList.neverLacks_contains list ip).passOn hfault
    · exact neverLacks_ok _
    · exact ih

/-- The legacy rules of a complete sequence lack nothing. -/
lemma neverLacks_evaluate (h : Everywhere Statement.Complete ds) (source : Text) (s : Session) :
    NeverLacks (evaluate source ds s).result := by
  have hfind : NeverLacks (find ds s.clientIp) := by
    rw [find, ofDirectives_eq h]
    refine (neverLacks_ok _).bind fun rules _ => ?_
    split
    · exact neverLacks_ok _
    · refine (Ipv4.neverLacks_parse _).bind fun reading _ => ?_
      split
      · exact neverLacks_ok _
      · refine (neverLacks_anyContains _ _).bind fun allowed _ => ?_
        exact (neverLacks_anyContains _ _).bind fun denied _ => neverLacks_ok _
  rw [evaluate]
  split
  · rename_i hfault
    exact hfind.passOn hfault
  · exact neverLacks_ok _

end Legacy

namespace Authentication

/-- To ask for a user lacks nothing. -/
lemma neverLacks_evaluateWith (verify : Verifier) (source : Text) (files : Files)
    (ds : List Directive) (s : Session) :
    NeverLacks (evaluateWith verify source files ds s).result := by
  have hfindUser (file : Option Text) : NeverLacks (findUser verify files file s.authorization) := by
    rw [findUser.eq_def]
    split
    · exact neverLacks_ok _
    · exact neverLacks_ok _
    · split
      · rename_i hfault
        exact (Credentials.neverLacks_ofHeader _).passOn hfault
      · exact neverLacks_ok _
      · -- a file that cannot be read is a fault of its own
        split
        · exact neverLacks_ok _
        · exact neverLacks_error (by decide)
        · exact neverLacks_ok _
  have hfind : NeverLacks (find verify files (Setup.ofDirectives ds) s.authorization) := by
    rw [find]
    split
    · exact (hfindUser _).map _
    · exact neverLacks_ok _
  rw [evaluateWith]
  split
  · rename_i hfault
    exact hfind.passOn hfault
  · exact neverLacks_ok _
  · exact neverLacks_ok _

end Authentication

namespace Access

/-- Access control by a complete sequence lacks nothing. -/
lemma neverLacks_decideWith (h : Everywhere Statement.Complete ds)
    (verify : Authentication.Verifier) (files : Files) (s : Session) :
    NeverLacks (decideWith verify files ds s).result := by
  have haddress : NeverLacks (decideAddress ds s).result := by
    refine (Require.neverLacks_evaluate source ds s).andThen fun d _ => ?_
    split
    · exact Legacy.neverLacks_evaluate h source _
    · exact neverLacks_ok _
  refine (haddress.andThen fun d _ => ?_).andThen fun d _ => neverLacks_ok _
  rw [decideUser]
  split
  · exact neverLacks_ok _
  · exact (Authentication.neverLacks_evaluateWith verify source files ds _).andThen
      fun answer _ => neverLacks_ok _

/-- Access control by what is selected from a complete sequence lacks nothing. -/
lemma neverLacks_checkWith (h : Everywhere Statement.Complete ds)
    (verify : Authentication.Verifier) (files : Files) (modules : Modules) (s : Session) :
    NeverLacks (checkWith verify files modules ds s).result := by
  have hselect : NeverLacks (Selection.evaluate source modules ds s).result :=
    Selection.neverLacks_select h
  exact hselect.andThen fun as has =>
    neverLacks_decideWith (Selection.everywhere_select h has) verify files s

end Access

namespace Expires

/-- What a complete directive turns on or off. -/
lemma takeUp_eq {d : Directive} (h : Everywhere Statement.Complete [d]) (active : Bool) :
    takeUp active d = .ok ((d.word? .expiresActive Detail.active?).getD active) := by
  cases d with
  | block line head children => rfl
  | rule line r =>
    cases hk : r.kind with
    | expiresActive =>
      have hcarries := (everywhere_rule.1 h).1.carries
      rw [Rule.Carries, hk] at hcarries
      obtain ⟨active', seconds, hdetail⟩ := hcarries
      simp [takeUp, Directive.word?, Detail.active?, hk, hdetail]
    | _ => simp [takeUp, Directive.word?, hk]

/-- Lifetimes are on in a complete sequence if the last switch turns them on. -/
lemma isActive_eq (h : Everywhere Statement.Complete ds) :
    isActive ds = .ok ((ds.reverse.findSome? (·.word? .expiresActive Detail.active?)).getD false) := by
  induction ds using List.reverseRecOn with
  | nil => rfl
  | append_singleton ds d ih =>
    obtain ⟨hds, hd⟩ := everywhere_append.1 h
    have hfold : isActive (ds ++ [d]) = (isActive ds >>= (takeUp · d)) := by
      simp [isActive]
    rw [hfold, ih hds]
    refine (takeUp_eq hd _).trans ?_
    rw [List.reverse_append, List.reverse_singleton, List.singleton_append, List.findSome?_cons]
    cases d.word? .expiresActive Detail.active? <;> rfl

/-- The seconds that a rule states. -/
def stated (r : Rule) : Int :=
  match r.detail with
  | .expires _ seconds => seconds
  | _ => 0

/-- The lifetime of a complete rule is what it states. -/
lemma lifetime_eq {r : Rule} (h : r.Complete) (hk : r.kind = .expiresByType ∨ r.kind = .expiresDefault) :
    lifetime r = .ok (.ok (stated r)) := by
  have hcarries := h.carries
  rw [Rule.Carries] at hcarries
  have hparts : ∃ seconds : Nat, r.detail = .expires false seconds ∧
      Duration.parse r.value = .ok (.ok seconds) ∧ lifetime r = .ok (.ok seconds) := by
    rcases hk with hk | hk <;> rwa [hk] at hcarries
  obtain ⟨seconds, hdetail, -, hlifetime⟩ := hparts
  rw [hlifetime, stated, hdetail]

/-- The rules that are asked for the lifetime of a response are rules for lifetimes in the sequence. -/
lemma of_mem_candidates {s : Session} {e : Int × Rule} (he : e ∈ candidates ds s) :
    .rule e.1 e.2 ∈ ds ∧ (e.2.kind = .expiresByType ∨ e.2.kind = .expiresDefault) := by
  rcases List.mem_append.1 he with he | he
  · obtain ⟨d, hd, hde⟩ := List.mem_filterMap.1 he
    cases d with
    | block line head children => cases hde
    | rule line r =>
      simp only [Option.ite_none_right_eq_some, Option.some.injEq, Bool.and_eq_true, beq_iff_eq] at hde
      obtain ⟨⟨hk, -⟩, rfl⟩ := hde
      exact ⟨hd, .inl hk⟩
  · obtain ⟨d, hd, hde⟩ := List.mem_filterMap.1 he
    cases d with
    | block line head children => cases hde
    | rule line r =>
      simp only [Option.ite_none_right_eq_some, Option.some.injEq, beq_iff_eq] at hde
      obtain ⟨hk, rfl⟩ := hde
      exact ⟨hd, .inr hk⟩

/-- The first of the rules that are asked gives the lifetime of a response. -/
lemma first_candidates_eq (h : Everywhere Statement.Complete ds) (s : Session) :
    first (candidates ds s) = .ok ((candidates ds s).head?.map fun e => stated e.2) := by
  cases hc : candidates ds s with
  | nil => rfl
  | cons e more =>
    have he : e ∈ candidates ds s := by simp [hc]
    obtain ⟨hmem, hk⟩ := of_mem_candidates he
    have hr : e.2.Complete := h.of_rule_mem hmem
    rw [first, lifetime_eq hr hk]
    rfl

/-- The lifetime of a response by a complete sequence lacks nothing. -/
lemma neverLacks_apply (h : Everywhere Statement.Complete ds) (now : Rat) (s : Session) :
    NeverLacks (apply now ds s).result := by
  have hfind : NeverLacks (find ds s).result := by
    rw [find, isActive_eq h]
    cases (ds.reverse.findSome? (·.word? .expiresActive Detail.active?)).getD false with
    | false => exact neverLacks_ok _
    | true =>
      dsimp only
      rw [first_candidates_eq h]
      exact neverLacks_ok _
  refine hfind.andThen fun found _ => ?_
  split
  · exact neverLacks_ok _
  · exact (neverLacks_stamp now _ _).andThen fun n _ => neverLacks_ok _

end Expires

/-- The settings of the protection in a complete sequence can all be taken up. -/
lemma GuardPolicy.exists_ofDirectives (h : Everywhere Statement.Complete ds) :
    ∃ policy, GuardPolicy.ofDirectives ds = .ok policy := by
  refine exists_foldlM (f := add) (fun d hd policy => ?_) {}
  cases d with
  | block line head children => exact ⟨policy, rfl⟩
  | rule line r =>
    cases hk : r.kind with
    | guard setting =>
      have hr : r.Complete := h.of_rule_mem hd
      have hcarries := hr.carries
      rw [Rule.Carries, hk] at hcarries
      simp only [add, hk]
      -- two settings are taken from the value, the others from the detail that a complete rule has
      cases setting with
      | whitelist | protectPath => exact ⟨_, rfl⟩
      | allowedAttempts | window | throttleDuration =>
        obtain ⟨values, hdetail, -⟩ := hcarries
        exact ⟨_, by simp [set, carried, hdetail]; rfl⟩
      | protection | action | forwardedFor =>
        obtain ⟨values, hdetail⟩ := hcarries
        exact ⟨_, by simp [set, carried, hdetail]; rfl⟩
    | _ => exact ⟨policy, by simp [add, hk]⟩

/-- Whether no stage of an evaluation of a sequence lacks anything, whatever the request is. -/
structure Evaluable (ds : List Directive) : Prop where
  selection : ∀ modules s, NeverLacks (Selection.select modules s ds)
  require : ∀ source s, NeverLacks (Require.evaluate source ds s).result
  legacy : ∀ source s, NeverLacks (Legacy.evaluate source ds s).result
  user : ∀ verify source files s,
    NeverLacks (Authentication.evaluateWith verify source files ds s).result
  decision : ∀ verify files s, NeverLacks (Access.decideWith verify files ds s).result
  access : ∀ verify files modules s,
    NeverLacks (Access.checkWith verify files modules ds s).result
  lifetime : ∀ now s, NeverLacks (Expires.apply now ds s).result
  policy : ∃ policy, GuardPolicy.ofDirectives ds = .ok policy

/-- A complete sequence can be evaluated. -/
lemma evaluable_of_complete (h : Everywhere Statement.Complete ds) : Evaluable ds where
  selection _ _ := Selection.neverLacks_select h
  require source s := Require.neverLacks_evaluate source ds s
  legacy source s := Legacy.neverLacks_evaluate h source s
  user verify source files s := Authentication.neverLacks_evaluateWith verify source files ds s
  decision verify files s := Access.neverLacks_decideWith h verify files s
  access verify files modules s := Access.neverLacks_checkWith h verify files modules s
  lifetime now s := Expires.neverLacks_apply h now s
  policy := GuardPolicy.exists_ofDirectives h

/-- Every statement of a configuration that is read is complete, at every depth. The configuration has a
written form with whatever indentation, and neither an evaluation of it nor one of what is selected from it
lacks anything. -/
theorem parse_complete {content : Text} {p : Parsed} (h : parse content = .ok p) :
    Everywhere Statement.Complete p.directives ∧
    (∀ indent, ∃ text, Printer.print indent p.directives = .ok text) ∧
    Evaluable p.directives ∧
    ∀ modules s as, Selection.select modules s p.directives = .ok as → Evaluable as := by
  have hw := wellFormed_parse h
  have hcomplete : Everywhere Statement.Complete p.directives :=
    hw.imp fun _ => Statement.WellFormed.complete
  refine ⟨hcomplete, fun indent => Printer.exists_print indent hw, evaluable_of_complete hcomplete, ?_⟩
  intro modules s as has
  exact evaluable_of_complete (Selection.everywhere_select hcomplete has)

/-- A document for an error where a module is not loaded, and a lifetime that is no time at all. -/
def guardedDocument : Text :=
  "<IfModule !a>\nErrorDocument 404 /x\n</IfModule>\nExpiresDefault \"access plus 0 days\"".toList

/-- The three statements of this configuration are complete, and it can be written and evaluated. -/
theorem parse_guardedDocument_complete :
    ∃ p, parse guardedDocument = .ok p ∧ (Directive.statements p.directives).length = 3 ∧
      Everywhere Statement.Complete p.directives ∧ Evaluable p.directives ∧
      ∃ text, Printer.print ['\t'] p.directives = .ok text := by
  have hp : parse guardedDocument = .ok
      ⟨[.block 1 { kind := .ifModule, name := some ['!', 'a'], negated := true }
          [.rule 2 { kind := .errorDocument, value := some ['/', 'x'], detail := .errorDocument 404 }],
        .rule 4
          { kind := .expiresDefault, value := some "access plus 0 days".toList,
            detail := .expires false 0 }], []⟩ := rfl
  obtain ⟨hcomplete, hprint, hevaluable, -⟩ := parse_complete hp
  exact ⟨_, hp, rfl, hcomplete, hevaluable, hprint ['\t']⟩

/-- A rule that is not complete can make an evaluation lack something. -/
example : (Legacy.evaluate [] [.rule 1 { kind := .order }] {}).result = .error .missingDetail := rfl

end HtGate
