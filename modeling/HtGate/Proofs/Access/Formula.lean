import HtGate.Proofs.Access.Likeness
import HtGate.Proofs.Directive.Forest
import Mathlib.Logic.Relation
/-!
# Require nodes as formulas

Once it is known which host lists name a client, Require nodes are a formula: a RequireAny is an "or", a
RequireAll is an "and", and a node that says nothing is left out by both. So the nodes may be regrouped: their
order does not matter, and a container inside one of its own kind may be dissolved. At the top level, which is
like the inside of a RequireAny, there must remain Require nodes at all.
-/

namespace HtGate.Require

/-- The stance of a rule towards a client, by the host lists that name the client. -/
def ruleStance (names : Option Text → Bool) (r : Rule) : Option Bool :=
  match r.kind with
  | .requireAllGranted => some true
  | .requireAllDenied => some false
  | .requireIp => some (names r.value)
  | .requireNotIp => some !names r.value
  | _ => none

mutual

/-- The stance of a node towards a client, by the host lists that name the client: `true` grants, `false`
denies, `none` says nothing. -/
def stance (names : Option Text → Bool) : Directive → Option Bool
  | .rule _ r => ruleStance names r
  | .block _ head children =>
    match head.kind with
    | .requireAny => some (someTakes names true children)
    | .requireAll => some !someTakes names false children
    | _ => none

/-- Whether one of the nodes grants, or denies, as `answer` says. -/
def someTakes (names : Option Text → Bool) (answer : Bool) : List Directive → Bool
  | [] => false
  | d :: ds => stance names d == some answer || someTakes names answer ds

end

section Evaluating

variable {names : Option Text → Bool} {ip : Int}

/-- A rule that can be judged takes the stance that it is judged to take. -/
lemma ruleStance_of_judgeRule (hnames : ∀ list b, HostList.contains list ip = .ok b → names list = b)
    {r : Rule} {v : Option Bool} (h : judgeRule ip r = .ok v) : ruleStance names r = v := by
  rw [judgeRule] at h
  rw [ruleStance]
  cases hlist : HostList.contains r.value ip with
  | error fault => cases hk : r.kind <;> simp_all [Except.map]
  | ok found =>
    have := hnames _ _ hlist
    cases hk : r.kind <;> simp_all [Except.map]

/-- If a node takes the stance that is looked for, the nodes after it do not matter. -/
lemma someTakes_cons_of_anySays {answer b : Bool} {d : Directive} {ds : List Directive}
    (hd : ∀ v, judge ip d = .ok v → stance names d = v)
    (hds : ∀ c, anySays answer ip ds = .ok c → someTakes names answer ds = c)
    (h : anySays answer ip (d :: ds) = .ok b) : someTakes names answer (d :: ds) = b := by
  rw [anySays] at h
  cases hv : judge ip d with
  | error fault => simp [hv] at h
  | ok v =>
    rw [someTakes, hd v hv]
    cases hanswers : v == some answer with
    | true => simpa [hv, hanswers] using h
    | false =>
      simp only [hv, hanswers, Bool.false_eq_true, if_false] at h
      exact hds b h

/-- A search among nodes that comes to an end finds what the formula says. -/
theorem someTakes_of_anySays (hnames : ∀ list b, HostList.contains list ip = .ok b → names list = b)
    {ds : List Directive} {answer b : Bool} (h : anySays answer ip ds = .ok b) :
    someTakes names answer ds = b := by
  induction ds using Directive.forest_induction generalizing answer b with
  | nil => exact Except.ok.inj h
  | rule line r ds ih =>
    apply someTakes_cons_of_anySays _ (fun _ => ih) h
    intro v hv
    exact ruleStance_of_judgeRule hnames hv
  | block line head children ds ihc ih =>
    apply someTakes_cons_of_anySays _ (fun _ => ih) h
    intro v hv
    -- a container takes what the search inside it finds
    rw [judge] at hv
    rw [stance]
    cases hk : head.kind with
    | requireAny =>
      cases hany : anySays true ip children with
      | error fault => simp [hk, hany, Except.map] at hv
      | ok granted => simpa [hk, hany, Except.map, ihc hany] using hv
    | requireAll =>
      cases hall : anySays false ip children with
      | error fault => simp [hk, hall, Except.map] at hv
      | ok denied => simpa [hk, hall, Except.map, ihc hall] using hv
    | _ => simpa [hk] using hv

/-- Whether a host list names an address. A list that cannot be searched is said not to. -/
def named (ip : Int) (list : Option Text) : Bool := (HostList.contains list ip).toOption.getD false

/-- A host list that can be searched names the addresses that it contains. -/
lemma named_of_contains {list : Option Text} {b : Bool} (h : HostList.contains list ip = .ok b) :
    named ip list = b := by
  rw [named, h]
  rfl

end Evaluating

/-- Nodes inside a container of a kind, grouped in another way at some depth. -/
inductive Regrouped : BlockKind → List Directive → List Directive → Prop where
  /-- The nodes in another order. -/
  | permuted {kind ds es} : ds.Perm es → Regrouped kind ds es
  /-- A change inside one of the nodes. -/
  | inside {kind before line head children children' after} :
    Regrouped head.kind children children' →
    Regrouped kind (before ++ .block line head children :: after)
      (before ++ .block line head children' :: after)
  /-- A container of the same kind replaced by its children. -/
  | dissolved {kind before line head children after} : head.kind = kind →
    Regrouped kind (before ++ .block line head children :: after) (before ++ (children ++ after))

/-- A sequence of nodes grouped in another way, at the top level or inside one of its nodes. -/
inductive Rewritten : List Directive → List Directive → Prop where
  /-- The nodes in another order. -/
  | permuted {ds es} : ds.Perm es → Rewritten ds es
  /-- A change inside one of the nodes. -/
  | inside {before line head children children' after} : Regrouped head.kind children children' →
    Rewritten (before ++ .block line head children :: after)
      (before ++ .block line head children' :: after)
  /-- A RequireAny replaced by its children, where Require nodes remain. -/
  | dissolved {before line head children after} : head.kind = .requireAny →
    (before ++ (children ++ after)).any governs = true →
    Rewritten (before ++ .block line head children :: after) (before ++ (children ++ after))
  /-- A RequireAny put around a sequence with Require nodes. -/
  | wrapped {line head ds} : head.kind = .requireAny → ds.any governs = true →
    Rewritten ds [.block line head ds]

section Regrouping

variable {names : Option Text → Bool} {answer : Bool} {line : Int} {head : BlockHead}
  {d e : Directive} {before after children children' ds es : List Directive}

/-- A stance is taken among nodes if one of them takes it. -/
lemma someTakes_eq_any (names : Option Text → Bool) (answer : Bool) (ds : List Directive) :
    someTakes names answer ds = ds.any (stance names · == some answer) := by
  induction ds with
  | nil => rfl
  | cons d ds ih => rw [someTakes, List.any_cons, ih]

/-- A stance is taken in two sequences put together if it is in one of them. -/
lemma someTakes_append :
    someTakes names answer (ds ++ es) = (someTakes names answer ds || someTakes names answer es) := by
  simp only [someTakes_eq_any, List.any_append]

/-- Which stances are taken does not depend on the order of the nodes. -/
lemma someTakes_perm (h : ds.Perm es) : someTakes names answer ds = someTakes names answer es := by
  rw [someTakes_eq_any, someTakes_eq_any, h.any_eq]

/-- Nodes of one stance stand for each other. -/
lemma someTakes_replace (h : stance names d = stance names e) :
    someTakes names answer (before ++ d :: after) = someTakes names answer (before ++ e :: after) := by
  rw [someTakes_append, someTakes_append, someTakes, someTakes, h]

/-- Among nodes of which one is to grant, a RequireAny is as good as its children. -/
lemma someTakes_dissolve_any (hk : head.kind = .requireAny) :
    someTakes names true (before ++ .block line head children :: after) =
      someTakes names true (before ++ (children ++ after)) := by
  rw [someTakes_append, someTakes_append, someTakes_append, someTakes, stance, hk]
  cases someTakes names true children <;> rfl

/-- Among nodes of which none is to deny, a RequireAll is as good as its children. -/
lemma someTakes_dissolve_all (hk : head.kind = .requireAll) :
    someTakes names false (before ++ .block line head children :: after) =
      someTakes names false (before ++ (children ++ after)) := by
  rw [someTakes_append, someTakes_append, someTakes_append, someTakes, stance, hk]
  cases someTakes names false children <;> rfl

/-- A container takes the same stance however its children are grouped. -/
theorem stance_regrouped (h : Regrouped head.kind children children') :
    stance names (.block line head children) = stance names (.block line head children') := by
  generalize hkind : head.kind = kind at h
  induction h generalizing head line with
  | permuted hperm => rw [stance, stance, someTakes_perm hperm, someTakes_perm hperm]
  | inside _ ih => rw [stance, stance, someTakes_replace (ih rfl), someTakes_replace (ih rfl)]
  | dissolved hsame =>
    rw [stance, stance, hkind]
    split
    · rw [someTakes_dissolve_any hsame]
    · rw [someTakes_dissolve_all hsame]
    · rfl

/-- Nodes grouped in another way govern as the nodes did. -/
lemma Rewritten.any_governs (h : Rewritten ds es) : ds.any governs = es.any governs := by
  cases h with
  | permuted hperm => exact hperm.any_eq
  | inside _ => simp only [List.any_append, List.any_cons, governs]
  | dissolved hk hgoverns => simp [hgoverns, governs, hk, BlockKind.isRequire]
  | wrapped hk hgoverns => simp [hgoverns, governs, hk, BlockKind.isRequire]

/-- Nodes grouped in another way grant as the nodes did. -/
lemma Rewritten.grants (h : Rewritten ds es) : someTakes names true ds = someTakes names true es := by
  cases h with
  | permuted hperm => exact someTakes_perm hperm
  | inside hregrouped => exact someTakes_replace (stance_regrouped hregrouped)
  | dissolved hk _ => exact someTakes_dissolve_any hk
  | wrapped hk _ =>
    rw [← List.nil_append [_], someTakes_dissolve_any hk, List.nil_append, List.append_nil]

/-- Sequences that come from each other by regrouping nodes give a request the same answer. -/
theorem evaluate_regrouped (h : Relation.EqvGen Rewritten ds es) (source : Text) (s : Session) :
    (evaluate source ds s).Agrees (evaluate source es s) := by
  have hinvariant : ds.any governs = es.any governs ∧
      ∀ names, someTakes names true ds = someTakes names true es := by
    induction h with
    | rel _ _ hstep => exact ⟨hstep.any_governs, fun _ => hstep.grants⟩
    | refl _ => exact ⟨rfl, fun _ => rfl⟩
    | symm _ _ _ ih => exact ⟨ih.1.symm, fun names => (ih.2 names).symm⟩
    | trans _ _ _ _ _ ih ih' => exact ⟨ih.1.trans ih'.1, fun names => (ih.2 names).trans (ih'.2 names)⟩
  apply evaluate_of_grants hinvariant.1
  intro address b c hb hc
  rw [← someTakes_of_anySays (fun _ _ => named_of_contains) hb,
    ← someTakes_of_anySays (fun _ _ => named_of_contains) hc]
  exact hinvariant.2 _

end Regrouping

/-- Nodes in containers of which two do not matter. -/
def nestedNodes : List Directive :=
  [.block 1 { kind := .requireAny }
    [.block 2 { kind := .requireAny } [.rule 3 { kind := .requireIp, value := some "10.1.0.0/16".toList }],
      .block 5 { kind := .requireAll }
        [.block 6 { kind := .requireAll }
          [.rule 7 { kind := .requireNotIp, value := some "10.0.0.1".toList }],
          .rule 9 { kind := .requireAllGranted }]]]

/-- The same nodes without these containers, in another order. -/
def flatNodes : List Directive :=
  [.block 5 { kind := .requireAll }
    [.rule 7 { kind := .requireNotIp, value := some "10.0.0.1".toList },
      .rule 9 { kind := .requireAllGranted }],
    .rule 3 { kind := .requireIp, value := some "10.1.0.0/16".toList }]

/-- The nested nodes and the flat ones are the same nodes grouped in another way. -/
lemma eqvGen_nestedNodes : Relation.EqvGen Rewritten nestedNodes flatNodes := by
  -- the inner RequireAny goes, then the outer one, then the inner RequireAll
  apply Relation.EqvGen.trans
  · exact .rel _ _ (@Rewritten.inside [] _ _ _ _ _ (@Regrouped.dissolved _ [] _ _ _ _ rfl))
  apply Relation.EqvGen.trans
  · exact .symm _ _ (.rel _ _ (.wrapped rfl rfl))
  apply Relation.EqvGen.trans
  · exact .rel _ _ (@Rewritten.inside [_] _ _ _ _ _ (@Regrouped.dissolved _ [] _ _ _ _ rfl))
  · exact .rel _ _ (.permuted (.swap _ _ _))

/-- Where no node grants, the client is not granted anything. -/
lemma find_of_no_grant {ds : List Directive} {ip : Option Text} {address : Nat}
    (hgoverns : ds.any governs = true) (hip : Ipv4.parse ip = .ok (.ok address))
    (hgrant : firstGrant address ds = .ok none) : find ds ip = .ok .notGranted := by
  rw [find_of_readable hgoverns hip, hgrant]
  rfl

/-- A client that none of the nodes lets in is turned away, however they are grouped. -/
theorem evaluate_nestedNodes_regrouped :
    ∃ d d', Relation.EqvGen Rewritten nestedNodes flatNodes ∧
      (evaluate [] nestedNodes { clientIp := some "10.0.0.1".toList }).result = .ok d ∧
      (evaluate [] flatNodes { clientIp := some "10.0.0.1".toList }).result = .ok d' ∧
      d.verdict = .denied ∧ d.Agrees d' := by
  have hip : Ipv4.parse (some "10.0.0.1".toList) = .ok (.ok 167772161) := rfl
  have hnested : find nestedNodes (some "10.0.0.1".toList) = .ok .notGranted :=
    find_of_no_grant rfl hip rfl
  have hflat : find flatNodes (some "10.0.0.1".toList) = .ok .notGranted :=
    find_of_no_grant rfl hip rfl
  have hd : (evaluate [] nestedNodes { clientIp := some "10.0.0.1".toList }).result =
      .ok Finding.notGranted.decision := by rw [evaluate, hnested]
  have hd' : (evaluate [] flatNodes { clientIp := some "10.0.0.1".toList }).result =
      .ok Finding.notGranted.decision := by rw [evaluate, hflat]
  exact ⟨_, _, eqvGen_nestedNodes, hd, hd', rfl, (evaluate_regrouped eqvGen_nestedNodes [] _ _ _ hd hd').1⟩

end HtGate.Require
