import HtGate.Access.Check
import HtGate.Proofs.Directive.Likeness
/-!
# Access under sequences that are alike

Two sequences that are alike answer a request in the same way and leave the same session, whatever the
test of hashes and whatever the files are. Only the reasons and the log may differ, which tell of lines.
-/

namespace HtGate

open Directive (Alike)
open Rule (SameBearing elim_weighed?)

namespace Decision

/-- Whether two decisions give the same answer, for whatever reasons. -/
structure Agrees (d d' : Decision) : Prop where
  verdict : d.verdict = d'.verdict
  status : d.status = d'.status

/-- A decision agrees with itself. -/
lemma Agrees.refl (d : Decision) : d.Agrees d := ⟨rfl, rfl⟩

/-- Decisions that agree both turn the client away, or neither does. -/
lemma Agrees.isDenied {d d' : Decision} (h : d.Agrees d') : d.isDenied = d'.isDenied := by
  rw [Decision.isDenied, Decision.isDenied, h.verdict]

end Decision

namespace Outcome

/-- Whether two evaluations that come to decisions give the same answer and leave the same session. -/
def Agrees (o o' : Outcome Decision) : Prop :=
  ∀ d d', o.result = .ok d → o'.result = .ok d' → d.Agrees d' ∧ o.session = o'.session

/-- An evaluation agrees with itself. -/
lemma Agrees.refl (o : Outcome Decision) : o.Agrees o := by
  intro d d' hd hd'
  rw [hd] at hd'
  cases hd'
  exact ⟨.refl d, rfl⟩

/-- Evaluations in two steps agree if both of their steps do. -/
lemma Agrees.andThen {o o' : Outcome Decision} (h : o.Agrees o')
    {next next' : Decision → Session → Outcome Decision}
    (hnext : ∀ d d' s, d.Agrees d' → (next d s).Agrees (next' d' s)) :
    (o.andThen next).Agrees (o'.andThen next') := by
  intro d d' hd hd'
  cases ho : o.result with
  | error fault => simp [Outcome.andThen, ho] at hd
  | ok a =>
    cases ho' : o'.result with
    | error fault => simp [Outcome.andThen, ho'] at hd'
    | ok a' =>
      obtain ⟨ha, hs⟩ := h a a' ho ho'
      simp only [Outcome.andThen, ho, ho', ← hs] at hd hd' ⊢
      exact hnext a a' o.session ha d d' hd hd'

end Outcome

namespace Require

variable {ds es : List Directive}

/-- A rule is judged by what of it is weighed, and says nothing if nothing is. -/
lemma judgeRule_eq (ip : Int) (r : Rule) :
    judgeRule ip r = r.weighed?.elim (.ok none) (judgeRule ip) := by
  refine (elim_weighed? fun h => ?_).symm
  rw [judgeRule]
  split <;> simp_all [Kind.weighs]

/-- A rule governs by what of it is weighed, and does not if nothing is. -/
lemma governs_eq (line : Int) (r : Rule) :
    governs (.rule line r) = r.weighed?.elim false (·.kind.isRequireAccess) := by
  refine (elim_weighed? (f := (·.kind.isRequireAccess)) fun h => ?_).symm
  cases hk : r.kind <;> simp_all [Kind.weighs, Kind.isRequireAccess]

/-- Rules that are the same to evaluations say the same about an address. -/
lemma judge_rule {r r' : Rule} (h : SameBearing (some r) (some r')) (ip line line' : Int) :
    judge ip (.rule line r) = judge ip (.rule line' r') := by
  have hweighed : r.weighed? = r'.weighed? := h.weighed
  rw [judge, judge, judgeRule_eq, judgeRule_eq ip r', hweighed]

/-- A rule that is the same to evaluations as none says nothing. -/
lemma judge_lost {r : Rule} (h : SameBearing (some r) none) (ip line : Int) :
    judge ip (.rule line r) = .ok none := by
  have hweighed : r.weighed? = none := h.weighed
  rw [judge, judgeRule_eq, hweighed]
  rfl

/-- Blocks with one head say the same about an address if their children grant and deny the same. -/
lemma judge_block {children children' : List Directive} {ip : Int}
    (h : ∀ answer, anySays answer ip children = anySays answer ip children') (line line' : Int)
    (head : BlockHead) :
    judge ip (.block line head children) = judge ip (.block line' head children') := by
  rw [judge, judge, h, h]

/-- Sequences that are alike have the same answers among their nodes. -/
lemma anySays_alike (h : Alike ds es) (answer : Bool) (ip : Int) :
    anySays answer ip ds = anySays answer ip es := by
  induction h generalizing answer with
  | nil => rfl
  | rule hr _ ih => rw [anySays, anySays, judge_rule hr, ih]
  | lost hr _ ih => rw [anySays, judge_lost hr, ih]; rfl
  | block _ _ ihc ih => rw [anySays, anySays, judge_block ihc, ih]

/-- Sequences that are alike both have Require nodes, or neither has. -/
lemma any_governs_alike (h : Alike ds es) : ds.any governs = es.any governs := by
  induction h with
  | nil => rfl
  | @rule line line' r r' ds es hr _ ih =>
    have hweighed : r.weighed? = r'.weighed? := hr.weighed
    rw [List.any_cons, List.any_cons, governs_eq, governs_eq _ r', hweighed, ih]
  | @lost line r ds es hr _ ih =>
    have hweighed : r.weighed? = none := hr.weighed
    rw [List.any_cons, governs_eq, hweighed, ih]
    rfl
  | block _ _ _ ih => rw [List.any_cons, List.any_cons, ih]; rfl

/-- There is a first node that grants exactly if one grants. -/
lemma firstGrant_isSome (ip : Int) (ds : List Directive) :
    (firstGrant ip ds).map Option.isSome = anySays true ip ds := by
  induction ds with
  | nil => rfl
  | cons d ds ih =>
    rw [firstGrant, anySays, ← ih]
    cases judge ip d with
    | error fault => rfl
    | ok verdict => cases hgrants : verdict == some true <;> simp [hgrants, Except.map]

/-- Where an address can be read and there are Require nodes, the client is let in exactly if a node grants. -/
lemma verdict_of_readable {ip : Option Text} {address : Nat} {f : Finding}
    (hgoverns : ds.any governs = true) (hip : Ipv4.parse ip = .ok (.ok address))
    (hf : find ds ip = .ok f) : ∃ granted, anySays true address ds = .ok granted ∧
      f.decision.verdict = if granted then .allowed else .denied := by
  rw [find_of_readable hgoverns hip] at hf
  cases hgrant : firstGrant address ds with
  | error fault => simp [hgrant, Except.map] at hf
  | ok found =>
    rw [hgrant] at hf
    cases hf
    refine ⟨found.isSome, ?_, ?_⟩
    · rw [← firstGrant_isSome, hgrant]
      rfl
    · cases found <;> rfl

/-- Findings with the same verdict turn a client away, or do not, in the same way. -/
lemma Finding.agrees_of_verdict {f f' : Finding} (h : f.decision.verdict = f'.decision.verdict) :
    f.decision.Agrees f'.decision ∧ ∀ s, f.apply s = f'.apply s := by
  cases f <;> cases f' <;>
    first
    | exact ⟨⟨rfl, rfl⟩, fun _ => rfl⟩
    | simp [decision, isDenial, Decision.deny, Decision.allow] at h

/-- Require nodes that grant the same addresses come to the same verdict. -/
lemma verdict_eq_of_grants (hgoverns : ds.any governs = es.any governs)
    (hgrants : ∀ (address : Nat) b c, anySays true address ds = .ok b →
      anySays true address es = .ok c → b = c) {ip : Option Text} {f f' : Finding}
    (hf : find ds ip = .ok f) (hf' : find es ip = .ok f') : f.decision.verdict = f'.decision.verdict := by
  -- only where the address can be read are the nodes searched
  cases hes : es.any governs with
  | false =>
    simp only [find, hgoverns, hes, Bool.not_false, if_true, pure, Except.pure, Except.ok.injEq] at hf hf'
    rw [← hf, ← hf']
  | true =>
    have hds := hgoverns.trans hes
    cases hip : Ipv4.parse ip with
    | error fault => simp [find, hds, hip, bind, Except.bind] at hf
    | ok reading =>
      cases reading with
      | error reason =>
        simp only [find, hds, hes, hip, bind, Except.bind, pure, Except.pure, Bool.not_true,
          Bool.false_eq_true, if_false, Except.ok.injEq] at hf hf'
        rw [← hf, ← hf']
      | ok address =>
        obtain ⟨b, hb, hverdict⟩ := verdict_of_readable hds hip hf
        obtain ⟨c, hc, hverdict'⟩ := verdict_of_readable hes hip hf'
        rw [hverdict, hverdict', hgrants address b c hb hc]

/-- Require nodes that grant the same addresses give a request the same answer and leave the same session. -/
lemma evaluate_of_grants (hgoverns : ds.any governs = es.any governs)
    (hgrants : ∀ (address : Nat) b c, anySays true address ds = .ok b →
      anySays true address es = .ok c → b = c) (source : Text) (s : Session) :
    (evaluate source ds s).Agrees (evaluate source es s) := by
  intro d d' hd hd'
  rw [evaluate] at hd hd' ⊢
  rw [evaluate]
  cases hds : find ds s.clientIp with
  | error fault => simp [hds] at hd
  | ok f =>
    cases hes : find es s.clientIp with
    | error fault => simp [hes] at hd'
    | ok f' =>
      simp only [hds, hes, Except.ok.injEq] at hd hd' ⊢
      obtain ⟨hanswer, hsession⟩ :=
        Finding.agrees_of_verdict (verdict_eq_of_grants hgoverns hgrants hds hes)
      exact ⟨hd ▸ hd' ▸ hanswer, hsession s⟩

/-- The Require nodes of sequences that are alike come to the same. -/
lemma evaluate_alike (h : Alike ds es) (source : Text) (s : Session) :
    (evaluate source ds s).Agrees (evaluate source es s) := by
  apply evaluate_of_grants (any_governs_alike h)
  intro address b c hb hc
  rw [anySays_alike h, hc] at hb
  exact (Except.ok.inj hb).symm

end Require

namespace Legacy

variable {ds es : List Directive}

/-- Sequences that are alike have the same legacy rules. -/
lemma ofDirectives_alike (h : Alike ds es) : Rules.ofDirectives ds = Rules.ofDirectives es := by
  refine h.foldlM_eq (f := Rules.add) (fun _ _ _ => rfl) (fun rules r hr => ?_)
    (fun _ _ _ _ => rfl) {}
  simp only [Rules.add]
  split <;> simp_all [Kind.weighs]

/-- The legacy rules of sequences that are alike do the same. -/
lemma evaluate_alike (h : Alike ds es) (source : Text) (s : Session) :
    evaluate source ds s = evaluate source es s := by
  rw [evaluate, evaluate, find, find, ofDirectives_alike h]

end Legacy

namespace Authentication

variable {ds es : List Directive}

namespace Setup

/-- Whether two setups ask for the same proof of an identity. -/
structure Agrees (a b : Setup) : Prop where
  realm : a.realm = b.realm
  userFile : a.userFile = b.userFile
  validUser : a.validUser = b.validUser
  basic : (a.type.any fun t => Text.lower t == "basic".toList) =
    b.type.any fun t => Text.lower t == "basic".toList

/-- What a rule changes in a setup. -/
lemma add_rule (a : Setup) (line : Int) (r : Rule) :
    (a.add (.rule line r)).realm =
        r.weighed?.elim a.realm (fun r => if r.kind = .authName then r.value else a.realm) ∧
      (a.add (.rule line r)).userFile = r.weighed?.elim a.userFile
        (fun r => if r.kind = .authUserFile then r.value else a.userFile) ∧
      (a.add (.rule line r)).validUser = r.weighed?.elim a.validUser
        (fun r => r.kind == .requireValidUser || a.validUser) ∧
      ((a.add (.rule line r)).type.any fun t => Text.lower t == "basic".toList) =
        r.asksBasic?.getD (a.type.any fun t => Text.lower t == "basic".toList) := by
  simp only [add]
  split
  case h_5 => cases hw : r.kind.weighs <;> simp_all [Rule.weighed?, Rule.asksBasic?]
  all_goals simp_all [Rule.weighed?, Rule.asksBasic?, Rule.namesBasic, Kind.weighs]

/-- Sequences that are alike ask for the same proof of an identity. -/
lemma foldl_alike (h : Alike ds es) {a b : Setup} (hab : a.Agrees b) :
    (ds.foldl add a).Agrees (es.foldl add b) := by
  -- the invariant is that the two setups agree, whatever they started from
  induction h generalizing a b with
  | nil => exact hab
  | @rule line line' r r' ds es hr _ ih =>
    have hweighed : r.weighed? = r'.weighed? := hr.weighed
    have hbasic : r.asksBasic? = r'.asksBasic? := hr.asksBasic
    obtain ⟨hrealm, hfile, huser, htype⟩ := add_rule a line r
    obtain ⟨hrealm', hfile', huser', htype'⟩ := add_rule b line' r'
    refine ih ⟨?_, ?_, ?_, ?_⟩
    · rw [hrealm, hrealm', hweighed, hab.realm]
    · rw [hfile, hfile', hweighed, hab.userFile]
    · rw [huser, huser', hweighed, hab.validUser]
    · rw [htype, htype', hbasic, hab.basic]
  | @lost line r ds es hr _ ih =>
    have hweighed : r.weighed? = none := hr.weighed
    -- what the other list lacks is not weighed, so that it leaves the setup as it was
    have hbasic : r.asksBasic? = none := hr.asksBasic
    obtain ⟨hrealm, hfile, huser, htype⟩ := add_rule a line r
    refine ih ⟨?_, ?_, ?_, ?_⟩
    · rw [hrealm, hweighed, Option.elim_none, hab.realm]
    · rw [hfile, hweighed, Option.elim_none, hab.userFile]
    · rw [huser, hweighed, Option.elim_none, hab.validUser]
    · rw [htype, hbasic, Option.getD_none, hab.basic]
  | block _ _ _ ih => exact ih hab

end Setup

/-- Sequences that are alike come to the same about a user. -/
lemma evaluateWith_alike (h : Alike ds es) (verify : Verifier) (source : Text) (files : Files)
    (s : Session) :
    evaluateWith verify source files ds s = evaluateWith verify source files es s := by
  have hsetup : (Setup.ofDirectives ds).Agrees (Setup.ofDirectives es) :=
    Setup.foldl_alike h ⟨rfl, rfl, rfl, rfl⟩
  have hbasic : (Setup.ofDirectives ds).isBasic = (Setup.ofDirectives es).isBasic := by
    rw [Setup.isBasic, Setup.isBasic, hsetup.validUser, hsetup.basic]
  have hfind : find verify files (Setup.ofDirectives ds) s.authorization =
      find verify files (Setup.ofDirectives es) s.authorization := by
    rw [find, find, hbasic, hsetup.userFile]
  simp only [evaluateWith, hfind, hsetup.realm]

end Authentication

namespace Access

variable {ds es : List Directive}

/-- Sequences that are alike let the same addresses in. -/
lemma decideAddress_alike (h : Alike ds es) (s : Session) :
    (decideAddress ds s).Agrees (decideAddress es s) := by
  refine (Require.evaluate_alike h source s).andThen fun d d' s hd => ?_
  rw [hd.verdict]
  split
  · rw [Legacy.evaluate_alike h]
    exact .refl _
  · rintro _ _ ⟨⟩ ⟨⟩
    exact ⟨hd, rfl⟩

/-- Sequences that are alike give a request the same answer and leave the same session. -/
theorem decideWith_alike (h : Alike ds es) (verify : Authentication.Verifier) (files : Files)
    (s : Session) :
    (decideWith verify files ds s).Agrees (decideWith verify files es s) := by
  refine ((decideAddress_alike h s).andThen fun d d' s hd => ?_).andThen fun d d' s hd => ?_
  · rw [decideUser, decideUser, hd.isDenied, Authentication.evaluateWith_alike h]
    split
    · rintro _ _ ⟨⟩ ⟨⟩
      exact ⟨hd, rfl⟩
    · intro e e' he he'
      -- the same users are found on both sides, so that one evaluation stands for both
      cases hw : Authentication.evaluateWith verify source files es s with
      | mk result session records =>
        cases result with
        | error fault => simp [Outcome.andThen, hw] at he
        | ok answer =>
          simp only [Outcome.andThen, hw, Except.ok.injEq] at he he' ⊢
          cases answer with
          | none => exact ⟨he ▸ he' ▸ hd, trivial⟩
          | some given => exact ⟨he ▸ he' ▸ .refl given, trivial⟩
  · rintro _ _ ⟨⟩ ⟨⟩
    exact ⟨hd, rfl⟩

end Access

end HtGate
