import HtGate.Evaluation
import HtGate.Proofs.Access.Likeness
/-!
# Evaluations of sequences that are alike

Two evaluations have the same outcome if they come to the same verdict, status, lifetime and policy. Where
neither of them ends with a fault, sequences that are alike have the same outcome for every request, with
whatever modules, files and time.
-/

namespace HtGate

open Directive (Alike)

/-- Steps come to a value if the first one does and the others do from there on. -/
lemma bind_eq_ok_iff {ε α β : Type} {x : Except ε α} {f : α → Except ε β} {b : β} :
    (x >>= f) = .ok b ↔ ∃ a, x = .ok a ∧ f a = .ok b := by
  cases x with
  | error fault => exact ⟨nofun, nofun⟩
  | ok a => exact ⟨fun h => ⟨a, rfl, h⟩, fun ⟨_, ha, h⟩ => by cases ha; exact h⟩

/-- The policy of sequences that are alike is the same. -/
lemma GuardPolicy.ofDirectives_alike {ds es : List Directive} (h : Alike ds es) :
    ofDirectives ds = ofDirectives es := by
  refine h.foldlM_eq (f := add) (fun _ _ _ => rfl) (fun policy r hr => ?_) (fun _ _ _ _ => rfl) {}
  simp only [add]
  split <;> simp_all [Kind.weighs]

namespace Expires

variable {now : Rat} {s : Session} {ds es : List Directive}

/-- Whether lifetimes are on is the same for sequences that are alike. -/
lemma isActive_alike (h : Alike ds es) : isActive ds = isActive es := by
  refine h.foldlM_eq (f := takeUp) (fun _ _ _ => rfl) (fun active r hr => ?_)
    (fun _ _ _ _ => rfl) false
  simp only [takeUp]
  split <;> simp_all [Kind.weighs]

/-- The lines of rules make no difference for the first lifetime. -/
lemma first_congr {l l' : List (Int × Rule)} (h : l.map (·.2) = l'.map (·.2)) :
    first l = first l' := by
  induction l generalizing l' with
  | nil =>
    cases l' with
    | nil => rfl
    | cons e' l' => cases h
  | cons e l ih =>
    cases l' with
    | nil => cases h
    | cons e' l' =>
      obtain ⟨he, hl⟩ := List.cons.inj h
      rw [first, first, show e.2 = e'.2 from he, ih hl]

/-- The rules for all other content are the same in sequences that are alike. -/
lemma defaultRules_alike (h : Alike ds es) :
    (defaultRules ds).map (·.2) = (defaultRules es).map (·.2) := by
  have hcons (line : Int) (r : Rule) (ds : List Directive) :
      (defaultRules (.rule line r :: ds)).map (·.2) =
        (r.weighed?.filter (·.kind == .expiresDefault)).toList ++ (defaultRules ds).map (·.2) := by
    by_cases hk : r.kind = .expiresDefault
    · simp [defaultRules, Rule.weighed?, hk, Kind.weighs, Option.filter]
    · cases hw : r.kind.weighs <;> simp [defaultRules, Rule.weighed?, hk, hw]
  induction h with
  | nil => rfl
  | @rule line line' r r' ds es hr _ ih =>
    have hweighed : r.weighed? = r'.weighed? := hr.weighed
    rw [hcons, hcons, hweighed, ih]
  | @lost line r ds es hr _ ih =>
    have hweighed : r.weighed? = none := hr.weighed
    rw [hcons, hweighed, ih]
    rfl
  | block _ _ _ ih => exact ih

/-- The lifetime that a directive gives the response of a session now. -/
def lifetimeAt? (now : Rat) (s : Session) : Directive → Option Int
  | .rule _ r => r.lifetimeAt? now s
  | .block _ _ _ => none

/-- The first lifetime for the response is the same in sequences that are alike. -/
lemma findSome?_lifetimeAt?_alike (h : Alike ds es) (now : Rat) (s : Session) :
    ds.findSome? (lifetimeAt? now s) = es.findSome? (lifetimeAt? now s) := by
  induction h with
  | nil => rfl
  | @rule line line' r r' ds es hr _ ih =>
    have hlifetime : lifetimeAt? now s (.rule line r) = lifetimeAt? now s (.rule line' r') :=
      hr.lifetime now s
    rw [List.findSome?_cons, List.findSome?_cons, hlifetime, ih]
  | @lost line r ds es hr _ ih =>
    have hlifetime : lifetimeAt? now s (.rule line r) = none := hr.lifetime now s
    rw [List.findSome?_cons, hlifetime, ih]
  | block _ _ _ ih => exact ih

/-- A rule for a content type is one for the response if it names the content type of the response. -/
lemma rulesFor_cons (line : Int) (r : Rule) (ds : List Directive) :
    rulesFor (contentType s) (.rule line r :: ds) =
      (if r.kind == .expiresByType && r.names s then [(line, r)] else []) ++
        rulesFor (contentType s) ds := by
  cases hnamed : r.kind == .expiresByType && r.names s with
  | false =>
    rw [Rule.names] at hnamed
    simp only [rulesFor, List.filterMap_cons, hnamed, Bool.false_eq_true, if_false, List.nil_append]
  | true =>
    rw [Rule.names] at hnamed
    simp only [rulesFor, List.filterMap_cons, hnamed, if_true, List.cons_append, List.nil_append]

/-- Where the first of the candidates can be given, it is the first lifetime for the response, or the
first default if there is none. -/
lemma first_candidates {defaults : List (Int × Rule)} {o : Option Int}
    (h : first (rulesFor (contentType s) ds ++ defaults) = .ok o)
    (ho : ∀ seconds ∈ o, (stamp now seconds s).result.isOk = true) :
    (ds.findSome? (lifetimeAt? now s)).elim (first defaults) (fun seconds => .ok (some seconds)) =
      .ok o := by
  induction ds with
  | nil => exact h
  | cons d ds ih =>
    cases d with
    | block line head children => exact ih h
    | rule line r =>
      rw [List.findSome?_cons, lifetimeAt?, Rule.lifetimeAt?]
      cases hnamed : r.kind == .expiresByType && r.names s with
      | false =>
        have hrules : rulesFor (contentType s) (.rule line r :: ds) =
            rulesFor (contentType s) ds := by
          rw [rulesFor_cons, hnamed]; rfl
        rw [hrules] at h
        exact ih h
      | true =>
        have hrules : rulesFor (contentType s) (.rule line r :: ds) =
            (line, r) :: rulesFor (contentType s) ds := by
          rw [rulesFor_cons, hnamed]; rfl
        rw [hrules, List.cons_append, first] at h
        cases hl : lifetime r with
        | error fault =>
          rw [hl] at h
          cases h
        | ok found =>
          rw [hl] at h
          cases found with
          | error reason => exact ih h
          | ok seconds =>
            -- a lifetime whose end has no date would have ended the evaluation
            cases h
            simp [ho seconds rfl]

/-- What is stamped is the lifetime itself. -/
lemma stamp_eq_ok {seconds n : Int} (h : (stamp now seconds s).result = .ok n) : n = seconds := by
  rw [stamp] at h
  split at h
  · cases h
  · dsimp only at h
    split at h
    · cases h
    · cases h
      rfl

/-- Whether a lifetime has a date does not depend on the session. -/
lemma stamp_result (now : Rat) (seconds : Int) (s s' : Session) :
    (stamp now seconds s).result = (stamp now seconds s').result := by
  rw [stamp, stamp]
  cases Fault.writeNumeral seconds with
  | error fault => rfl
  | ok numeral =>
    dsimp only
    cases (Instant.after now seconds).bind Instant.date <;> rfl

/-- A lifetime changes headers only. -/
lemma stamp_status (now : Rat) (seconds : Int) (s : Session) :
    (stamp now seconds s).session.status = s.status := by
  rw [stamp]
  split
  · rfl
  · dsimp only
    split <;> rfl

/-- A lifetime that is given can be given, and is the first of the candidates where lifetimes are on. -/
lemma apply_eq_ok {o : Option Int} (h : (apply now ds s).result = .ok o) :
    (∀ seconds ∈ o, (stamp now seconds s).result.isOk = true) ∧
      (isActive ds = .ok false ∧ o = none ∨
        isActive ds = .ok true ∧ first (candidates ds s) = .ok o) := by
  rw [apply, find] at h
  cases hactive : isActive ds with
  | error fault =>
    rw [hactive] at h
    cases h
  | ok active =>
    rw [hactive] at h
    cases active with
    | false =>
      cases h
      exact ⟨by simp, .inl ⟨rfl, rfl⟩⟩
    | true =>
      simp only [Outcome.andThen] at h
      cases hfirst : first (candidates ds s) with
      | error fault => simp [hfirst] at h
      | ok found =>
        rw [hfirst] at h
        cases found with
        | none =>
          cases h
          exact ⟨by simp, .inr ⟨rfl, rfl⟩⟩
        | some seconds =>
          -- what is found is given only after it was written with its date
          cases hstamp : (stamp now seconds s).result with
          | error fault => simp [hstamp] at h
          | ok n =>
            cases stamp_eq_ok hstamp
            simp only [hstamp] at h
            cases h
            refine ⟨fun m hm => ?_, .inr ⟨rfl, rfl⟩⟩
            cases hm
            rw [hstamp]
            rfl

/-- To look for a lifetime leaves the session alone. -/
lemma find_session (ds : List Directive) (s : Session) : (find ds s).session = s := by
  rw [find]
  split <;> rfl

/-- To give a response its lifetime leaves the status alone. -/
lemma apply_status (now : Rat) (ds : List Directive) (s : Session) :
    (apply now ds s).session.status = s.status := by
  rw [apply, Outcome.andThen]
  cases (find ds s).result with
  | error fault => rw [find_session]
  | ok found =>
    cases found with
    | none => simp [find_session]
    | some seconds =>
      simp only [find_session, Outcome.andThen]
      cases (stamp now seconds s).result <;> exact stamp_status now seconds s

/-- Sequences that are alike give a response the same lifetime. -/
theorem apply_alike (h : Alike ds es) {o o' : Option Int} (ho : (apply now ds s).result = .ok o)
    (ho' : (apply now es s).result = .ok o') : o = o' := by
  obtain ⟨hgiven, hcase⟩ := apply_eq_ok ho
  obtain ⟨hgiven', hcase'⟩ := apply_eq_ok ho'
  rw [isActive_alike h] at hcase
  -- both are off, or both are on and give the first lifetime there is
  rcases hcase with ⟨hoff, rfl⟩ | ⟨hon, hfirst⟩
  · rcases hcase' with ⟨-, rfl⟩ | ⟨hon', -⟩
    · rfl
    · rw [hoff] at hon'
      cases hon'
  · rcases hcase' with ⟨hoff', -⟩ | ⟨-, hfirst'⟩
    · rw [hon] at hoff'
      cases hoff'
    · have hgives := first_candidates hfirst hgiven
      rw [findSome?_lifetimeAt?_alike h now s, first_congr (defaultRules_alike h),
        first_candidates hfirst' hgiven'] at hgives
      exact (Except.ok.inj hgives).symm

end Expires

namespace Evaluation

/-- Whether two evaluations have the same outcome for the client. -/
structure SameOutcome (e e' : Evaluation) : Prop where
  verdict : e.decision.verdict = e'.decision.verdict
  refusal : e.decision.status = e'.decision.status
  status : e.session.status = e'.session.status
  lifetime : e.lifetime = e'.lifetime
  policy : e.policy = e'.policy

/-- To have the same outcome goes both ways. -/
lemma SameOutcome.symm {e e' : Evaluation} (h : e.SameOutcome e') : e'.SameOutcome e :=
  ⟨h.verdict.symm, h.refusal.symm, h.status.symm, h.lifetime.symm, h.policy.symm⟩

variable {world : Surroundings} {ds es : List Directive} {s : Session}

/-- What an evaluation is made of. -/
lemma ofDirectives_eq_ok_iff {e : Evaluation} :
    ofDirectives world ds s = .ok e ↔
      ∃ applicable, Selection.select world.modules s ds = .ok applicable ∧
        (Access.decide world.files applicable s).result = .ok e.decision ∧
        GuardPolicy.ofDirectives applicable = .ok e.policy ∧
        e.policy.protects s.uri = .ok e.isProtected ∧
        e.policy.isWhitelisted s.clientIp = .ok e.isWhitelisted ∧
        lifetimeOf world.now e.decision applicable
          (Access.decide world.files applicable s).session = .ok (e.lifetime, e.session) := by
  rw [ofDirectives]
  constructor
  · intro h
    obtain ⟨applicable, hselect, h⟩ := bind_eq_ok_iff.1 h
    obtain ⟨decision, hdecision, h⟩ := bind_eq_ok_iff.1 h
    obtain ⟨policy, hpolicy, h⟩ := bind_eq_ok_iff.1 h
    obtain ⟨isProtected, hprotected, h⟩ := bind_eq_ok_iff.1 h
    obtain ⟨isWhitelisted, hwhitelisted, h⟩ := bind_eq_ok_iff.1 h
    obtain ⟨⟨lifetime, session⟩, hlifetime, h⟩ := bind_eq_ok_iff.1 h
    cases h
    exact ⟨applicable, hselect, hdecision, hpolicy, hprotected, hwhitelisted, hlifetime⟩
  · rintro ⟨applicable, hselect, hdecision, hpolicy, hprotected, hwhitelisted, hlifetime⟩
    refine bind_eq_ok_iff.2 ⟨applicable, hselect, bind_eq_ok_iff.2 ⟨_, hdecision, ?_⟩⟩
    refine bind_eq_ok_iff.2 ⟨_, hpolicy, bind_eq_ok_iff.2 ⟨_, hprotected, ?_⟩⟩
    exact bind_eq_ok_iff.2 ⟨_, hwhitelisted, bind_eq_ok_iff.2 ⟨_, hlifetime, rfl⟩⟩

/-- What the lifetime of a response is, and what it leaves as it is. -/
lemma lifetimeOf_eq_ok {now : Rat} {d : Decision} {o : Option Int} {s' : Session}
    (h : lifetimeOf now d ds s = .ok (o, s')) :
    s'.status = s.status ∧
      (d.isDenied = true ∧ o = none ∨
        d.isDenied = false ∧ (Expires.apply now ds s).result = .ok o) := by
  rw [lifetimeOf] at h
  cases hdenied : d.isDenied with
  | true =>
    rw [if_pos hdenied] at h
    cases h
    exact ⟨rfl, .inl ⟨rfl, rfl⟩⟩
  | false =>
    rw [if_neg (by simp [hdenied])] at h
    cases hresult : (Expires.apply now ds s).result with
    | error fault => simp [hresult, Except.map] at h
    | ok found =>
      simp only [hresult, Except.map] at h
      cases h
      exact ⟨Expires.apply_status now ds s, .inr ⟨rfl, rfl⟩⟩

/-- Sequences that are alike give a response the same lifetime after the same answer. -/
lemma lifetimeOf_alike (h : Alike ds es) {now : Rat} {d d' : Decision} (hd : d.Agrees d')
    {o o' : Option Int} {a a' : Session} (ho : lifetimeOf now d ds s = .ok (o, a))
    (ho' : lifetimeOf now d' es s = .ok (o', a')) : o = o' := by
  obtain ⟨-, hcase⟩ := lifetimeOf_eq_ok ho
  obtain ⟨-, hcase'⟩ := lifetimeOf_eq_ok ho'
  rw [hd.isDenied] at hcase
  rcases hcase with ⟨hdenied, rfl⟩ | ⟨hdenied, hresult⟩
  · rcases hcase' with ⟨-, rfl⟩ | ⟨hallowed, -⟩
    · rfl
    · rw [hdenied] at hallowed
      cases hallowed
  · rcases hcase' with ⟨hdenied', -⟩ | ⟨-, hresult'⟩
    · rw [hdenied] at hdenied'
      cases hdenied'
    · exact Expires.apply_alike h hresult hresult'

/-- Where neither evaluation ends with a fault, sequences that are alike have the same outcome. -/
theorem ofDirectives_alike (h : Alike ds es) {e e' : Evaluation}
    (he : ofDirectives world ds s = .ok e) (he' : ofDirectives world es s = .ok e') :
    e.SameOutcome e' := by
  obtain ⟨a, ha, hdecision, hpolicy, -, -, hlifetime⟩ := ofDirectives_eq_ok_iff.1 he
  obtain ⟨b, hb, hdecision', hpolicy', -, -, hlifetime'⟩ := ofDirectives_eq_ok_iff.1 he'
  have hab := Selection.select_alike h ha hb
  obtain ⟨hanswer, hsession⟩ :=
    Access.decideWith_alike hab Password.verify world.files s _ _ hdecision hdecision'
  have hstatus : e.session.status = e'.session.status := by
    rw [(lifetimeOf_eq_ok hlifetime).1, (lifetimeOf_eq_ok hlifetime').1]
    exact congrArg Session.status hsession
  rw [GuardPolicy.ofDirectives_alike hab, hpolicy'] at hpolicy
  rw [show (Access.decide world.files a s).session = _ from hsession] at hlifetime
  exact ⟨hanswer.verdict, hanswer.status, hstatus, lifetimeOf_alike hab hanswer hlifetime hlifetime',
    (Except.ok.inj hpolicy).symm⟩

end Evaluation

/-- A report about a request evaluates what the configuration is read as. -/
lemma Report.eq_of_make {world : Surroundings} {config : Config} {s : Session} {report : Report}
    (h : Report.make world config (some s) = .ok report) :
    ∃ e, report.config = config ∧ parse config.content = .ok report.parsed ∧
      Evaluation.ofDirectives world report.parsed.directives s = .ok e ∧
      report.evaluation = some e := by
  rw [Report.make] at h
  cases hparse : parse config.content with
  | error failure => simp [hparse] at h
  | ok p =>
    simp only [hparse] at h
    cases he : Evaluation.ofDirectives world p.directives s with
    | error fault => simp [he, Except.map] at h
    | ok e =>
      simp only [he, Except.map, Except.ok.injEq] at h
      rw [← h]
      exact ⟨e, rfl, rfl, he, rfl⟩

end HtGate
