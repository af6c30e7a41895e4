import HtGate.Proofs.Evaluation
/-!
# Evaluations of quiet sequences

A quiet sequence has rules only, and none that looks at the address of a client, names a file of users or
turns the protection on. Its evaluation lets every client in unless it asks for a user, which ends with
the failure of the server for want of a file, and gives the response the lifetime that the sequence sets.
-/

namespace HtGate

namespace Kind

/-- The kinds of quiet rules. -/
def isQuiet : Kind → Bool
  | authType | requireValidUser | expiresActive | expiresByType | guard .protectPath => true
  | _ => false

end Kind

namespace Directive

/-- Whether a directive is a quiet rule. -/
def isQuiet : Directive → Bool
  | rule _ r => r.kind.isQuiet
  | block _ _ _ => false

end Directive

open Directive (isQuiet)

variable {ds : List Directive}

/-- All of a quiet sequence applies to every request. -/
lemma Selection.select_of_quiet (h : ∀ d ∈ ds, d.isQuiet = true) (modules : Modules) (s : Session) :
    select modules s ds = .ok ds := by
  induction ds with
  | nil => rfl
  | cons d ds ih =>
    obtain ⟨hd, hds⟩ := List.forall_mem_cons.1 h
    cases d with
    | rule line r => exact select_cons_iff.2 ⟨[.rule line r], ds, rfl, ih hds, rfl⟩
    | block line head children => cases hd

/-- A quiet sequence leaves the address of a client out of account. -/
lemma Require.any_governs_of_quiet (h : ∀ d ∈ ds, d.isQuiet = true) : ds.any governs = false := by
  refine List.any_eq_false.2 fun d hd => ?_
  have hquiet := h d hd
  cases d with
  | rule line r =>
    simp only [isQuiet] at hquiet
    cases hk : r.kind <;> simp_all [governs, Kind.isRequireAccess, Kind.isQuiet]
  | block line head children => cases hquiet

/-- There are no legacy rules in a quiet sequence. -/
lemma Legacy.ofDirectives_of_quiet (h : ∀ d ∈ ds, d.isQuiet = true) :
    Rules.ofDirectives ds = .ok {} := by
  have hfold (rules : Rules) : ds.foldlM Rules.add rules = .ok rules := by
    induction ds with
    | nil => rfl
    | cons d ds ih =>
      obtain ⟨hd, hds⟩ := List.forall_mem_cons.1 h
      have hadd : rules.add d = .ok rules := by
        cases d with
        | rule line r =>
          simp only [isQuiet] at hd
          cases hk : r.kind <;> simp_all [Rules.add, Kind.isQuiet]
        | block line head children => rfl
      rw [List.foldlM_cons, hadd]
      exact ih hds
  exact hfold {}

/-- A quiet sequence names no file of users. -/
lemma Authentication.userFile_of_quiet (h : ∀ d ∈ ds, d.isQuiet = true) :
    (Setup.ofDirectives ds).userFile = none := by
  have hfold (a : Setup) : (ds.foldl Setup.add a).userFile = a.userFile := by
    induction ds generalizing a with
    | nil => rfl
    | cons d ds ih =>
      obtain ⟨hd, hds⟩ := List.forall_mem_cons.1 h
      rw [List.foldl_cons, ih hds]
      cases d with
      | rule line r =>
        simp only [isQuiet] at hd
        cases hk : r.kind <;> simp_all [Setup.add, Kind.isQuiet]
      | block line head children => rfl
  exact hfold {}

/-- A quiet sequence sets nothing of the protection but a path. -/
lemma GuardPolicy.ofDirectives_of_quiet (h : ∀ d ∈ ds, d.isQuiet = true) :
    ∃ path, ofDirectives ds = .ok { protectPath := path } := by
  have hfold (path : Option Text) :
      ∃ path', ds.foldlM add { protectPath := path } = .ok { protectPath := path' } := by
    induction ds generalizing path with
    | nil => exact ⟨path, rfl⟩
    | cons d ds ih =>
      obtain ⟨hd, hds⟩ := List.forall_mem_cons.1 h
      obtain ⟨path', hadd⟩ :
          ∃ path', add { protectPath := path } d = .ok { protectPath := path' } := by
        cases d with
        | rule line r =>
          simp only [isQuiet] at hd
          rw [add]
          cases hk : r.kind with
          | guard setting =>
            -- the path alone is set by a quiet rule
            rw [hk] at hd
            cases setting with
            | protectPath => exact ⟨r.value, rfl⟩
            | _ => cases hd
          | _ => exact ⟨path, rfl⟩
        | block line head children => exact ⟨path, rfl⟩
      obtain ⟨path'', hmore⟩ := ih hds path'
      refine ⟨path'', ?_⟩
      rw [List.foldlM_cons, hadd]
      exact hmore
  exact hfold none

/-- A quiet sequence that asks for a user ends with the failure of the server; any other lets every
client in. -/
lemma Access.decide_of_quiet (h : ∀ d ∈ ds, d.isQuiet = true) (files : Files) (s : Session) :
    let asks := (Authentication.Setup.ofDirectives ds).isBasic
    (decide files ds s).result =
        .ok (if asks then Authentication.Finding.noUserFile.decision
          else Legacy.Finding.noRules.decision) ∧
      (decide files ds s).session = if asks then s.withStatus 500 else s := by
  have hrequire : Require.find ds s.clientIp = .ok .notGoverned := by
    rw [Require.find, Require.any_governs_of_quiet h]
    rfl
  have hlegacy : Legacy.find ds s.clientIp = .ok .noRules := by
    rw [Legacy.find, Legacy.ofDirectives_of_quiet h]
    rfl
  have hfind : Authentication.find Password.verify files (Authentication.Setup.ofDirectives ds)
      s.authorization =
        .ok (if (Authentication.Setup.ofDirectives ds).isBasic then some .noUserFile else none) := by
    rw [Authentication.find, Authentication.userFile_of_quiet h]
    split <;> rfl
  -- nothing is asked of the address, and no answer has changed the session yet
  have haddress : (decideAddress ds s).result = .ok Legacy.Finding.noRules.decision ∧
      (decideAddress ds s).session = s := by
    simp [decideAddress, Require.evaluate, hrequire, Legacy.evaluate, hlegacy, Outcome.andThen,
      Require.Finding.decision, Require.Finding.apply, Require.Finding.isDenial,
      Legacy.Finding.apply, Legacy.Finding.isDenial]
  have hallowed : Legacy.Finding.noRules.decision.isDenied = false := rfl
  cases hasks : (Authentication.Setup.ofDirectives ds).isBasic <;>
    simp [decide, decideWith, Outcome.andThen, haddress, decideUser, hallowed,
      Authentication.evaluateWith, hfind, hasks, Authentication.Finding.apply]

/-- No lifetime is given where lifetimes are off. -/
lemma Expires.apply_of_inactive {ds : List Directive} (h : isActive ds = .ok false) (now : Rat)
    (s : Session) : (apply now ds s).result = .ok none := by
  rw [apply, find, h]
  rfl

namespace Evaluation

/-- A request for content of a type. -/
def request (type : Option Text) : Session :=
  { clientIp := some "10.0.0.1".toList, contentType := type }

/-- The evaluation of a quiet sequence comes to its decision, its policy and its lifetime. -/
lemma ofDirectives_of_quiet (world : Surroundings) (h : ∀ d ∈ ds, d.isQuiet = true)
    {type : Option Text} {o : Option Int}
    (ho : (Expires.apply world.now ds (request type)).result = .ok o) :
    ∃ e, ofDirectives world ds (request type) = .ok e ∧
      e.decision.verdict =
        (if (Authentication.Setup.ofDirectives ds).isBasic then .denied else .allowed) ∧
      GuardPolicy.ofDirectives ds = .ok e.policy ∧
      (e.decision.verdict = .allowed → e.lifetime = o) := by
  obtain ⟨path, hpolicy⟩ := GuardPolicy.ofDirectives_of_quiet h
  obtain ⟨hresult, hsession⟩ := Access.decide_of_quiet h world.files (request type)
  have hselect := Selection.select_of_quiet h world.modules (request type)
  cases hasks : (Authentication.Setup.ofDirectives ds).isBasic with
  | true =>
    rw [hasks] at hresult hsession
    exact ⟨⟨_, _, _, false, false, none⟩, ofDirectives_eq_ok_iff.2
      ⟨ds, hselect, hresult, hpolicy, rfl, rfl, rfl⟩, rfl, hpolicy, nofun⟩
  | false =>
    rw [hasks] at hresult hsession
    have hlifetime : lifetimeOf world.now Legacy.Finding.noRules.decision ds
        (Access.decide world.files ds (request type)).session =
          .ok (o, (Expires.apply world.now ds (request type)).session) := by
      rw [hsession, lifetimeOf, if_neg (by decide)]
      simp [ho, Except.map]
    exact ⟨⟨_, _, _, false, false, o⟩, ofDirectives_eq_ok_iff.2
      ⟨ds, hselect, hresult, hpolicy, rfl, rfl, hlifetime⟩, rfl, hpolicy, fun _ => rfl⟩

/-- An evaluation looks only at what applies. -/
lemma ofDirectives_of_select {world : Surroundings} {s : Session} {ds : List Directive}
    (as : List Directive)
    (h : Selection.select world.modules s ds = .ok as)
    (has : Selection.select world.modules s as = .ok as) :
    ofDirectives world ds s = ofDirectives world as s := by
  rw [ofDirectives, ofDirectives, h, has]

/-- Where nothing applies, every client is let in. -/
lemma ofDirectives_nil (world : Surroundings) :
    ∃ e, ofDirectives world [] (request none) = .ok e ∧ e.decision.verdict = .allowed := by
  have hquiet : ∀ d ∈ ([] : List Directive), d.isQuiet = true := List.forall_mem_nil _
  obtain ⟨e, he, hverdict, -⟩ := ofDirectives_of_quiet world hquiet
    (Expires.apply_of_inactive rfl world.now (request none))
  exact ⟨e, he, hverdict⟩

/-- Where all are denied, every client is turned away. -/
lemma ofDirectives_denied (world : Surroundings) (line : Int) :
    ∃ e, ofDirectives world [.rule line { kind := .requireAllDenied }] (request none) = .ok e ∧
      e.decision.verdict = .denied := by
  have hip : Ipv4.parse (request none).clientIp = .ok (.ok 167772161) := rfl
  have hfind : Require.find [.rule line { kind := .requireAllDenied }] (request none).clientIp =
      .ok .notGranted := by
    simp [Require.find, Require.governs, Kind.isRequireAccess, hip, Require.firstGrant,
      Require.judge, Require.judgeRule, bind, Except.bind, pure, Except.pure]
  have hdecide : (Access.decide world.files [.rule line { kind := .requireAllDenied }]
      (request none)).result = .ok Require.Finding.notGranted.decision := by
    simp [Access.decide, Access.decideWith, Access.decideAddress, Require.evaluate, hfind,
      Outcome.andThen, Require.Finding.decision, Require.Finding.isDenial, Decision.deny,
      Access.decideUser, Decision.isDenied]
  exact ⟨⟨_, _, {}, false, false, none⟩, ofDirectives_eq_ok_iff.2
    ⟨_, rfl, hdecide, rfl, rfl, rfl, rfl⟩, rfl⟩

end Evaluation

end HtGate
