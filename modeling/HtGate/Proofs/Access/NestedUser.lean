import HtGate.Proofs.Access.Course
/-!
# Demands for a user inside Require nodes

A sequence may demand a valid user at its top or inside a RequireAll. Only the demands at the top are
looked at when the user is asked for: a client who passes by the address then has to prove an identity.
Where all demands stand inside Require nodes, nobody is asked for, and the header by which the client might
prove an identity makes no difference.
-/

namespace HtGate.Access

open Authentication Directive

/-- Whether a valid user is demanded at the top of a sequence. -/
def AsksUser (ds : List Directive) : Prop := ∃ d ∈ ds, d.ruleKind? = some .requireValidUser

/-- Whether a valid user is demanded at the top of a sequence or inside a RequireAll that is reached
through RequireAll nodes only. -/
inductive DemandsUser : List Directive → Prop
  | top {ds : List Directive} : AsksUser ds → DemandsUser ds
  | inside {ds children : List Directive} {line : Int} {head : BlockHead} :
    Directive.block line head children ∈ ds → head.kind = .requireAll → DemandsUser children →
    DemandsUser ds

/-- A setup asks for a valid user exactly if one is demanded at the top. -/
lemma validUser_ofDirectives_iff {ds : List Directive} :
    (Setup.ofDirectives ds).validUser = true ↔ AsksUser ds := by
  refine ⟨fun h => ?_, Setup.ofDirectives_validUser⟩
  induction ds using List.reverseRecOn with
  | nil => cases h
  | append_singleton ds d ih =>
    rw [Setup.ofDirectives, List.foldl_append] at h
    by_cases hk : d.ruleKind? = some .requireValidUser
    · exact ⟨d, by simp, hk⟩
    · -- any other directive leaves the demand as it was
      have hadd : (Setup.add (Setup.ofDirectives ds) d).validUser =
          (Setup.ofDirectives ds).validUser := by
        cases d with
        | block => rfl
        | rule line r =>
          simp only [Directive.ruleKind?, Option.some.injEq] at hk
          simp only [Setup.add]
          split <;> first | rfl | contradiction
      obtain ⟨e, he, hek⟩ := ih (hadd.symm.trans h)
      exact ⟨e, List.mem_append_left _ he, hek⟩

section Basic

variable {verify : Verifier} {files : Files} {modules : Modules} {ds as : List Directive} {s : Session}
  {t : Text}

/-- Where the last AuthType is Basic, a user is asked for exactly if one is demanded at the top. -/
lemma isBasic_iff (ht : lastValue? .authType as = some t) (hbasic : Text.lower t = "basic".toList) :
    (Setup.ofDirectives as).isBasic = true ↔ AsksUser as := by
  rw [Setup.isBasic, Setup.ofDirectives_type, ht, Option.any_some, hbasic, Bool.and_eq_true,
    validUser_ofDirectives_iff]
  simp

/-- A course lets a request in exactly if the address does and, where a user is asked for, the session
proves an identity. -/
lemma course_allowed_iff {c : Course}
    (h : course verify files as s.clientIp s.authorization = .ok c) :
    c.decision.verdict = .allowed ↔
      (∃ a, addressAnswer as s.clientIp = .ok a ∧ a.verdict = .allowed) ∧
        ((Setup.ofDirectives as).isBasic = true → ∃ c, Proves verify files as s c) := by
  have hpass {a : Decision} (ha : addressAnswer as s.clientIp = .ok a) :
      a.verdict = .allowed ↔ a.isDenied = false := by
    rcases addressAnswer_cases ha with ⟨reason, rfl⟩ | ⟨reason, rfl⟩
    · exact iff_of_true rfl rfl
    · exact iff_of_false (by rintro ⟨⟩) (by rintro ⟨⟩)
  -- a client is turned away by address, let in unasked, or asked who it is
  cases taken_of_course h with
  | @refused a ha hdenied =>
    have hnot : ¬a.verdict = .allowed := fun hallowed => by
      rw [(hpass ha).1 hallowed] at hdenied
      cases hdenied
    refine iff_of_false hnot ?_
    rintro ⟨⟨b, hb, hallowed⟩, -⟩
    rw [ha] at hb
    cases hb
    exact hnot hallowed
  | @passed a ha hallowed hfind =>
    have hverdict := (hpass ha).2 hallowed
    refine iff_of_true hverdict ⟨⟨a, ha, hverdict⟩, fun hasked => ?_⟩
    rw [isBasic_of_find_none hfind] at hasked
    cases hasked
  | @asked a f ha hallowed hfind =>
    have hanswer : ∃ a, addressAnswer as s.clientIp = .ok a ∧ a.verdict = .allowed :=
      ⟨a, ha, (hpass ha).2 hallowed⟩
    rw [show (Course.asked f).decision = f.decision from rfl, Finding.decision_allowed_iff]
    constructor
    · rintro ⟨user, file, rfl⟩
      obtain ⟨-, c, hc, -⟩ := find_authenticated_iff.1 ⟨file, hfind⟩
      exact ⟨hanswer, fun _ => ⟨c, hc⟩⟩
    · rintro ⟨-, hproves⟩
      obtain ⟨hasked, -⟩ := find_eq_some_iff.1 hfind
      obtain ⟨c, hc⟩ := hproves hasked
      obtain ⟨file, hfound⟩ := find_authenticated_iff.2 ⟨hasked, c, hc, rfl⟩
      rw [hfind] at hfound
      cases hfound
      exact ⟨c.user, file, rfl⟩

/-- The header makes no difference where no user is asked for. -/
lemma course_header (h : (Setup.ofDirectives as).isBasic = false)
    (ip header header' : Option Text) :
    course verify files as ip header = course verify files as ip header' := by
  rw [course, course, Authentication.find, Authentication.find, h]
  rfl

/-- Where the last AuthType is Basic, a request is let in exactly if the address is and, where a valid user
is demanded at the top, the session proves an identity. Where none is demanded at the top, the decision is
the same for every header, whatever is demanded inside Require nodes. This does not depend on the test of
hashes. -/
theorem check_allowed_iff (hs : Selection.select modules s ds = .ok as)
    (ht : lastValue? .authType as = some t) (hbasic : Text.lower t = "basic".toList) {d : Decision}
    (h : (checkWith verify files modules ds s).result = .ok d) :
    (d.verdict = .allowed ↔
      (∃ a, addressAnswer as s.clientIp = .ok a ∧ a.verdict = .allowed) ∧
        (AsksUser as → ∃ c, Proves verify files as s c)) ∧
      (¬AsksUser as → ∀ header,
        (checkWith verify files modules ds { s with authorization := header }).result = .ok d) := by
  obtain ⟨as', c, hs', hc, rfl, -⟩ := course_of_check h
  obtain rfl := Except.ok.inj (hs.symm.trans hs')
  refine ⟨?_, fun hnone header => ?_⟩
  · rw [course_allowed_iff hc, isBasic_iff ht hbasic]
  · -- the header is not looked at by the selection, and not by the course where no user is asked for
    have hasked : (Setup.ofDirectives as).isBasic = false := by
      rw [← Bool.not_eq_true, isBasic_iff ht hbasic]
      exact hnone
    have hselect : Selection.select modules { s with authorization := header } ds = .ok as := by
      rw [← hs]
      exact select_congr (s := { s with authorization := header }) (t := s) rfl rfl modules ds
    rw [course_header hasked s.clientIp s.authorization header] at hc
    exact (check_of_course hselect hc).1

end Basic

/-- Rules that demand a valid user inside a RequireAll only. -/
def nestedRules : List Directive :=
  [.rule 1 { kind := .authType, value := some "Basic".toList },
    .rule 2 { kind := .authUserFile, value := some "users".toList },
    .block 3 { kind := .requireAll } [.rule 4 { kind := .requireValidUser }]]

/-- A session of nobody. -/
def nobodySession : Session := { clientIp := some "10.0.0.1".toList }

/-- The address of nobody is let in by these rules. -/
lemma addressAnswer_nestedRules :
    ∃ a, addressAnswer nestedRules nobodySession.clientIp = .ok a ∧ a.verdict = .allowed := by
  have hip : Ipv4.parse nobodySession.clientIp = .ok (.ok 167772161) := rfl
  have hgrant : Require.firstGrant (167772161 : Nat) nestedRules =
      .ok (some (.block 3 { kind := .requireAll } [.rule 4 { kind := .requireValidUser }])) := rfl
  exact ⟨_, addressAnswer_of_firstGrant rfl hip hgrant, rfl⟩

/-- A demand inside a RequireAll is passed over: a client without credentials is let in, and so is one with
any header. -/
theorem check_nestedRules_allowed :
    ∃ d, Selection.select none nobodySession nestedRules = .ok nestedRules ∧
      lastValue? .authType nestedRules = some "Basic".toList ∧
      (check basicFiles none nestedRules nobodySession).result = .ok d ∧ d.verdict = .allowed ∧
      ∀ header, (check basicFiles none nestedRules
        { nobodySession with authorization := header }).result = .ok d := by
  have hs : Selection.select none nobodySession nestedRules = .ok nestedRules := rfl
  have ht : lastValue? .authType nestedRules = some "Basic".toList := rfl
  obtain ⟨a, ha, hallowed⟩ := addressAnswer_nestedRules
  have hd := check_of_answer Password.verify basicFiles hs rfl ha
  have hnone : ¬AsksUser nestedRules := by
    rintro ⟨d, hmem, hk⟩
    simp only [nestedRules, List.mem_cons, List.not_mem_nil, or_false] at hmem
    rcases hmem with rfl | rfl | rfl <;> cases hk
  obtain ⟨hiff, hheader⟩ := check_allowed_iff hs ht (by decide) hd
  have hverdict := hiff.2 ⟨⟨a, ha, hallowed⟩, fun hasks => absurd hasks hnone⟩
  exact ⟨_, hs, ht, hd, hverdict, hheader hnone⟩

/-- A configuration that can be read demands a valid user inside a RequireAll, and lets a client in who
sends no credentials at all. -/
theorem check_nestedUser_not_proved :
    ∃ d, parse ("AuthType Basic\nAuthUserFile users\n".toList ++
        "<RequireAll>\nRequire valid-user\n</RequireAll>".toList) = .ok ⟨nestedRules, []⟩ ∧
      Selection.select none nobodySession nestedRules = .ok nestedRules ∧
      lastValue? .authType nestedRules = some "Basic".toList ∧ DemandsUser nestedRules ∧
      (check basicFiles none nestedRules nobodySession).result = .ok d ∧ d.verdict = .allowed ∧
      ¬∃ c, Proves Password.verify basicFiles nestedRules nobodySession c := by
  have hs : Selection.select none nobodySession nestedRules = .ok nestedRules := rfl
  obtain ⟨a, ha, hallowed⟩ := addressAnswer_nestedRules
  have hd := check_of_answer Password.verify basicFiles hs rfl ha
  have hinside : DemandsUser [.rule 4 { kind := .requireValidUser }] :=
    .top ⟨_, List.mem_singleton_self _, rfl⟩
  have hdemands : DemandsUser nestedRules :=
    .inside (List.mem_of_getElem? (i := 2) rfl) rfl hinside
  refine ⟨_, rfl, hs, rfl, hdemands, hd, hallowed, ?_⟩
  rintro ⟨c, hc, -⟩
  cases hc

end HtGate.Access
