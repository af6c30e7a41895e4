import HtGate.Proofs.Access.Course
/-!
# What a decision changes

A request that is let in leaves the session as it was, but for the name of a user who has proved an
identity. A request that is turned away leaves it as it was, but for the status of the response and, where
a user is challenged for a realm, the header of the challenge. A request about which there is a fault
changes nothing. To ask again changes nothing either: what a request leaves behind makes no difference for
its own selection and course.
-/

namespace HtGate

namespace Table

/-- A table keeps what is at other keys. -/
lemma get?_put_of_ne {key other : Text} (h : other ≠ key) (value : Text) (t : Table) :
    (t.put key value).get? other = t.get? other := by
  induction t with
  | nil => simp [put, get?, Ne.symm h]
  | cons e t ih =>
    obtain ⟨k, v⟩ := e
    rw [put]
    split
    · rename_i hk
      have hother : (k == other) = false := by
        rw [beq_eq_false_iff_ne]
        exact fun heq => h (heq ▸ beq_iff_eq.1 hk)
      simp [get?, hother]
    · rw [get?, get?, ih]

/-- What is put is there. -/
lemma get?_put_self (key value : Text) (t : Table) : (t.put key value).get? key = some value := by
  induction t with
  | nil => simp [put, get?]
  | cons e t ih =>
    obtain ⟨k, v⟩ := e
    rw [put]
    split
    · rename_i hk
      rw [get?, if_pos hk]
    · rename_i hk
      rw [get?, if_neg hk, ih]

/-- Putting a value changes nothing exactly if it is there. -/
lemma put_eq_self_iff {key value : Text} {t : Table} : t.put key value = t ↔ t.get? key = some value := by
  induction t with
  | nil => simp [put, get?]
  | cons e t ih =>
    obtain ⟨k, v⟩ := e
    rw [put, get?]
    split
    · simp [eq_comm]
    · simp [ih]

/-- What is put twice is put once. -/
lemma put_put (key value : Text) (t : Table) : (t.put key value).put key value = t.put key value :=
  put_eq_self_iff.2 (get?_put_self key value t)

end Table

namespace Access

open Authentication Directive

variable {verify : Verifier} {files : Files} {as : List Directive} {s : Session}

/-- How a request that is let in leaves its session. -/
structure LetIn (verify : Verifier) (files : Files) (as : List Directive) (s t : Session) : Prop where
  /-- Nothing changes but the environment. -/
  rest : t = { s with env := t.env }
  /-- In the environment, nothing changes but the name of the user. -/
  others : ∀ name ≠ Finding.userVariable, t.env.get? name = s.env.get? name
  /-- The name is that of a user who was asked for and has proved an identity. -/
  user : t.env = s.env ∨ ∃ c, (Setup.ofDirectives as).isBasic = true ∧
    Proves verify files as s c ∧ t.env = s.env.put Finding.userVariable c.user

/-- How a request that is turned away with a status leaves its session. -/
structure TurnedAway (as : List Directive) (status : Int) (s t : Session) : Prop where
  /-- Nothing changes but the status and the headers of the response. -/
  rest : t = { s with status := t.status, responseHeaders := t.responseHeaders }
  /-- The status is that of the decision. -/
  status_eq : t.status = status
  /-- The status is that of a challenge, of a refusal or of a failure of the server. -/
  known : status = 401 ∨ status = 403 ∨ status = 500
  /-- Among the headers, nothing changes but the challenge. -/
  others : ∀ name ≠ Finding.challengeHeader,
    t.responseHeaders.get? name = s.responseHeaders.get? name
  /-- The challenge is for the realm that the last AuthName gives, if it is not empty. -/
  challenge : t.responseHeaders = s.responseHeaders ∨
    status = 401 ∧ ∃ realm, lastValue? .authName as = some realm ∧ realm ≠ [] ∧
      t.responseHeaders = s.responseHeaders.put Finding.challengeHeader
        ("Basic realm=\"".toList ++ realm ++ ['"'])

/-- Whether a session is left as a decision says. -/
def Leaves (verify : Verifier) (files : Files) (as : List Directive) (d : Decision) (s t : Session) :
    Prop :=
  (d.verdict = .allowed ∧ LetIn verify files as s t) ∨
    ∃ status, d.verdict = .denied ∧ d.status = some status ∧ TurnedAway as status s t

/-- A session that is left alone is left as a request that is let in leaves it. -/
lemma LetIn.refl (verify : Verifier) (files : Files) (as : List Directive) (s : Session) :
    LetIn verify files as s s :=
  ⟨rfl, fun _ _ => rfl, .inl rfl⟩

/-- A session with another status is left as a request that is turned away leaves it. -/
lemma turnedAway_withStatus {status : Int} (h : status = 401 ∨ status = 403 ∨ status = 500)
    (as : List Directive) (s : Session) : TurnedAway as status s (s.withStatus status) :=
  ⟨rfl, rfl, h, fun _ _ => rfl, .inl rfl⟩

/-- The realm is the value of the last AuthName. -/
lemma ofDirectives_realm (ds : List Directive) :
    (Setup.ofDirectives ds).realm = lastValue? .authName ds := by
  refine Setup.ofDirectives_part Setup.realm rfl (fun setup d => ?_) ds
  cases d with
  | rule line r =>
    simp only [Setup.add, Directive.ruleKind?, Directive.value, Option.some.injEq]
    split <;> simp_all
  | block => rfl

/-- A challenge leaves the session as a request that is turned away leaves it. -/
lemma turnedAway_challenge (as : List Directive) (s : Session) :
    TurnedAway as 401 s ((Finding.challenge (Setup.ofDirectives as).realm s).withStatus 401) := by
  have hrealm := ofDirectives_realm as
  cases hr : (Setup.ofDirectives as).realm with
  | none => exact turnedAway_withStatus (.inl rfl) as s
  | some realm =>
    cases realm with
    | nil => exact turnedAway_withStatus (.inl rfl) as s
    | cons first more =>
      rw [hr] at hrealm
      refine ⟨rfl, rfl, .inl rfl, ?_, .inr ⟨rfl, first :: more, hrealm.symm, nofun, rfl⟩⟩
      intro name hname
      exact Table.get?_put_of_ne hname _ _

/-- What is found about a user leaves the session as the decision about the user says. -/
lemma leaves_finding {f : Authentication.Finding}
    (h : Authentication.find verify files (Setup.ofDirectives as) s.authorization = .ok (some f)) :
    Leaves verify files as f.decision s (f.apply (Setup.ofDirectives as).realm s) := by
  cases f with
  | noUserFile => exact .inr ⟨500, rfl, rfl, turnedAway_withStatus (.inr (.inr rfl)) as s⟩
  | unreadable => exact .inr ⟨500, rfl, rfl, turnedAway_withStatus (.inr (.inr rfl)) as s⟩
  | noCredentials => exact .inr ⟨401, rfl, rfl, turnedAway_challenge as s⟩
  | rejected => exact .inr ⟨401, rfl, rfl, turnedAway_challenge as s⟩
  | authenticated user file =>
    obtain ⟨hbasic, c, hproves, rfl⟩ := find_authenticated_iff.1 ⟨file, h⟩
    refine .inl ⟨rfl, rfl, ?_, .inr ⟨c, hbasic, hproves, rfl⟩⟩
    intro name hname
    exact Table.get?_put_of_ne hname _ _

/-- A course leaves the session as its decision says. -/
lemma leaves_course {c : Course}
    (h : course verify files as s.clientIp s.authorization = .ok c) :
    Leaves verify files as c.decision s (c.apply (Setup.ofDirectives as).realm s) := by
  cases taken_of_course h with
  | @refused a ha hdenied =>
    rcases addressAnswer_cases ha with ⟨reason, rfl⟩ | ⟨reason, rfl⟩
    · cases hdenied
    · exact .inr ⟨403, rfl, rfl, turnedAway_withStatus (.inr (.inl rfl)) as s⟩
  | @passed a ha hallowed =>
    rcases addressAnswer_cases ha with ⟨reason, rfl⟩ | ⟨reason, rfl⟩
    · exact .inl ⟨rfl, .refl verify files as s⟩
    · cases hallowed
  | asked _ _ hfind => exact leaves_finding hfind

/-- Whether two sessions are the same as far as selections and courses look at them. -/
structure SameRequest (s t : Session) : Prop where
  clientIp : s.clientIp = t.clientIp
  method : s.method = t.method
  filename : s.filename = t.filename
  authorization : s.authorization = t.authorization

/-- A course leaves the request alone. -/
lemma Course.sameRequest_apply (c : Course) (realm : Option Text) (s : Session) :
    SameRequest s (c.apply realm s) := by
  have hchallenge : SameRequest s ((Finding.challenge realm s).withStatus 401) := by
    rw [Finding.challenge.eq_def]
    split <;> exact ⟨rfl, rfl, rfl, rfl⟩
  cases c with
  | refused | passed => exact ⟨rfl, rfl, rfl, rfl⟩
  | asked f =>
    cases f with
    | noCredentials | rejected => exact hchallenge
    | _ => exact ⟨rfl, rfl, rfl, rfl⟩

/-- A course that is taken again changes nothing more. -/
lemma Course.apply_apply (c : Course) (realm : Option Text) (s : Session) :
    c.apply realm (c.apply realm s) = c.apply realm s := by
  -- a second challenge puts the same header in the same place
  have hchallenge : (Finding.challenge realm ((Finding.challenge realm s).withStatus 401)).withStatus
      401 = (Finding.challenge realm s).withStatus 401 := by
    cases realm with
    | none => rfl
    | some realm =>
      cases realm with
      | nil => rfl
      | cons first more =>
        simp only [Finding.challenge, Session.withHeader, Session.withStatus, Table.put_put]
  cases c with
  | refused | passed => rfl
  | asked f =>
    cases f with
    | noCredentials | rejected => exact hchallenge
    | noUserFile | unreadable => rfl
    | authenticated user file =>
      simp only [Course.apply, Finding.apply, Session.withEnv, Table.put_put]

/-- Whatever the test of hashes is, access control changes a session as its decision says: a request that is
let in and one that is turned away leave it as they should, a request about which there is a fault leaves it
alone, and a request that is made again with the session that it has left gets the same decision and changes
nothing more. -/
theorem check_leaves (verify : Verifier) (files : Files) (modules : Modules) (ds : List Directive)
    (s : Session) :
    (∀ fault, (checkWith verify files modules ds s).result = .error fault →
      (checkWith verify files modules ds s).session = s) ∧
    ∀ d, (checkWith verify files modules ds s).result = .ok d →
      ∃ as, Selection.select modules s ds = .ok as ∧
        Leaves verify files as d s (checkWith verify files modules ds s).session ∧
        (checkWith verify files modules ds (checkWith verify files modules ds s).session).result =
          .ok d ∧
        (checkWith verify files modules ds (checkWith verify files modules ds s).session).session =
          (checkWith verify files modules ds s).session := by
  refine ⟨fun fault h => check_session_of_fault h, fun d h => ?_⟩
  obtain ⟨as, c, hs, hc, rfl, hsession⟩ := course_of_check h
  rw [hsession]
  have hsame := c.sameRequest_apply (Setup.ofDirectives as).realm s
  -- selection and course are those of the first time, for they do not look at what has changed
  have hagain : Selection.select modules (c.apply (Setup.ofDirectives as).realm s) ds = .ok as := by
    rw [← select_congr hsame.method hsame.filename, hs]
  rw [hsame.clientIp, hsame.authorization] at hc
  obtain ⟨hdecision, hleft⟩ := check_of_course hagain hc
  rw [← hsame.clientIp, ← hsame.authorization] at hc
  exact ⟨as, hs, leaves_course hc, hdecision, hleft.trans (c.apply_apply _ s)⟩

/-- Rules that ask for a user of the realm `r`. -/
def realmRules : List Directive :=
  [.rule 1 { kind := .authType, value := some "Basic".toList },
    .rule 2 { kind := .authName, value := some "r".toList },
    .rule 3 { kind := .authUserFile, value := some "users".toList },
    .rule 4 { kind := .requireValidUser }]

/-- A session with credentials that cannot be decoded. -/
def foreignSession : Session := { authorization := some "Basic é".toList }

/-- A request without credentials is challenged for the realm, and challenged again when it is made again;
one with credentials that cannot be decoded changes nothing. -/
theorem check_realmRules_leaves :
    (∃ d t as, (check {} none realmRules {}).result = .ok d ∧
      (check {} none realmRules {}).session = t ∧ d.status = some 401 ∧
      t.responseHeaders = [(Finding.challengeHeader, "Basic realm=\"r\"".toList)] ∧
      Selection.select none {} realmRules = .ok as ∧ Leaves Password.verify {} as d {} t ∧
      (check {} none realmRules t).result = .ok d ∧ (check {} none realmRules t).session = t) ∧
    (check {} none realmRules foreignSession).result = .error .credentialsNotAscii ∧
      (check {} none realmRules foreignSession).session = foreignSession := by
  constructor
  · have hd : (check {} none realmRules {}).result =
        .ok (.deny 401 "no valid Basic credentials".toList) := rfl
    obtain ⟨as, hs, hleaves, hagain, hleft⟩ :=
      (check_leaves Password.verify {} none realmRules {}).2 _ hd
    exact ⟨_, _, as, hd, rfl, rfl, rfl, hs, hleaves, hagain, hleft⟩
  · have hfault : (check {} none realmRules foreignSession).result =
        .error .credentialsNotAscii := rfl
    exact ⟨hfault, (check_leaves Password.verify {} none realmRules foreignSession).1 _ hfault⟩

end Access

end HtGate
