import HtGate.Proofs.Access.Authentication
import HtGate.Proofs.Directive.Forest
/-!
# The course of a request

What access control comes to about a request depends on the address of the client and on the header by
which the client proves an identity, and on nothing else of the session. The course of a request says which
stage has the last word: the address turns the client away, or it lets the client in and no user is asked
for, or a user is asked for and found or not. The decision about a request is that of its course, and so is
the session that it leaves behind.
-/

namespace HtGate.Access

open Authentication (Setup Verifier)
open Directive (lastValue?)

/-- Which stage has the last word about a request. -/
inductive Course where
  /-- The address turns the client away. -/
  | refused (d : Decision)
  /-- The address lets the client in, and no user is asked for. -/
  | passed (d : Decision)
  /-- The address lets the client in, and this is found about the user who is asked for. -/
  | asked (f : Authentication.Finding)

namespace Course

/-- The decision at the end of a course. -/
def decision : Course → Decision
  | refused d | passed d => d
  | asked f => f.decision

/-- The session after a course. -/
def apply (realm : Option Text) : Course → Session → Session
  | refused _, s => s.withStatus 403
  | passed _, s => s
  | asked f, s => f.apply realm s

end Course

/-- What the Require nodes decide about an address, or the legacy rules where there are no such nodes. -/
def addressAnswer (ds : List Directive) (ip : Option Text) : Except Fault Decision :=
  match Require.find ds ip with
  | .error fault => .error fault
  | .ok .notGoverned => (Legacy.find ds ip).map (·.decision)
  | .ok f => .ok f.decision

/-- The course of a request from an address with a header. -/
def course (verify : Verifier) (files : Files) (ds : List Directive) (ip header : Option Text) :
    Except Fault Course :=
  match addressAnswer ds ip with
  | .error fault => .error fault
  | .ok a =>
    if a.isDenied then .ok (.refused a)
    else
      match Authentication.find verify files (Setup.ofDirectives ds) header with
      | .error fault => .error fault
      | .ok none => .ok (.passed a)
      | .ok (some f) => .ok (.asked f)

/-- How a request comes to its course. -/
inductive Taken (verify : Verifier) (files : Files) (ds : List Directive) (ip header : Option Text) :
    Course → Prop
  | refused {a : Decision} : addressAnswer ds ip = .ok a → a.isDenied = true →
    Taken verify files ds ip header (.refused a)
  | passed {a : Decision} : addressAnswer ds ip = .ok a → a.isDenied = false →
    Authentication.find verify files (Setup.ofDirectives ds) header = .ok none →
    Taken verify files ds ip header (.passed a)
  | asked {a : Decision} {f : Authentication.Finding} : addressAnswer ds ip = .ok a →
    a.isDenied = false →
    Authentication.find verify files (Setup.ofDirectives ds) header = .ok (some f) →
    Taken verify files ds ip header (.asked f)

/-- A request comes to its course in one of the three ways. -/
lemma taken_of_course {verify : Verifier} {files : Files} {ds : List Directive}
    {ip header : Option Text} {c : Course} (h : course verify files ds ip header = .ok c) :
    Taken verify files ds ip header c := by
  rw [course] at h
  split at h
  · cases h
  · rename_i a ha
    split at h
    · rename_i hdenied
      cases h
      exact .refused ha hdenied
    · rename_i hallowed
      rw [Bool.not_eq_true] at hallowed
      split at h
      · cases h
      · rename_i hfind
        cases h
        exact .passed ha hallowed hfind
      · rename_i f hfind
        cases h
        exact .asked ha hallowed hfind

/-- Something is found about a user only if one is asked for. -/
lemma find_eq_some_iff {verify : Verifier} {files : Files} {setup : Setup} {header : Option Text}
    {f : Authentication.Finding} :
    Authentication.find verify files setup header = .ok (some f) ↔
      setup.isBasic = true ∧
        Authentication.findUser verify files setup.userFile header = .ok f := by
  rw [Authentication.find]
  cases setup.isBasic with
  | false => simp
  | true =>
    cases Authentication.findUser verify files setup.userFile header <;> simp [Except.map]

/-- Nothing is found about a user only if none is asked for. -/
lemma isBasic_of_find_none {verify : Verifier} {files : Files} {setup : Setup}
    {header : Option Text} (h : Authentication.find verify files setup header = .ok none) :
    setup.isBasic = false := by
  rw [Authentication.find] at h
  split at h
  · cases hf : Authentication.findUser verify files setup.userFile header with
    | error fault =>
      rw [hf] at h
      cases h
    | ok f =>
      rw [hf] at h
      cases h
  · rename_i hnot
    simpa using hnot

/-- A user is found exactly if one is asked for and the session proves an identity. -/
lemma find_authenticated_iff {verify : Verifier} {files : Files} {ds : List Directive} {s : Session}
    {user : Text} :
    (∃ file, Authentication.find verify files (Setup.ofDirectives ds) s.authorization =
        .ok (some (.authenticated user file))) ↔
      (Setup.ofDirectives ds).isBasic = true ∧
        ∃ c, Authentication.Proves verify files ds s c ∧ user = c.user := by
  simp only [find_eq_some_iff, Authentication.findUser_eq_authenticated_iff,
    Setup.ofDirectives_userFile]
  constructor
  · rintro ⟨file, hbasic, c, hc, rfl, hfile, hne, hpass⟩
    exact ⟨hbasic, c, ⟨hc, file, hfile, hne, hpass⟩, rfl⟩
  · rintro ⟨hbasic, c, ⟨hc, file, hfile, hne, hpass⟩, rfl⟩
    exact ⟨file, hbasic, c, hc, rfl, hfile, hne, hpass⟩

/-- The answer of Require nodes about an address that can be read is the first grant among them. -/
lemma addressAnswer_of_firstGrant {ds : List Directive} {ip : Option Text} {address : Nat}
    {found : Option Directive} (hgoverns : ds.any Require.governs = true)
    (hip : Ipv4.parse ip = .ok (.ok address))
    (hgrant : Require.firstGrant address ds = .ok found) :
    addressAnswer ds ip = .ok (Require.Finding.ofGrant ip found).decision := by
  rw [addressAnswer, Require.find_of_readable hgoverns hip, hgrant]
  cases found <;> rfl

/-- An address lets the client in or turns it away. -/
lemma addressAnswer_cases {ds : List Directive} {ip : Option Text} {a : Decision}
    (h : addressAnswer ds ip = .ok a) :
    (∃ reason, a = .allow reason) ∨ ∃ reason, a = .deny 403 reason := by
  rw [addressAnswer] at h
  split at h
  · cases h
  · -- no `Require` governs the request, so that `Allow` and `Deny` answer
    cases hl : Legacy.find ds ip with
    | error fault =>
      rw [hl] at h
      cases h
    | ok f =>
      rw [hl] at h
      cases h
      simp only [Legacy.Finding.decision]
      split
      · exact .inr ⟨_, rfl⟩
      · exact .inl ⟨_, rfl⟩
  · rename_i f hne _
    cases h
    cases f with
    | notGoverned => exact absurd rfl hne
    | granted => exact .inl ⟨_, rfl⟩
    | unreadableAddress => exact .inr ⟨_, rfl⟩
    | notGranted => exact .inr ⟨_, rfl⟩

/-- The session after an answer about its address. -/
def answered (s : Session) : Except Fault Decision → Session
  | .ok a => if a.isDenied then s.withStatus 403 else s
  | .error _ => s

/-- The session after the course of its request. -/
def followed (realm : Option Text) (s : Session) : Except Fault Course → Session
  | .ok c => c.apply realm s
  | .error _ => s

section Stages

variable (verify : Verifier) (files : Files) (ds : List Directive) (s : Session)

/-- An address is decided about by its answer. It changes the status of the response if it turns the client
away, and nothing else. -/
lemma decideAddress_outcome :
    (decideAddress ds s).result = addressAnswer ds s.clientIp ∧
      (decideAddress ds s).session = answered s (addressAnswer ds s.clientIp) := by
  simp only [decideAddress, Outcome.andThen, Require.evaluate, addressAnswer]
  cases Require.find ds s.clientIp with
  | error fault => exact ⟨rfl, rfl⟩
  | ok f =>
    cases f with
    | notGoverned =>
      -- the legacy rules answer, and the session has not changed yet
      simp only [Require.Finding.decision, Legacy.evaluate, beq_self_eq_true, if_true,
        Require.Finding.apply, Require.Finding.isDenial, Bool.false_eq_true, if_false]
      cases Legacy.find ds s.clientIp with
      | error fault => exact ⟨rfl, rfl⟩
      | ok f =>
        refine ⟨rfl, ?_⟩
        simp only [Except.map, answered, Legacy.Finding.apply, Legacy.Finding.decision]
        cases f.isDenial <;> rfl
    | unreadableAddress | granted | notGranted => exact ⟨rfl, rfl⟩

/-- A request is decided about by its course, and leaves the session of its course. Whatever ends in a fault
comes before the first change. -/
lemma decideWith_outcome :
    (decideWith verify files ds s).result =
        (course verify files ds s.clientIp s.authorization).map (·.decision) ∧
      (decideWith verify files ds s).session =
        followed (Setup.ofDirectives ds).realm s
          (course verify files ds s.clientIp s.authorization) := by
  obtain ⟨hresult, hsession⟩ := decideAddress_outcome ds s
  simp only [decideWith, Outcome.andThen, hresult, hsession, course]
  cases addressAnswer ds s.clientIp with
  | error fault => exact ⟨rfl, rfl⟩
  | ok a =>
    cases hdenied : a.isDenied with
    | true =>
      -- a client who is turned away is not asked for a user
      simp [decideUser, hdenied, answered, followed, Except.map, Course.decision, Course.apply]
    | false =>
      simp only [decideUser, hdenied, answered, Outcome.andThen, Authentication.evaluateWith,
        Bool.false_eq_true, if_false]
      cases Authentication.find verify files (Setup.ofDirectives ds) s.authorization with
      | error fault => exact ⟨rfl, rfl⟩
      | ok found => cases found <;> exact ⟨rfl, rfl⟩

end Stages

/-- The same directives apply to sessions with the same method and file name. -/
lemma select_congr {s t : Session} (hmethod : s.method = t.method)
    (hfilename : s.filename = t.filename) (modules : Modules) (ds : List Directive) :
    Selection.select modules s ds = Selection.select modules t ds := by
  -- of a session only the conditions of blocks read anything, and only these two fields
  have happlies (head : BlockHead) :
      Condition.applies modules s head = Condition.applies modules t head := by
    rw [Condition.applies, Condition.applies, Condition.check, Condition.check, hmethod, hfilename]
  induction ds using Directive.forest_induction with
  | nil => rfl
  | rule line r ds ih =>
    rw [Selection.select, Selection.select, ih]
    rfl
  | block line head children ds ihc ih =>
    have hfirst : Selection.ofDirective modules s (.block line head children) =
        Selection.ofDirective modules t (.block line head children) := by
      rw [Selection.ofDirective, Selection.ofDirective, happlies, ihc]
    rw [Selection.select, Selection.select, hfirst, ih]

section Check

variable {verify : Verifier} {files : Files} {modules : Modules} {ds as : List Directive} {s : Session}

/-- A request is decided about by the directives that are selected for it. -/
lemma check_of_select (verify : Verifier) (files : Files)
    (h : Selection.select modules s ds = .ok as) :
    (checkWith verify files modules ds s).result = (decideWith verify files as s).result ∧
      (checkWith verify files modules ds s).session = (decideWith verify files as s).session := by
  simp [checkWith, Selection.evaluate, Outcome.andThen, h]

/-- Where the selection fails, there is no decision, and the session is left alone. -/
lemma check_of_select_error (verify : Verifier) (files : Files) {fault : Fault}
    (h : Selection.select modules s ds = .error fault) :
    (checkWith verify files modules ds s).result = .error fault ∧
      (checkWith verify files modules ds s).session = s := by
  simp [checkWith, Selection.evaluate, Outcome.andThen, h]

/-- With a selection, a request is decided about by its course, and leaves the session of its course. -/
lemma check_outcome (verify : Verifier) (files : Files) (h : Selection.select modules s ds = .ok as) :
    (checkWith verify files modules ds s).result =
        (course verify files as s.clientIp s.authorization).map (·.decision) ∧
      (checkWith verify files modules ds s).session =
        followed (Setup.ofDirectives as).realm s
          (course verify files as s.clientIp s.authorization) := by
  obtain ⟨hresult, hsession⟩ := check_of_select verify files h
  obtain ⟨hdecision, hleft⟩ := decideWith_outcome verify files as s
  exact ⟨hresult.trans hdecision, hsession.trans hleft⟩

/-- A request about which there is a fault leaves the session alone. -/
lemma check_session_of_fault {fault : Fault}
    (h : (checkWith verify files modules ds s).result = .error fault) :
    (checkWith verify files modules ds s).session = s := by
  cases hs : Selection.select modules s ds with
  | error fault' => exact (check_of_select_error verify files hs).2
  | ok as =>
    obtain ⟨hresult, hsession⟩ := check_outcome verify files hs
    rw [hsession]
    rw [hresult] at h
    cases hc : course verify files as s.clientIp s.authorization with
    | error fault' => rfl
    | ok c =>
      rw [hc] at h
      cases h

/-- A request that comes to a decision has a selection and a course. -/
lemma course_of_check {d : Decision} (h : (checkWith verify files modules ds s).result = .ok d) :
    ∃ as c, Selection.select modules s ds = .ok as ∧
      course verify files as s.clientIp s.authorization = .ok c ∧ d = c.decision ∧
      (checkWith verify files modules ds s).session = c.apply (Setup.ofDirectives as).realm s := by
  cases hs : Selection.select modules s ds with
  | error fault =>
    rw [(check_of_select_error verify files hs).1] at h
    cases h
  | ok as =>
    obtain ⟨hresult, hsession⟩ := check_outcome verify files hs
    rw [hsession]
    rw [hresult] at h
    cases hc : course verify files as s.clientIp s.authorization with
    | error fault =>
      rw [hc] at h
      cases h
    | ok c =>
      rw [hc] at h
      cases h
      exact ⟨as, c, rfl, hc, rfl, rfl⟩

/-- A request with a selection and a course gets the decision of the course and leaves its session. -/
lemma check_of_course {c : Course} (hs : Selection.select modules s ds = .ok as)
    (hc : course verify files as s.clientIp s.authorization = .ok c) :
    (checkWith verify files modules ds s).result = .ok c.decision ∧
      (checkWith verify files modules ds s).session = c.apply (Setup.ofDirectives as).realm s := by
  obtain ⟨hresult, hsession⟩ := check_outcome verify files hs
  rw [hc] at hresult hsession
  exact ⟨hresult, hsession⟩

/-- Where no user is asked for, the answer about the address is the decision. -/
lemma check_of_answer (verify : Verifier) (files : Files) {a : Decision}
    (hs : Selection.select modules s ds = .ok as) (hasked : (Setup.ofDirectives as).isBasic = false)
    (ha : addressAnswer as s.clientIp = .ok a) :
    (checkWith verify files modules ds s).result = .ok a := by
  cases hdenied : a.isDenied with
  | true =>
    have hc : course verify files as s.clientIp s.authorization = .ok (.refused a) := by
      simp [course, ha, hdenied]
    exact (check_of_course hs hc).1
  | false =>
    have hc : course verify files as s.clientIp s.authorization = .ok (.passed a) := by
      simp [course, ha, hdenied, Authentication.find, hasked]
    exact (check_of_course hs hc).1

end Check

end HtGate.Access
