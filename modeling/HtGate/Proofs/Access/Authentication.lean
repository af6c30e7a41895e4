import HtGate.Access.Check
import HtGate.Proofs.Text.Utf8
import Mathlib.Data.List.Induction
/-!
# Authentication

Where a sequence asks for a user who proves an identity, a request is let in exactly if neither the
Require nodes nor the legacy rules turn it away and its header names a user with a matching line in the
file of users. That holds for every test of hashes.
-/

namespace HtGate

namespace Directive

/-- The value of the last rule of a kind in a sequence. -/
def lastValue? (kind : Kind) (ds : List Directive) : Option Text :=
  (ds.filter fun d => d.ruleKind? == some kind).getLast?.bind value

/-- A rule of the kind at the end of a sequence gives the last value, anything else leaves it alone. -/
lemma lastValue?_concat (kind : Kind) (ds : List Directive) (d : Directive) :
    lastValue? kind (ds ++ [d]) =
      if d.ruleKind? = some kind then d.value else lastValue? kind ds := by
  rw [lastValue?, List.filter_append]
  by_cases h : d.ruleKind? = some kind
  · simp [h]
  · simp [h, lastValue?]

end Directive

namespace Authentication

open Directive (lastValue?)

namespace Setup

/-- A part of a setup that rules of one kind set to their value is the value of the last of them. -/
lemma ofDirectives_part (part : Setup → Option Text) {kind : Kind} (h0 : part {} = none)
    (hadd : ∀ setup d,
      part (add setup d) = if d.ruleKind? = some kind then d.value else part setup)
    (ds : List Directive) : part (ofDirectives ds) = lastValue? kind ds := by
  induction ds using List.reverseRecOn with
  | nil => exact h0
  | append_singleton ds d ih =>
    rw [Directive.lastValue?_concat, ← ih, ← hadd, ofDirectives, List.foldl_append]
    rfl

/-- The way to prove an identity is the value of the last AuthType. -/
lemma ofDirectives_type (ds : List Directive) :
    (ofDirectives ds).type = lastValue? .authType ds := by
  refine ofDirectives_part Setup.type rfl (fun setup d => ?_) ds
  cases d with
  | rule line r =>
    simp only [add, Directive.ruleKind?, Directive.value, Option.some.injEq]
    split <;> simp_all
  | block => rfl

/-- The file of users is the value of the last AuthUserFile. -/
lemma ofDirectives_userFile (ds : List Directive) :
    (ofDirectives ds).userFile = lastValue? .authUserFile ds := by
  refine ofDirectives_part Setup.userFile rfl (fun setup d => ?_) ds
  cases d with
  | rule line r =>
    simp only [add, Directive.ruleKind?, Directive.value, Option.some.injEq]
    split <;> simp_all
  | block => rfl

/-- A user is asked for if one of the rules asks for one. -/
lemma ofDirectives_validUser {ds : List Directive}
    (h : ∃ d ∈ ds, d.ruleKind? = some .requireValidUser) : (ofDirectives ds).validUser = true := by
  induction ds using List.reverseRecOn with
  | nil =>
    obtain ⟨d, hd, -⟩ := h
    cases hd
  | append_singleton ds d ih =>
    rw [ofDirectives, List.foldl_append]
    show (add (ofDirectives ds) d).validUser = true
    obtain ⟨e, he, hk⟩ := h
    -- no later rule takes the demand back
    rcases List.mem_append.1 he with he | he
    · have hds := ih ⟨e, he, hk⟩
      cases d with
      | rule line r =>
        simp only [add]
        split <;> simp [hds]
      | block => exact hds
    · obtain rfl : e = d := by simpa using he
      cases e with
      | rule line r =>
        simp only [Directive.ruleKind?, Option.some.injEq] at hk
        simp [add, hk]
      | block => cases hk

/-- A sequence with such rules asks for credentials. -/
lemma isBasic_ofDirectives {ds : List Directive} {t : Text} (ht : lastValue? .authType ds = some t)
    (hbasic : Text.lower t = "basic".toList)
    (huser : ∃ d ∈ ds, d.ruleKind? = some .requireValidUser) : (ofDirectives ds).isBasic = true := by
  rw [isBasic, ofDirectives_validUser huser, ofDirectives_type, ht, Option.any_some, hbasic]
  rfl

end Setup

/-- Whether a line is one of the user's with a hash that the password passes. -/
def HasLine (verify : Verifier) (c : Credentials) (line : Text) : Prop :=
  ∃ hash, Text.cut ':' line = (c.user, some hash) ∧ verify (Text.trim hash) c.password = true

/-- Whether credentials pass by a file: it can be read, is UTF-8 and has a line that accepts them. -/
def PassesBy (verify : Verifier) (files : Files) (c : Credentials) (file : Text) : Prop :=
  ∃ bytes t, files.read file = .ok bytes ∧ Utf8.decode bytes = some t ∧
    ∃ line ∈ Text.lines t, HasLine verify c line

/-- Whether a session proves the identity that its credentials claim: the header can be decoded to them,
and they pass by the file that the last AuthUserFile names. -/
def Proves (verify : Verifier) (files : Files) (ds : List Directive) (s : Session)
    (c : Credentials) : Prop :=
  Credentials.ofHeader s.authorization = .ok (some c) ∧
    ∃ file, lastValue? .authUserFile ds = some file ∧ file ≠ [] ∧ PassesBy verify files c file

/-- The test of a line finds what it is to find. -/
lemma lineAccepts_iff (verify : Verifier) (c : Credentials) (line : Text) :
    lineAccepts verify c line = true ↔ HasLine verify c line := by
  rw [lineAccepts, HasLine]
  split
  · rename_i user hash heq
    simp only [heq, Bool.and_eq_true, beq_iff_eq, Prod.mk.injEq, Option.some.injEq]
    constructor
    · rintro ⟨rfl, hv⟩
      exact ⟨hash, ⟨rfl, rfl⟩, hv⟩
    · rintro ⟨h, ⟨rfl, rfl⟩, hv⟩
      exact ⟨rfl, hv⟩
  · rename_i user heq
    simp [heq]

/-- A file lets credentials pass exactly if it is UTF-8 with a line that accepts them. -/
lemma lookUp_eq_authenticated_iff {verify : Verifier} {file : Text} {bytes : Bytes}
    {c : Credentials} {user found : Text} :
    lookUp verify file bytes c = .authenticated user found ↔
      (∃ t, Utf8.decode bytes = some t ∧ ∃ line ∈ Text.lines t, HasLine verify c line) ∧
        user = c.user ∧ found = file := by
  rw [lookUp]
  -- a file with a defect has no lines to look in
  cases hd : Utf8.defect? bytes with
  | some defect =>
    have hnone : ¬∃ t, Utf8.decode bytes = some t := by simp [← Utf8.defect?_eq_none_iff, hd]
    refine iff_of_false nofun ?_
    rintro ⟨⟨t, ht, -⟩, -⟩
    exact hnone ⟨t, ht⟩
  | none =>
    obtain ⟨t, ht⟩ := (Utf8.defect?_eq_none_iff bytes).1 hd
    have hany : (Text.lines t).any (lineAccepts verify c) = true ↔
        ∃ line ∈ Text.lines t, HasLine verify c line := by
      simp only [List.any_eq_true, lineAccepts_iff]
    simp only [ht, Option.getD_some, Option.some.injEq, exists_eq_left']
    split
    · rename_i hyes
      simp [hany.1 hyes, eq_comm]
    · rename_i hno
      simp [mt hany.2 hno]

/-- A user is looked up in the file that is named, if the header can be decoded to credentials. -/
lemma findUser_of_named {verify : Verifier} {files : Files} {header : Option Text} {name : Text}
    (h : name ≠ []) :
    findUser verify files (some name) header = match Credentials.ofHeader header with
      | .error fault => .error fault
      | .ok none => .ok .noCredentials
      | .ok (some c) =>
        match files.read name with
        | .ok bytes => .ok (lookUp verify name bytes c)
        | .error .nulInPath => .error .nulInPath
        | .error fault => .ok (.unreadable name fault.message) := by
  cases name with
  | nil => exact absurd rfl h
  | cons c name => rfl

/-- A user is found exactly if a file is named by which the credentials of the header pass. -/
lemma findUser_eq_authenticated_iff {verify : Verifier} {files : Files}
    {file header : Option Text} {user found : Text} :
    findUser verify files file header = .ok (.authenticated user found) ↔
      ∃ c, Credentials.ofHeader header = .ok (some c) ∧ user = c.user ∧
        file = some found ∧ found ≠ [] ∧ PassesBy verify files c found := by
  rw [findUser.eq_def]
  split
  · simp
  · refine iff_of_false nofun ?_
    rintro ⟨c, -, -, hf, hne, -⟩
    cases hf
    exact hne rfl
  · rename_i file hne
    have hne : file ≠ [] := fun h => hne h
    cases hc : Credentials.ofHeader header with
    | error fault => simp
    | ok found? =>
      cases found? with
      | none => simp
      | some c =>
        cases hr : files.read file with
        | error fault =>
          -- a user file that cannot be read proves no user
          refine iff_of_false (by cases fault <;> exact nofun) ?_
          rintro ⟨c', hc', -, hf, -, bytes, t, hread, -⟩
          cases hf
          rw [hr] at hread
          cases hread
        | ok bytes =>
          simp only [Except.ok.injEq, lookUp_eq_authenticated_iff]
          constructor
          · rintro ⟨⟨t, ht, hline⟩, rfl, rfl⟩
            exact ⟨c, rfl, rfl, rfl, hne, bytes, t, hr, ht, hline⟩
          · rintro ⟨c', hc', rfl, hf, -, bytes', t, hread, ht, hline⟩
            cases hc'
            cases hf
            rw [hr] at hread
            cases hread
            exact ⟨⟨t, ht, hline⟩, rfl, rfl⟩

/-- A finding lets a request in exactly if it has found a user. -/
lemma Finding.decision_allowed_iff (f : Finding) :
    f.decision.verdict = .allowed ↔ ∃ user file, f = .authenticated user file := by
  cases f <;> simp [Finding.decision, Finding.status?, Decision.allow, Decision.deny]

end Authentication

namespace Table

/-- A table has at a key what was put there last. -/
lemma get?_put (key value : Text) (t : Table) : (t.put key value).get? key = some value := by
  induction t with
  | nil => simp [put, get?]
  | cons e t ih =>
    obtain ⟨k, v⟩ := e
    rw [put]
    split
    · rename_i hk
      rw [get?, if_pos hk]
    · rename_i hk
      rw [get?, if_neg hk, ih]

end Table

namespace Access

open Authentication Directive

/-- The decision by the address leaves the session's credentials alone. -/
lemma decideAddress_authorization (ds : List Directive) (s : Session) :
    (decideAddress ds s).session.authorization = s.authorization := by
  have hrequire : (Require.evaluate source ds s).session.authorization = s.authorization := by
    rw [Require.evaluate]
    split
    · rfl
    · rename_i f _
      rw [Require.Finding.apply]
      split <;> rfl
  have hlegacy (s : Session) :
      (Legacy.evaluate source ds s).session.authorization = s.authorization := by
    rw [Legacy.evaluate]
    split
    · rfl
    · rename_i f _
      rw [Legacy.Finding.apply]
      split <;> rfl
  rw [decideAddress, Outcome.andThen]
  split
  · exact hrequire
  · split
    · exact (hlegacy _).trans hrequire
    · exact hrequire

/-- A decision is made by the address where that turns the client away, and by the user elsewhere. -/
lemma decideWith_result {verify : Verifier} {files : Files} {ds : List Directive} {s : Session}
    {d : Decision} (h : (decideWith verify files ds s).result = .ok d) :
    ∃ a, (decideAddress ds s).result = .ok a ∧
      let user := decideUser verify files ds a (decideAddress ds s).session
      user.result = .ok d ∧ (decideWith verify files ds s).session = user.session := by
  simp only [decideWith, Outcome.andThen] at h ⊢
  cases ha : (decideAddress ds s).result with
  | error fault => simp [ha] at h
  | ok a =>
    refine ⟨a, rfl, ?_⟩
    simp only [ha] at h ⊢
    cases hu : (decideUser verify files ds a (decideAddress ds s).session).result with
    | error fault => simp [hu] at h
    | ok b =>
      simp only [hu, Except.ok.injEq] at h ⊢
      exact ⟨h, trivial⟩

/-- A decision about a user who is asked for is what is found about the user. -/
lemma decideUser_result {verify : Verifier} {files : Files} {ds : List Directive} {s : Session}
    {a d : Decision} (hbasic : (Setup.ofDirectives ds).isBasic = true) (ha : a.isDenied = false)
    (h : (decideUser verify files ds a s).result = .ok d) :
    ∃ f, findUser verify files (lastValue? .authUserFile ds) s.authorization = .ok f ∧
      d = f.decision ∧
      (decideUser verify files ds a s).session = f.apply (Setup.ofDirectives ds).realm s := by
  rw [← Setup.ofDirectives_userFile]
  simp only [decideUser, ha, evaluateWith, find, hbasic, if_true, Outcome.andThen] at h ⊢
  cases hf : findUser verify files (Setup.ofDirectives ds).userFile s.authorization with
  | error fault => simp [hf, Except.map] at h
  | ok f =>
    simp only [hf, Except.map, Bool.false_eq_true, if_false, Option.getD_some,
      Except.ok.injEq] at h ⊢
    exact ⟨f, rfl, h.symm, rfl⟩

/-- Where the last AuthType is Basic and a valid user is required, a request is let in exactly if the
address does not turn it away and the session proves an identity. The user's name then stands in the
environment. -/
theorem decideWith_allowed_iff (verify : Verifier) (files : Files) {ds : List Directive}
    (s : Session) {t : Text} (ht : lastValue? .authType ds = some t)
    (hbasic : Text.lower t = "basic".toList)
    (huser : ∃ d ∈ ds, d.ruleKind? = some .requireValidUser) {d : Decision}
    (h : (decideWith verify files ds s).result = .ok d) :
    (d.verdict = .allowed ↔
      (∃ a, (decideAddress ds s).result = .ok a ∧ a.verdict ≠ .denied) ∧
        ∃ c, Proves verify files ds s c) ∧
      (d.verdict = .allowed → ∃ c, Proves verify files ds s c ∧
        (decideWith verify files ds s).session.env.get? Finding.userVariable = some c.user) := by
  obtain ⟨a, ha, hd, hs⟩ := decideWith_result h
  cases hdenied : a.isDenied with
  | true =>
    have hverdict : a.verdict = .denied := by simpa [Decision.isDenied] using hdenied
    obtain rfl : a = d := by simpa [decideUser, hdenied] using hd
    refine ⟨iff_of_false (by simp [hverdict]) ?_, fun hall => by simp [hverdict] at hall⟩
    rintro ⟨⟨b, hb, hne⟩, -⟩
    rw [ha] at hb
    cases hb
    exact hne hverdict
  | false =>
    have hverdict : a.verdict ≠ .denied := by simpa [Decision.isDenied] using hdenied
    obtain ⟨f, hf, rfl, hsession⟩ :=
      decideUser_result (Setup.isBasic_ofDirectives ht hbasic huser) hdenied hd
    rw [decideAddress_authorization] at hf
    rw [Finding.decision_allowed_iff]
    -- a user was found exactly if the session proves an identity
    have hfound : ∀ user file, f = .authenticated user file → ∃ c, Proves verify files ds s c ∧
        user = c.user := by
      rintro user file rfl
      obtain ⟨c, hc, hcu, hfile, hne, hpass⟩ := findUser_eq_authenticated_iff.1 hf
      exact ⟨c, ⟨hc, file, hfile, hne, hpass⟩, hcu⟩
    refine ⟨⟨?_, ?_⟩, ?_⟩
    · rintro ⟨user, file, hauth⟩
      obtain ⟨c, hc, -⟩ := hfound user file hauth
      exact ⟨⟨a, ha, hverdict⟩, c, hc⟩
    · rintro ⟨-, c, hc, file, hfile, hne, hpass⟩
      have hauth := findUser_eq_authenticated_iff.2 ⟨c, hc, rfl, hfile, hne, hpass⟩
      rw [hf] at hauth
      cases hauth
      exact ⟨c.user, file, rfl⟩
    · rintro ⟨user, file, rfl⟩
      obtain ⟨c, hc, rfl⟩ := hfound user file rfl
      refine ⟨c, hc, ?_⟩
      rw [hs, hsession]
      exact Table.get?_put _ _ _

/-- Rules that ask for a user of the file `users`. -/
def basicRules : List Directive :=
  [.rule 1 { kind := .authType, value := some "Basic".toList },
    .rule 2 { kind := .authUserFile, value := some "users".toList },
    .rule 3 { kind := .requireValidUser }]

/-- A file `users` in which the user `u` has the password `p`. -/
def basicFiles : Files :=
  { entries :=
    [(["users".toList],
      ⟨.file (Utf8.encode "u:\x7bSHA\x7dUWuXg/ylF+7L0dBk2i0WUxCxl1k=".toList), 0⟩)] }

/-- A session of the user `u` with the password `p`. -/
def basicSession : Session := { authorization := some (Credentials.header "u:p".toList) }

/-- The session of that user is let in and has the user's name in its environment. -/
theorem decide_basicSession_allowed :
    ∃ d c, (decideWith Password.verify basicFiles basicRules basicSession).result = .ok d ∧
      d.verdict = .allowed ∧ Proves Password.verify basicFiles basicRules basicSession c ∧
      (decideWith Password.verify basicFiles basicRules basicSession).session.env.get?
        Finding.userVariable = some c.user := by
  let d := Decision.allow "authenticated as u".toList
  have h : (decideWith Password.verify basicFiles basicRules basicSession).result.toOption =
      some d := by decide +kernel
  have h : (decideWith Password.verify basicFiles basicRules basicSession).result = .ok d := by
    generalize (decideWith Password.verify basicFiles basicRules basicSession).result = r at h ⊢
    cases r with
    | error fault => cases h
    | ok a => exact congrArg Except.ok (Option.some.inj h)
  have htype : Directive.lastValue? .authType basicRules = some "Basic".toList := rfl
  obtain ⟨-, henv⟩ := decideWith_allowed_iff Password.verify basicFiles basicSession htype
    (by decide)
    ⟨.rule 3 { kind := .requireValidUser }, by simp [basicRules], rfl⟩ h
  obtain ⟨c, hc, hname⟩ := henv rfl
  exact ⟨d, c, h, rfl, hc, hname⟩

end Access

end HtGate
