import HtGate.Proofs.Access.Authentication
import HtGate.Proofs.Access.Credentials
/-!
# Challenges

A client that is asked for credentials and sends none is challenged, in whatever way its header fails to
name a user and a password. There is one exception: a token with a character beyond ASCII stops the
evaluation, and the session stays as it was.
-/

namespace HtGate.Authentication

open Credentials (ofHeader HasForeignToken)
open Directive (lastValue?)

/-- Whether an evaluation has turned the client away and challenged it. -/
def Challenges (o : Outcome (Option Decision)) : Prop :=
  (∃ d, o.result = .ok (some d) ∧ d.verdict = .denied ∧ d.status = some 401) ∧ o.session.status = 401

section Evaluation

variable {verify : Verifier} {source : Text} {files : Files} {ds : List Directive} {s : Session}
  {file : Text}

/-- Where credentials are asked for, the user is looked up in the file that the last AuthUserFile names. -/
lemma find_of_basic (hbasic : (Setup.ofDirectives ds).isBasic = true)
    (hfile : lastValue? .authUserFile ds = some file) (header : Option Text) :
    find verify files (Setup.ofDirectives ds) header =
      (findUser verify files (some file) header).map some := by
  rw [find, if_pos hbasic, Setup.ofDirectives_userFile, hfile]

/-- Where credentials are asked for, a header that holds none is answered by a challenge. -/
lemma challenges_of_none (hbasic : (Setup.ofDirectives ds).isBasic = true)
    (hfile : lastValue? .authUserFile ds = some file) (hne : file ≠ [])
    (hread : ofHeader s.authorization = .ok none) :
    Challenges (evaluateWith verify source files ds s) := by
  have hfind : find verify files (Setup.ofDirectives ds) s.authorization =
      .ok (some .noCredentials) := by
    rw [find_of_basic hbasic hfile, findUser_of_named hne, hread]
    rfl
  rw [evaluateWith, hfind]
  exact ⟨⟨_, rfl, rfl, rfl⟩, rfl⟩

/-- Where credentials are asked for, a header that cannot be read stops the evaluation. -/
lemma evaluateWith_of_error {fault : Fault} (hbasic : (Setup.ofDirectives ds).isBasic = true)
    (hfile : lastValue? .authUserFile ds = some file) (hne : file ≠ [])
    (hread : ofHeader s.authorization = .error fault) :
    evaluateWith verify source files ds s = ⟨.error fault, s, []⟩ := by
  have hfind : find verify files (Setup.ofDirectives ds) s.authorization = .error fault := by
    rw [find_of_basic hbasic hfile, findUser_of_named hne, hread]
    rfl
  rw [evaluateWith, hfind]

end Evaluation

/-- Where the last AuthType is Basic, a valid user is required and a file of users is named, a client whose
header yields no credentials is challenged, unless its token has a character beyond ASCII. Such a token
stops the evaluation and leaves the session as it was. -/
theorem evaluateWith_challenges_iff (verify : Verifier) (source : Text) (files : Files)
    {ds : List Directive} (s : Session) {t file : Text} (ht : lastValue? .authType ds = some t)
    (hbasic : Text.lower t = "basic".toList)
    (huser : ∃ d ∈ ds, d.ruleKind? = some .requireValidUser)
    (hfile : lastValue? .authUserFile ds = some file) (hne : file ≠ [])
    (hnone : ∀ c, ofHeader s.authorization ≠ .ok (some c)) :
    (Challenges (evaluateWith verify source files ds s) ↔ ¬HasForeignToken s.authorization) ∧
      (HasForeignToken s.authorization →
        evaluateWith verify source files ds s = ⟨.error .credentialsNotAscii, s, []⟩) := by
  have hasks := Setup.isBasic_ofDirectives ht hbasic huser
  cases hread : ofHeader s.authorization with
  | ok found =>
    obtain rfl : found = none := Option.eq_none_iff_forall_ne_some.2 fun c hc => hnone c (hc ▸ hread)
    have hplain := Credentials.not_hasForeignToken hread
    exact ⟨iff_of_true (challenges_of_none hasks hfile hne hread) hplain, fun h => absurd h hplain⟩
  | error fault =>
    obtain ⟨hforeign, rfl⟩ := Credentials.ofHeader_eq_error_iff.1 hread
    rw [evaluateWith_of_error hasks hfile hne hread]
    refine ⟨iff_of_false ?_ (not_not.2 hforeign), fun _ => rfl⟩
    rintro ⟨⟨d, hd, -⟩, -⟩
    cases hd

/-- These rules demand a valid user. -/
lemma basicRules_asks : ∃ d ∈ Access.basicRules, d.ruleKind? = some .requireValidUser :=
  ⟨.rule 3 { kind := .requireValidUser }, by simp [Access.basicRules], rfl⟩

/-- A session whose header names the user `u` and no password. -/
def userOnlySession : Session := { authorization := some (Credentials.header "u".toList) }

/-- A client that names a user without a password is challenged. -/
theorem evaluate_userOnlySession_challenges :
    (∀ c, ofHeader userOnlySession.authorization ≠ .ok (some c)) ∧
      Challenges (evaluate "source".toList Access.basicFiles Access.basicRules userOnlySession) := by
  have hread : ofHeader userOnlySession.authorization = .ok none := by
    have hpair : Credentials.ofPair? "u".toList = none := by decide
    exact (Credentials.ofHeader_header "u".toList).trans (congrArg Except.ok hpair)
  have hnone : ∀ c, ofHeader userOnlySession.authorization ≠ .ok (some c) := by
    intro c hc
    rw [hread] at hc
    cases hc
  have htype : lastValue? .authType Access.basicRules = some "Basic".toList := rfl
  have hfile : lastValue? .authUserFile Access.basicRules = some "users".toList := rfl
  have hchallenges := evaluateWith_challenges_iff Password.verify "source".toList Access.basicFiles
    userOnlySession htype (by decide) basicRules_asks hfile (by decide) hnone
  exact ⟨hnone, hchallenges.1.2 (Credentials.not_hasForeignToken hread)⟩

/-- A session whose header has a token with a character beyond ASCII. -/
def foreignTokenSession : Session := { authorization := some "Basic é".toList }

/-- The client that sends such a token sends no credentials and is not challenged. -/
theorem evaluate_foreignTokenSession_not_challenges :
    (∀ c, ofHeader foreignTokenSession.authorization ≠ .ok (some c)) ∧
      lastValue? .authType Access.basicRules = some "Basic".toList ∧
      Text.lower "Basic".toList = "basic".toList ∧
      (∃ d ∈ Access.basicRules, d.ruleKind? = some .requireValidUser) ∧
      lastValue? .authUserFile Access.basicRules = some "users".toList ∧
      ¬Challenges
        (evaluate "source".toList Access.basicFiles Access.basicRules foreignTokenSession) := by
  have hread : ofHeader foreignTokenSession.authorization = .error .credentialsNotAscii :=
    Credentials.ofHeader_eq_error_iff.2
      ⟨⟨"Basic ".toList, ['é'], rfl, rfl, by decide, 'é', by decide, by decide⟩, rfl⟩
  have hnone : ∀ c, ofHeader foreignTokenSession.authorization ≠ .ok (some c) := by
    intro c hc
    rw [hread] at hc
    cases hc
  have hfile : lastValue? .authUserFile Access.basicRules = some "users".toList := rfl
  refine ⟨hnone, rfl, by decide, basicRules_asks, hfile, ?_⟩
  rw [evaluate, evaluateWith_of_error (by decide) hfile (by decide) hread]
  rintro ⟨⟨d, hd, -⟩, -⟩
  cases hd

end HtGate.Authentication
