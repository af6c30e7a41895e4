import HtGate.Access.Authentication
import HtGate.Access.Legacy
import HtGate.Access.Require
import HtGate.Access.Selection
/-!
# Access control

The decision about a request. The Require nodes decide, or the legacy rules where there are no Require
nodes; a request that is let through may then have to come from a user who proves an identity.
-/

namespace HtGate.Access

/-- The name under which access control writes to the log. -/
def source : Text := "htgate.access".toList

/-- Decides by the client's address. -/
def decideAddress (ds : List Directive) (s : Session) : Outcome Decision :=
  (Require.evaluate source ds s).andThen fun d s =>
    if d.verdict == .notApplicable then Legacy.evaluate source ds s else ⟨.ok d, s, []⟩

/-- Decides by the user, about a request that the address does not turn away. -/
def decideUser (verify : Authentication.Verifier) (files : Files) (ds : List Directive)
    (d : Decision) (s : Session) : Outcome Decision :=
  if d.isDenied then ⟨.ok d, s, []⟩
  else
    (Authentication.evaluateWith verify source files ds s).andThen fun answer s =>
      ⟨.ok (answer.getD d), s, []⟩

/-- The record of a decision. -/
def summary (d : Decision) (s : Session) : Log.Record :=
  let shown (t : Option Text) : Text := t.getD "None".toList
  ⟨.info, source,
    shown s.method ++ ' ' :: shown s.uri ++ " from ".toList ++ shown s.clientIp ++ ": ".toList
      ++ d.verdict.word⟩

/-- Decides about a request by the directives that apply to it, with a test of hashes. -/
def decideWith (verify : Authentication.Verifier) (files : Files) (ds : List Directive)
    (s : Session) : Outcome Decision :=
  ((decideAddress ds s).andThen (decideUser verify files ds)).andThen fun d s =>
    ⟨.ok d, s, [summary d s]⟩

/-- Decides about a request by the directives that apply to it and the hashes of all schemes. -/
def decide : Files → List Directive → Session → Outcome Decision := decideWith Password.verify

/-- Selects the directives that apply to a request and decides by them, with a test of hashes. -/
def checkWith (verify : Authentication.Verifier) (files : Files) (modules : Modules)
    (ds : List Directive) (s : Session) : Outcome Decision :=
  (Selection.evaluate source modules ds s).andThen (decideWith verify files)

/-- Selects the directives that apply to a request and decides by them and the hashes of all schemes. -/
def check : Files → Modules → List Directive → Session → Outcome Decision :=
  checkWith Password.verify

end HtGate.Access
