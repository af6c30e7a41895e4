import HtGate.Fault
import HtGate.Log
import HtGate.Session
/-!
# Decisions

The answer to a request: whether it may proceed, with which status it is turned away, and why. What an
evaluation comes to is a value together with what it wrote to the log and the session as it leaves it;
a fault takes the place of the value alone.
-/

namespace HtGate

/-- What is decided about a request. -/
inductive Verdict where
  | allowed
  | denied
  | notApplicable
  deriving DecidableEq, Repr

namespace Verdict

/-- The word for a verdict. -/
def word : Verdict → Text
  | allowed => "ALLOWED".toList
  | denied => "DENIED".toList
  | notApplicable => "NOT_APPLICABLE".toList

end Verdict

/-- A verdict with the status of a refusal and a reason. -/
structure Decision where
  verdict : Verdict
  status : Option Int := none
  reason : Text
  deriving DecidableEq, Repr

namespace Decision

/-- Lets a request through. -/
def allow (reason : Text) : Decision := { verdict := .allowed, reason }

/-- Turns a request away. -/
def deny (status : Int) (reason : Text) : Decision :=
  { verdict := .denied, status := some status, reason }

/-- Whether the request may proceed. -/
def isAllowed (d : Decision) : Bool := d.verdict == .allowed

/-- Whether the request is turned away. -/
def isDenied (d : Decision) : Bool := d.verdict == .denied

end Decision

/-- What an evaluation comes to. -/
structure Outcome (α : Type) where
  /-- The value, or the fault in its place. -/
  result : Except Fault α
  /-- The session as the evaluation leaves it. -/
  session : Session
  /-- What was written to the log, the earliest first. -/
  records : List Log.Record

namespace Outcome

/-- Goes on with the value and the session, unless there is a fault. -/
def andThen {α β : Type} (o : Outcome α) (next : α → Session → Outcome β) : Outcome β :=
  match o.result with
  | .error fault => ⟨.error fault, o.session, o.records⟩
  | .ok a =>
    let following := next a o.session
    ⟨following.result, following.session, o.records ++ following.records⟩

end Outcome

end HtGate
