import HtGate.Access.Check
import HtGate.Config
import HtGate.Expires
import HtGate.Guard
/-!
# Evaluating a configuration

What a configuration comes to: its directives and, for a request, everything that follows from those
that apply to it. Access is decided first; a request that is not turned away gets its lifetime.
-/

namespace HtGate

/-- What a request is evaluated against, beside the directives. -/
structure Surroundings where
  files : Files
  /-- The modules that count as loaded. -/
  modules : Modules := none
  /-- The time of the request. -/
  now : Rat := 0

/-- What follows for a request. -/
structure Evaluation where
  /-- The session with the response's status and headers. -/
  session : Session
  decision : Decision
  policy : GuardPolicy
  /-- Whether the request's path falls under the policy. -/
  isProtected : Bool
  /-- Whether the policy spares the client. -/
  isWhitelisted : Bool
  /-- The seconds for which the response may be kept. -/
  lifetime : Option Int
  deriving DecidableEq, Repr

namespace Evaluation

/-- The lifetime of a response, which a request that is turned away does not get. -/
def lifetimeOf (now : Rat) (d : Decision) (ds : List Directive) (s : Session) :
    Except Fault (Option Int × Session) :=
  if d.isDenied then .ok (none, s)
  else
    let o := Expires.apply now ds s
    o.result.map fun seconds => (seconds, o.session)

/-- Evaluates directives for a request. -/
def ofDirectives (world : Surroundings) (ds : List Directive) (s : Session) :
    Except Fault Evaluation := do
  let applicable ← Selection.select world.modules s ds
  let access := Access.decide world.files applicable s
  let decision ← access.result
  let policy ← GuardPolicy.ofDirectives applicable
  let isProtected ← policy.protects s.uri
  let isWhitelisted ← policy.isWhitelisted s.clientIp
  let (lifetime, session) ← lifetimeOf world.now decision applicable access.session
  return { session, decision, policy, isProtected, isWhitelisted, lifetime }

end Evaluation

/-- A configuration with its directives and, if there is a request, what follows for it. -/
structure Report where
  config : Config
  parsed : Parsed
  evaluation : Option Evaluation := none

namespace Report

/-- Reads a configuration and evaluates it, if there is a request. -/
def make (world : Surroundings) (config : Config) (request : Option Session) :
    Except Fault Report :=
  match parse config.content with
  | .error failure => .error failure.fault
  | .ok parsed =>
    match request with
    | none => .ok { config, parsed }
    | some s =>
      (Evaluation.ofDirectives world parsed.directives s).map fun e =>
        { config, parsed, evaluation := some e }

end Report

end HtGate
