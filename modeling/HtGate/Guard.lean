import HtGate.Address.Network
import HtGate.Directive.Basic
/-!
# Protection against guessed passwords

The settings that hold for a request: later directives override earlier ones, and what no directive sets
has a default.
-/

namespace HtGate

/-- The settings of the protection. -/
structure GuardPolicy where
  enabled : Bool := false
  /-- How many attempts a client has within the window. -/
  allowedAttempts : Int := 10
  windowSeconds : Int := 300
  /-- What happens to a client with too many attempts. -/
  action : Text := "block".toList
  throttleMillis : Int := 1000
  /-- Whether the client is known by a header that a proxy sets. -/
  forwardedFor : Bool := false
  /-- The hosts that are never held back. -/
  whitelist : Option Text := none
  /-- The start of the paths that are protected. -/
  protectPath : Option Text := none
  deriving DecidableEq, Repr

namespace GuardPolicy

/-- The settings that a directive carries. -/
def carried (r : Rule) : Except Fault GuardValues :=
  match r.detail with
  | .guard values => .ok values
  | _ => .error .missingDetail

/-- Takes up a setting. -/
def set (policy : GuardPolicy) (setting : GuardSetting) (r : Rule) : Except Fault GuardPolicy :=
  match setting with
  | .protection => (carried r).map fun v => { policy with enabled := v.enabled }
  | .allowedAttempts =>
    (carried r).map fun v => { policy with allowedAttempts := v.allowedAttempts }
  | .window => (carried r).map fun v => { policy with windowSeconds := v.windowSeconds }
  | .action => (carried r).map fun v => { policy with action := v.action }
  | .throttleDuration =>
    (carried r).map fun v => { policy with throttleMillis := v.throttleMillis }
  | .forwardedFor => (carried r).map fun v => { policy with forwardedFor := v.enabled }
  | .whitelist => .ok { policy with whitelist := r.value }
  | .protectPath => .ok { policy with protectPath := r.value }

/-- Takes up a directive. -/
def add (policy : GuardPolicy) : Directive → Except Fault GuardPolicy
  | .rule _ r =>
    match r.kind with
    | .guard setting => policy.set setting r
    | _ => .ok policy
  | .block _ _ _ => .ok policy

/-- The settings of a sequence of directives. -/
def ofDirectives (ds : List Directive) : Except Fault GuardPolicy := ds.foldlM add {}

/-- Whether a client is on the list of hosts that are never held back. -/
def isWhitelisted (policy : GuardPolicy) (ip : Option Text) : Except Fault Bool :=
  match Ipv4.parse ip with
  | .error fault => .error fault
  | .ok (.error _) => .ok false
  | .ok (.ok address) => HostList.contains policy.whitelist address

/-- Whether a path is protected. -/
def protects (policy : GuardPolicy) (uri : Option Text) : Except Fault Bool :=
  if !policy.enabled then .ok false
  else
    match policy.protectPath, uri with
    | none, _ | some [], _ => .ok true
    | some start, some uri => .ok (start.isPrefixOf uri)
    | some _, none => .error .missingDetail

end GuardPolicy

end HtGate
