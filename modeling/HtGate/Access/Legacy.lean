import HtGate.Access.Decision
import HtGate.Address.Network
/-!
# Order, Allow and Deny

The legacy access control. Hosts are let in by Allow rules and kept out by Deny rules, and the last
Order says which of the two wins. A client without a readable address is let in.
-/

namespace HtGate.Legacy

/-- The rules of a sequence of directives. -/
structure Rules where
  /-- The last order. -/
  order : Option Text := none
  /-- The host lists of the Allow rules. -/
  allow : List (Option Text) := []
  /-- The host lists of the Deny rules. -/
  deny : List (Option Text) := []
  deriving DecidableEq, Repr

namespace Rules

/-- Takes up a directive. -/
def add (rules : Rules) : Directive → Except Fault Rules
  | .rule _ r =>
    match r.kind with
    | .order =>
      match r.detail with
      | .order order => .ok { rules with order := some order }
      | _ => .error .missingDetail
    | .allowFrom => .ok { rules with allow := rules.allow ++ [r.value] }
    | .denyFrom => .ok { rules with deny := rules.deny ++ [r.value] }
    | _ => .ok rules
  | .block _ _ _ => .ok rules

/-- The rules of a sequence. -/
def ofDirectives (ds : List Directive) : Except Fault Rules := ds.foldlM add {}

/-- Whether there is nothing to go by. -/
def isEmpty (rules : Rules) : Bool :=
  rules.order.isNone && rules.allow.isEmpty && rules.deny.isEmpty

/-- The order that holds, where an empty text is none. -/
def effectiveOrder (rules : Rules) : Text :=
  match rules.order with
  | none | some [] => AccessOrder.allowDeny
  | some order => order

end Rules

/-- Whether one of the host lists contains an address. -/
def anyContains (ip : Int) : List (Option Text) → Except Fault Bool
  | [] => .ok false
  | list :: more =>
    match HostList.contains list ip with
    | .error fault => .error fault
    | .ok true => .ok true
    | .ok false => anyContains ip more

/-- What comes out about a client. -/
inductive Finding where
  /-- There are no rules. -/
  | noRules
  /-- The client has no readable address. -/
  | unreadableAddress (ip : Option Text) (reason : AddressError)
  /-- Whether the Allow rules and the Deny rules name the client. -/
  | matched (ip : Option Text) (order : Text) (allowed denied : Bool)
  deriving DecidableEq, Repr

/-- What the rules of a sequence say about a client. -/
def find (ds : List Directive) (ip : Option Text) : Except Fault Finding := do
  let rules ← Rules.ofDirectives ds
  if rules.isEmpty then return .noRules
  match ← Ipv4.parse ip with
  | .error reason => return .unreadableAddress ip reason
  | .ok address =>
    let allowed ← anyContains address rules.allow
    let denied ← anyContains address rules.deny
    return .matched ip rules.effectiveOrder allowed denied

/-- Whether a client is kept out. -/
def isDenied (order : Text) (allowed denied : Bool) : Bool :=
  if order == AccessOrder.denyAllow then denied && !allowed else !(allowed && !denied)

/-- The word for a truth value. -/
def truthWord (b : Bool) : Text := (if b then "True" else "False").toList

namespace Finding

/-- The reason that goes with a finding. -/
def reason : Finding → Text
  | noRules => "no access rules".toList
  | unreadableAddress _ why => "unparseable client address: ".toList ++ why.message
  | matched _ order allowed denied =>
    "Order ".toList ++ order ++ ": allow_matched=".toList ++ truthWord allowed
      ++ ", deny_matched=".toList ++ truthWord denied

/-- Whether a finding turns the client away. -/
def isDenial : Finding → Bool
  | matched _ order allowed denied => Legacy.isDenied order allowed denied
  | _ => false

/-- The decision that follows from a finding. -/
def decision (f : Finding) : Decision :=
  if f.isDenial then .deny 403 f.reason else .allow f.reason

/-- The session after a finding: a refusal sets the status. -/
def apply (f : Finding) (s : Session) : Session := if f.isDenial then s.withStatus 403 else s

/-- What a finding writes to the log. -/
def record? (source : Text) : Finding → Option Log.Record
  | noRules => none
  | unreadableAddress ip _ =>
    some ⟨.debug, source,
      "Unparseable client address ".toList ++ Text.quotedOrNone ip ++ ", allowing".toList⟩
  | matched ip order allowed denied =>
    let f := matched ip order allowed denied
    some ⟨.debug, source,
      (if f.isDenial then "Denied " else "Allowed ").toList ++ ip.getD "None".toList ++ ": ".toList
        ++ f.reason⟩

end Finding

/-- Decides about a session's client. -/
def evaluate (source : Text) (ds : List Directive) (s : Session) : Outcome Decision :=
  match find ds s.clientIp with
  | .error fault => ⟨.error fault, s, []⟩
  | .ok f => ⟨.ok f.decision, f.apply s, (f.record? source).toList⟩

end HtGate.Legacy
