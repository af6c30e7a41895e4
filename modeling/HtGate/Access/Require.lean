import HtGate.Access.Decision
import HtGate.Address.Network
/-!
# Require

Access control by Require nodes. A node grants, denies or says nothing about a client; `RequireAny` grants
if one of its children does, `RequireAll` grants unless one of its children denies. A sequence lets a
client in if one of its nodes grants. A client without a readable address is kept out.
-/

namespace HtGate.Require

/-- Whether a directive puts the decision into the hands of the Require nodes. -/
def governs : Directive → Bool
  | .rule _ r => r.kind.isRequireAccess
  | .block _ head _ => head.kind.isRequire

/-- Whether a directive belongs to the legacy access control. -/
def isLegacy : Directive → Bool
  | .rule _ r => r.kind.isLegacyAccess
  | .block _ _ _ => false

/-- What a rule says about an address: `true` grants, `false` denies, `none` says nothing. -/
def judgeRule (ip : Int) (r : Rule) : Except Fault (Option Bool) :=
  match r.kind with
  | .requireAllGranted => .ok (some true)
  | .requireAllDenied => .ok (some false)
  | .requireIp => (HostList.contains r.value ip).map some
  | .requireNotIp => (HostList.contains r.value ip).map fun found => some !found
  | _ => .ok none

mutual

/-- What a node says about an address. -/
def judge (ip : Int) : Directive → Except Fault (Option Bool)
  | .rule _ r => judgeRule ip r
  | .block _ head children =>
    match head.kind with
    | .requireAny => (anySays true ip children).map some
    | .requireAll => (anySays false ip children).map fun denied => some !denied
    | _ => .ok none

/-- Whether one of the nodes grants, or denies, as `answer` says. The nodes after it are not judged. -/
def anySays (answer : Bool) (ip : Int) : List Directive → Except Fault Bool
  | [] => .ok false
  | d :: ds =>
    match judge ip d with
    | .error fault => .error fault
    | .ok verdict => if verdict == some answer then .ok true else anySays answer ip ds

end

/-- The first of the nodes that grants. -/
def firstGrant (ip : Int) : List Directive → Except Fault (Option Directive)
  | [] => .ok none
  | d :: ds =>
    match judge ip d with
    | .error fault => .error fault
    | .ok verdict => if verdict == some true then .ok (some d) else firstGrant ip ds

/-- What comes out about a client. -/
inductive Finding where
  /-- There are no Require nodes. -/
  | notGoverned
  /-- The client has no readable address. -/
  | unreadableAddress (ip : Option Text) (reason : AddressError)
  /-- The node of this kind on this line lets the client in. -/
  | granted (ip : Option Text) (kind : Text) (line : Int)
  /-- No node lets the client in. -/
  | notGranted
  deriving DecidableEq, Repr

/-- What the Require nodes of a sequence say about a client. -/
def find (ds : List Directive) (ip : Option Text) : Except Fault Finding := do
  if !ds.any governs then return .notGoverned
  match ← Ipv4.parse ip with
  | .error reason => return .unreadableAddress ip reason
  | .ok address =>
    match ← firstGrant address ds with
    | some d => return .granted ip d.kindName d.line
    | none => return .notGranted

/-- What comes out about a client whom a node lets in, or none. -/
def Finding.ofGrant (ip : Option Text) : Option Directive → Finding
  | some d => .granted ip d.kindName d.line
  | none => .notGranted

/-- What Require nodes say about an address that can be read is the first grant among them. -/
theorem find_of_readable {ds : List Directive} {ip : Option Text} {address : Nat}
    (hgoverns : ds.any governs = true) (hip : Ipv4.parse ip = .ok (.ok address)) :
    find ds ip = (firstGrant address ds).map (Finding.ofGrant ip) := by
  simp only [find, hgoverns, hip, bind, Except.bind, pure, Except.pure]
  cases firstGrant address ds with
  | error fault => rfl
  | ok found => cases found <;> rfl

/-- What is found depends on whether there are Require nodes and on the first grant among them. -/
theorem find_congr {α : Type} (g : Finding → α) {ds es : List Directive} {ip : Option Text}
    (hgoverns : ds.any governs = es.any governs)
    (hgrant : ∀ address : Nat, ((firstGrant address ds).map (Finding.ofGrant ip)).map g =
      ((firstGrant address es).map (Finding.ofGrant ip)).map g) :
    (find ds ip).map g = (find es ip).map g := by
  cases hes : es.any governs with
  | false => simp [find, hgoverns, hes]
  | true =>
    have hds := hgoverns.trans hes
    cases hip : Ipv4.parse ip with
    | error fault =>
      rw [find, find, hds, hes, hip]
      rfl
    | ok reading =>
      cases reading with
      | error reason =>
        rw [find, find, hds, hes, hip]
        rfl
      | ok address =>
        rw [find_of_readable hds hip, find_of_readable hes hip]
        exact hgrant address

/-- The warning about rules of the legacy access control that Require nodes keep from being looked at. -/
def warnings (source : Text) (ds : List Directive) : List Log.Record :=
  if ds.any governs && ds.any isLegacy then
    [⟨.warning, source,
      "[htaccess] Require and Order/Allow/Deny coexist; Require takes precedence".toList⟩]
  else []

namespace Finding

/-- Whether a finding turns the client away. -/
def isDenial : Finding → Bool
  | unreadableAddress _ _ | notGranted => true
  | notGoverned | granted _ _ _ => false

/-- The reason that goes with a finding. -/
def reason : Finding → Text
  | notGoverned => "no Require directives".toList
  | unreadableAddress ip why =>
    "unparseable client address ".toList ++ Text.quotedOrNone ip ++ ": ".toList ++ why.message
  | granted _ kind line =>
    "granted by ".toList ++ kind ++ " at line ".toList ++ Text.ofInt line
  | notGranted => "no Require directive granted access".toList

/-- The decision that follows from a finding. -/
def decision : Finding → Decision
  | notGoverned => { verdict := .notApplicable, reason := notGoverned.reason }
  | f => if f.isDenial then .deny 403 f.reason else .allow f.reason

/-- The session after a finding: a refusal sets the status. -/
def apply (f : Finding) (s : Session) : Session := if f.isDenial then s.withStatus 403 else s

/-- What a finding writes to the log. -/
def record? (source : Text) : Finding → Option Log.Record
  | notGoverned => none
  | granted ip kind line =>
    some ⟨.debug, source,
      "Granted ".toList ++ ip.getD "None".toList ++ " by ".toList ++ kind ++ " (line ".toList
        ++ Text.ofInt line ++ ")".toList⟩
  | f => some ⟨.debug, source, "Denied: ".toList ++ f.reason⟩

end Finding

/-- Decides about a session's client. -/
def evaluate (source : Text) (ds : List Directive) (s : Session) : Outcome Decision :=
  match find ds s.clientIp with
  | .error fault => ⟨.error fault, s, warnings source ds⟩
  | .ok f => ⟨.ok f.decision, f.apply s, warnings source ds ++ (f.record? source).toList⟩

end HtGate.Require
