import HtGate.Evaluation
import HtGate.Web.Body
/-!
# Parameters of a request to be evaluated

A request describes the request that is to be evaluated by parameters, which should be texts. One that is
another JSON value does no harm until it is looked at where only a text will do.
-/

namespace HtGate.Web

/-- The parameters of a request to be evaluated. -/
structure Parameters where
  ip : Json
  modules : Modules
  method : Text
  uri : Option Json
  file : Option Json
  contentType : Option Json
  authorization : Option Json

namespace Parameters

/-- The modules that a value lists. -/
def modulesOf : Option Json → Except Fault Modules
  | some (.text list) => .ok (Modules.ofList list)
  | some value => if isTruthy value then .error .missingDetail else .ok none
  | none => .ok none

/-- The method that a value names. -/
def methodOf : Option Json → Except Fault Text
  | none => .ok "GET".toList
  | some (.text method) => .ok (Text.upper method)
  | some _ => .error .missingDetail

/-- The parameters in the fields of a request. -/
def ofPayload (p : Payload) : Except Fault Parameters := do
  let ip ← p.parameter? "ip"
  let ip := ip.getD .null
  if !isTruthy ip then throw .missingClientIp
  let modules ← modulesOf (← p.parameter? "modules")
  let method ← methodOf (← p.parameter? "method")
  let uri ← p.parameter? "uri"
  let file ← p.parameter? "file"
  let contentType ← p.parameter? "content_type"
  let authorization ← p.parameter? "authorization"
  return { ip, modules, method, uri, file, contentType, authorization }

/-- The text that a value is. -/
def text? : Option Json → Option Text
  | some (.text t) => some t
  | _ => none

/-- The session that the parameters describe. A parameter that is no text is left out. -/
def session (p : Parameters) : Session :=
  { clientIp := text? (some p.ip)
    method := some p.method
    uri := if p.uri.isNone then some ['/'] else text? p.uri
    filename := text? p.file
    contentType := text? p.contentType
    authorization := text? p.authorization }

/-- Whether a value is there and no text. -/
def isNoText : Option Json → Bool
  | none | some (.text _) => false
  | some _ => true

/-- Whether a value cannot be taken for an authorization. A short list or object is taken for none. -/
def isNoAuthorization : Option Json → Bool
  | some (.list elements) => 7 ≤ elements.length
  | some (.object members) => 7 ≤ members.length
  | some value => isNoText (some value) && isTruthy value
  | none => false

/-- Whether a value cannot be taken for a content type. What counts as nothing is taken for none. -/
def isNoContentType (value : Option Json) : Bool := isNoText value && value.any isTruthy

/-- Whether a parameter may do harm. -/
def isOdd (p : Parameters) : Bool :=
  isNoText (some p.ip) || isNoText p.file || isNoContentType p.contentType
    || isNoAuthorization p.authorization

mutual

/-- Whether the name of the file is looked at where a directive stands. A pattern that can be read asks
for it. -/
def checkName (modules : Modules) (s : Session) : Directive → Except Fault Unit
  | .rule _ _ => .ok ()
  | .block _ head children =>
    if head.kind.isRequire then .ok ()
    else if head.kind = .filesMatch then
      match Pattern.parse (head.pattern.getD []) with
      | .error .malformed => .ok ()
      | .error (.fault cause) => .error cause
      | .ok _ => .error .missingText
    else
      match Condition.applies modules s head with
      | .error fault => .error fault
      | .ok true => checkNames modules s children
      | .ok false => .ok ()

/-- Whether the name of the file is looked at where directives stand. -/
def checkNames (modules : Modules) (s : Session) : List Directive → Except Fault Unit
  | [] => .ok ()
  | d :: ds =>
    match checkName modules s d with
    | .error fault => .error fault
    | .ok () => checkNames modules s ds

end

/-- Whether a decision by the address looks at the address. -/
def asksAddress (ds : List Directive) : Bool := ds.any Require.governs || ds.any Require.isLegacy

/-- Whether a decision by the user looks at the credentials. -/
def asksCredentials (ds : List Directive) : Bool :=
  let setup := Authentication.Setup.ofDirectives ds
  setup.isBasic && setup.userFile.any fun file => !file.isEmpty

/-- Fails where a parameter that is no text is looked at, or where the evaluation fails before. -/
def check (world : Surroundings) (p : Parameters) (ds : List Directive) : Except Fault Unit := do
  let s := p.session
  if isNoText p.file then checkNames world.modules s ds
  let applicable ← Selection.select world.modules s ds
  if isNoText (some p.ip) && asksAddress applicable then throw .missingDetail
  let byAddress ← (Access.decideAddress applicable s).result
  if isNoAuthorization p.authorization && !byAddress.isDenied && asksCredentials applicable then
    throw .missingText
  let decision ← (Access.decide world.files applicable s).result
  let policy ← GuardPolicy.ofDirectives applicable
  let _ ← policy.protects s.uri
  if isNoText (some p.ip) then throw .missingDetail
  let _ ← policy.isWhitelisted s.clientIp
  let active ← Expires.isActive applicable
  if isNoContentType p.contentType && !decision.isDenied && active then throw .missingDetail

/-- The report on a configuration for the request that the parameters describe. -/
def report (world : Surroundings) (config : Config) (p : Parameters) : Except Fault Report := do
  if p.isOdd then
    match parse config.content with
    | .error failure => throw failure.fault
    | .ok parsed => p.check world parsed.directives
  Report.make world config (some p.session)

/-- The parameters that are no texts and stand in a report as they are, by their names there. -/
def echoes (p : Parameters) : List (Text × Json) :=
  ([("uri".toList, p.uri), ("filename".toList, p.file), ("content_type".toList, p.contentType)].filter
    fun (_, value) => isNoText value).map fun (name, value) => (name, value.getD .null)

end Parameters

end HtGate.Web
