import HtGate.Report.File
import HtGate.Web.Parameters
import HtGate.Web.Route
import HtGate.Web.Target
/-!
# The interface over HTTP

What the routes answer: what there is, the kinds of directives, a configuration that was read, and the
evaluation of a request against one. A value that is not acceptable is answered by its fault; every other
fault is the server's own and stays unnamed.
-/

namespace HtGate.Web

/-- Where requests are answered. -/
structure Context where
  files : Files
  /-- The time of the requests. -/
  now : Rat
  /-- The date of the reports. -/
  made : Date

/-- A request. -/
structure Request where
  method : Text
  target : Text
  contentType : Text := []
  body : Bytes := []

/-- An answer. -/
structure Response where
  status : Nat
  body : Option Json := none

/-- What there is. -/
def indexJson : Json :=
  Report.object
    [("name", .text "HtGate".toList),
      ("endpoints", .list (["/api/directives", "/api/parse", "/api/evaluate"].map fun path =>
        .text path.toList))]

/-- Texts in the order of code points. -/
def sorted (ts : List Text) : List Text := ts.mergeSort Text.atMost

/-- The kinds of directives and the tags of blocks. -/
def directivesJson : Json :=
  let kinds := Kind.all.map Kind.name ++ BlockKind.all.map BlockKind.name
  Report.object
    [("directives", .list ((sorted kinds).map .text)),
      ("containers", .list ((sorted (BlockKind.all.map BlockKind.tag)).map .text))]

/-- The name of a configuration that is sent without one. -/
def defaultName : Text := ".htaccess".toList

/-- The configuration that a body brings, as a text and a path that should be texts. -/
def configurationOf (b : Body) : Except Fault (Json × Json) :=
  match b.upload with
  | some part =>
    match part.filename with
    | none | some [] => .error .noFileSelected
    | some filename =>
      match Utf8.decode part.data with
      | some content => .ok (.text content, .text filename)
      | none => .error .uploadNotUtf8
  | none => do
    let content ← b.payload.get? "content".toList
    if !content.any isTruthy then throw .noConfiguration
    let filename ← b.payload.get? "filename".toList
    return (content.getD .null, filename.getD (.text defaultName))

/-- The configuration of a text and a path. -/
def configOf : Json × Json → Except Fault Config
  | (.text content, .text path) => Config.ofText Config.defaultLimit content path none 0
  | (.text content, _) =>
    (Config.ofText Config.defaultLimit content [] none 0).bind fun _ => .error .missingText
  | _ => .error .missingDetail

/-- Reads a configuration. -/
def parseAnswer (c : Context) (b : Body) : Except Fault Json := do
  let config ← configOf (← configurationOf b)
  let r ← Report.make { files := c.files, now := c.now } config none
  r.toJson c.made

/-- The report with values of the request as they were sent. -/
def withEchoes (echoes : List (Text × Json)) : Json → Json
  | .object members =>
    .object (members.map fun (name, value) =>
      match value with
      | .object request =>
        if name == "request".toList then
          (name, .object (echoes.foldl (fun ms (key, v) => Json.setMember key v ms) request))
        else (name, value)
      | _ => (name, value))
  | j => j

/-- Evaluates a request against a configuration. -/
def evaluateAnswer (c : Context) (b : Body) : Except Fault Json := do
  let sent ← configurationOf b
  let p ← Parameters.ofPayload b.payload
  let config ← configOf sent
  let r ← p.report { files := c.files, modules := p.modules, now := c.now } config
  (r.toJson c.made).map (withEchoes p.echoes)

/-- The answer with an error. -/
def errorJson (message : Text) : Json := Report.object [("error", .text message)]

/-- The answer to a request that comes to a report or a fault. -/
def answer (r : Except Fault Json) : Response :=
  let r := r.bind fun j =>
    if Text.maxDigits < j.widestNumber then .error .numberTooLong else .ok j
  match r with
  | .ok j => { status := 200, body := some j }
  | .error fault =>
    if fault.category = .value then { status := 400, body := some (errorJson fault.message) }
    else { status := 500, body := some (errorJson "<internal>".toList) }

/-- The answer of a route. -/
def Route.respond (c : Context) (request : Request) : Route → Response
  | .index => { status := 200, body := some indexJson }
  | .directives => { status := 200, body := some directivesJson }
  | .parse => answer (parseAnswer c (Body.ofBytes request.contentType request.body))
  | .evaluate => answer (evaluateAnswer c (Body.ofBytes request.contentType request.body))
  | .file => { status := 404 }

/-- Answers a request. Methods are known in any case. To ask for the head of an answer alone, or for the
methods that a path takes, brings no body. -/
def respond (c : Context) (request : Request) : Response :=
  let method := Text.upper request.method
  match Destination.of method (Target.path request.target) with
  | .missing => { status := 404 }
  | .refused => { status := 405 }
  | .moved => { status := 308 }
  | .route route =>
    if method == "OPTIONS".toList then { status := 200 }
    else if method == "HEAD".toList then { route.respond c request with body := none }
    else route.respond c request

end HtGate.Web
