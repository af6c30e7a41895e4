import HtGate.Directive.Json
import HtGate.Directive.Printer
import HtGate.Evaluation
import HtGate.Time.Date
/-!
# Reports as JSON

A report as a JSON object: the file it is about, a summary, the directives, the diagnostics, the
directives in written form, and, for a request, what was decided.
-/

namespace HtGate.Report

/-- The version of the form of a report. -/
def version : Text := "1.0".toList

/-- The indentation of the written form. -/
def indentation : Text := "    ".toList

/-- The directives in written form. -/
def canonical (r : Report) : Except Fault Text := Printer.print indentation r.parsed.directives

/-- How many of what a report is about. -/
structure Summary where
  directives : Nat
  topLevel : Nat
  warnings : Nat
  lines : Nat
  deriving DecidableEq, Repr

/-- The summary of a report. -/
def summary (r : Report) : Summary :=
  { directives := Directive.countAll r.parsed.directives
    topLevel := r.parsed.directives.length
    warnings := r.parsed.diagnostics.length
    lines := (Text.lines r.config.content).length }

/-- An object with members in this order. -/
def object (members : List (String × Json)) : Json :=
  .object (members.map fun (key, value) => (key.toList, value))

/-- A table as an object. -/
def tableJson (t : Table) : Json := .object (t.map fun (key, value) => (key, .text value))

/-- A diagnostic as an object. -/
def diagnosticJson (d : Diagnostic) : Json :=
  object [("level", .text Log.Level.warning.name), ("line", .int d.line),
    ("message", .text d.message)]

/-- A request with its response as an object. -/
def sessionJson (s : Session) : Json :=
  object [("client_ip", .ofText? s.clientIp), ("method", .ofText? s.method),
    ("uri", .ofText? s.uri), ("filename", .ofText? s.filename),
    ("content_type", .ofText? s.contentType), ("status", .int s.status),
    ("response_headers", tableJson s.responseHeaders)]

/-- A decision as an object. -/
def decisionJson (d : Decision) : Json :=
  object [("verdict", .text d.verdict.word), ("status", .ofInt? d.status),
    ("reason", .text d.reason)]

/-- A policy as an object, with what it says about a request. -/
def policyJson (e : Evaluation) : Json :=
  object [("enabled", .bool e.policy.enabled), ("allowed_attempts", .int e.policy.allowedAttempts),
    ("window_sec", .int e.policy.windowSeconds), ("action", .text e.policy.action),
    ("throttle_ms", .int e.policy.throttleMillis),
    ("use_x_forwarded_for", .bool e.policy.forwardedFor),
    ("whitelist", .ofText? e.policy.whitelist), ("protect_path", .ofText? e.policy.protectPath),
    ("protects_request", .bool e.isProtected), ("client_whitelisted", .bool e.isWhitelisted)]

/-- The members about a request. -/
def evaluationMembers : Option Evaluation → List (String × Json)
  | none => [("request", .null), ("decision", .null)]
  | some e =>
    [("request", sessionJson e.session), ("decision", decisionJson e.decision),
      ("brute_force", policyJson e)]
      ++ (e.lifetime.map fun n => ("expires_seconds", Json.int n)).toList

/-- A report that was made at a date as an object. -/
def toJson (made : Date) (r : Report) : Except Fault Json :=
  r.canonical.map fun canonical =>
    object
      ([("htgate_version", .text version), ("generated_at", .text made.isoText),
        ("file", object [("path", .text r.config.path), ("filename", .text r.config.name),
          ("hash_sha256", .text r.config.digest), ("size_bytes", .int r.config.size)]),
        ("summary", object [("directives", .int r.summary.directives),
          ("top_level", .int r.summary.topLevel), ("warnings", .int r.summary.warnings),
          ("lines", .int r.summary.lines)]),
        ("directives", .list (Directive.toJsonAll r.parsed.directives)),
        ("diagnostics", .list (r.parsed.diagnostics.map diagnosticJson)),
        ("canonical", .text canonical)]
        ++ evaluationMembers r.evaluation)

end HtGate.Report
