import HtGate.Report.Json
/-!
# Summaries

A report as lines for a reader: the file, how it was read, the directives where they are asked for, and,
for a request, what was decided.
-/

namespace HtGate.Cli

/-- A line with its end. -/
def line (t : Text) : Text := t ++ ['\n']

/-- Texts one after the other as a line. -/
def lineOf (parts : List Text) : Text := line parts.flatten

/-- The double rule above and below a summary. -/
def doubleRule : Text := List.replicate 60 '='

/-- The rule above and below the directives. -/
def singleRule : Text := "  ".toList ++ List.replicate 40 '-'

namespace Summary

/-- The lines about the file. -/
def file (r : Report) : Text :=
  lineOf [['\n'], doubleRule] ++ line "  [*] HtGate -- .htaccess Access Evaluator".toList
    ++ lineOf [doubleRule, ['\n']]
    ++ lineOf ["  [FILE]  ".toList, r.config.path]
    ++ lineOf ["  [SIZE]  ".toList, Text.ofInt r.config.size, " bytes".toList]
    ++ lineOf ["  [HASH]  SHA-256: ".toList, r.config.digest.take 32, "...".toList]
    ++ lineOf ["  [PARSE] ".toList, Text.ofNat r.summary.directives, " directives, ".toList,
      Text.ofNat r.summary.warnings, " warnings".toList]
    ++ r.parsed.diagnostics.flatMap fun d =>
      lineOf ["          line ".toList, Text.ofNat d.line, ": ".toList, d.message]

/-- The lines of the directives in written form. -/
def tree (written : Text) : Text :=
  lineOf [['\n'], singleRule]
    ++ (Text.lines written).flatMap (fun l => lineOf ["  ".toList, l])
    ++ line singleRule

/-- The status of a refusal, in brackets. -/
def status (d : Decision) : Text :=
  match d.status with
  | none => []
  | some n => if n = 0 then [] else " (".toList ++ Text.ofInt n ++ ")".toList

/-- The line about how long the response may be kept. -/
def cache (e : Evaluation) : Text :=
  if e.lifetime.isNone then []
  else
    let header (name : Text) : Text := (e.session.responseHeaders.get? name).getD "None".toList
    lineOf ["  [CACHE] ".toList, header Expires.ageHeader, "; Expires: ".toList,
      header Expires.dateHeader]

/-- The line about the protection against guessed passwords. -/
def guard (e : Evaluation) : Text :=
  if !e.policy.enabled then []
  else
    lineOf ["  [BRUTE] ".toList, e.policy.action, " after ".toList,
      Text.ofInt e.policy.allowedAttempts, " attempts in ".toList,
      Text.ofInt e.policy.windowSeconds, "s (".toList,
      (if e.isProtected then "protected" else "not protected").toList,
      (if e.isWhitelisted then ", client whitelisted" else "").toList, ")".toList]

/-- The lines about a request. -/
def request (e : Evaluation) : Text :=
  let shown (t : Option Text) : Text := t.getD "None".toList
  let file := match e.session.filename with
    | none | some [] => []
    | some name => " (file: ".toList ++ name ++ ")".toList
  lineOf ["\n  [REQ]   ".toList, shown e.session.method, [' '], shown e.session.uri,
      " from ".toList, shown e.session.clientIp, file]
    ++ lineOf ["  [ACCESS] ".toList, e.decision.verdict.word, status e.decision]
    ++ lineOf ["          ".toList, e.decision.reason]
    ++ cache e ++ guard e

/-- The lines after the directives. -/
def rest (r : Report) : Text :=
  (r.evaluation.map request).getD [] ++ lineOf [['\n'], doubleRule, ['\n']]

end Summary

end HtGate.Cli
