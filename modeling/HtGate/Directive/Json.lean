import HtGate.Directive.Basic
import HtGate.Json.Basic
/-!
# Directives as JSON

A directive is an object with its type, its line, its name, its value and its data; a block has its
directives beside them.
-/

namespace HtGate

namespace Detail

/-- The details as an object, or null where there are none. -/
def toJson : Detail → Json
  | .none => .null
  | .order which => .object [("order".toList, .text which)]
  | .redirect status pattern =>
    .object [("status_code".toList, .int status), ("pattern".toList, .ofText? pattern)]
  | .errorDocument code => .object [("error_code".toList, .int code)]
  | .expires active seconds =>
    .object [("active".toList, .bool active), ("duration_sec".toList, .int seconds)]
  | .envIf subject pattern =>
    .object [("attribute".toList, .text subject), ("pattern".toList, .text pattern)]
  | .guard v =>
    .object [("enabled".toList, .bool v.enabled), ("allowed_attempts".toList, .int v.allowedAttempts),
      ("window_sec".toList, .int v.windowSeconds), ("action".toList, .text v.action),
      ("throttle_ms".toList, .int v.throttleMillis)]
  | .options f =>
    .object [("indexes".toList, .int f.indexes), ("follow_symlinks".toList, .int f.followSymlinks),
      ("multiviews".toList, .int f.multiviews), ("exec_cgi".toList, .int f.execCgi)]

end Detail

namespace Directive

/-- The members that every directive has. -/
def members (d : Directive) (data : Json) : List (Text × Json) :=
  [("type".toList, .text d.kindName), ("line".toList, .int d.line), ("name".toList, .ofText? d.name),
    ("value".toList, .ofText? d.value), ("data".toList, data)]

mutual

/-- A directive as an object. -/
def toJson : Directive → Json
  | rule line r => .object (members (rule line r) r.detail.toJson)
  | block line head children =>
    .object (members (block line head children)
      (.object [("pattern".toList, .ofText? head.pattern), ("negated".toList, .bool head.negated),
        ("methods".toList, .ofText? head.methods)])
      ++ [("children".toList, .list (toJsonAll children))])

/-- Directives as objects. -/
def toJsonAll : List Directive → List Json
  | [] => []
  | d :: ds => toJson d :: toJsonAll ds

end

end Directive

end HtGate
