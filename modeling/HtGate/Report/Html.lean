import HtGate.Report.Json
/-!
# Reports as HTML

A report as a page. Whatever comes from the configuration or the request is escaped, so that all markup
on the page is the page's own.
-/

namespace HtGate.Report.Html

/-- A character as it may stand in markup. -/
def escapeChar (c : Char) : Text :=
  if c == '&' then "&amp;".toList
  else if c == '<' then "&lt;".toList
  else if c == '>' then "&gt;".toList
  else if c == '"' then "&#34;".toList
  else if c == '\'' then "&#39;".toList
  else [c]

/-- A text as it may stand in markup. -/
def escape (t : Text) : Text := t.flatMap escapeChar

/-- Lines, each with its end. -/
def block (lines : List String) : Text := lines.flatMap fun line => line.toList ++ ['\n']

/-- The looks of a page. -/
def style : Text :=
  block
    ["<style>",
      "  body \x7b font-family: 'Segoe UI', system-ui, sans-serif; background: #0a0e1a;"
        ++ " color: #e2e8f0; margin: 0; \x7d",
      "  .container \x7b max-width: 1100px; margin: 0 auto; padding: 2rem; \x7d",
      "  h1 \x7b margin-bottom: .25rem; \x7d",
      "  .meta \x7b color: #94a3b8; font-size: .9rem; \x7d",
      "  .card \x7b background: #111827; border: 1px solid #1f2937; border-radius: 12px;"
        ++ " padding: 1.25rem; margin: 1.25rem 0; \x7d",
      "  .verdict \x7b font-size: 1.6rem; font-weight: 700; \x7d",
      "  .ALLOWED \x7b color: #22c55e; \x7d .DENIED \x7b color: #ef4444; \x7d"
        ++ " .NOT_APPLICABLE \x7b color: #eab308; \x7d",
      "  table \x7b width: 100%; border-collapse: collapse; font-size: .9rem; \x7d",
      "  th, td \x7b text-align: left; padding: .4rem .6rem; border-bottom: 1px solid #1f2937; \x7d",
      "  pre \x7b background: #030712; padding: 1rem; border-radius: 8px; overflow-x: auto; \x7d",
      "</style>"]

/-- The top of a page, up to what was decided. -/
def header (made : Date) (c : Config) : Text :=
  block ["<!DOCTYPE html>", "<html lang=\"en\">", "<head>", "<meta charset=\"UTF-8\">"]
    ++ "<title>HtGate Report - ".toList ++ escape c.name ++ block ["</title>"]
    ++ style
    ++ block
      ["</head>", "<body>", "<div class=\"container\">", "  <h1>HtGate Report</h1>"]
    ++ "  <div class=\"meta\">".toList ++ escape c.path ++ " &middot; SHA-256 ".toList
    ++ escape (c.digest.take 16) ++ "&hellip; &middot; ".toList ++ escape made.isoText
    ++ block ["</div>", ""]

/-- A text that is shown by a word where there is none. -/
def shown (t : Option Text) : Text := escape (t.getD "None".toList)

/-- The status of a refusal, in brackets. -/
def statusText : Option Int → Text
  | none => []
  | some n => if n = 0 then [] else " (".toList ++ escape (Text.ofInt n) ++ ")".toList

/-- What was decided. -/
def decision : Option Evaluation → Text
  | none => []
  | some e =>
    "\n  <div class=\"card\">\n    <div class=\"verdict ".toList ++ escape e.decision.verdict.word
      ++ "\">".toList ++ escape e.decision.verdict.word ++ statusText e.decision.status
      ++ "</div>\n    <div class=\"meta\">".toList ++ shown e.session.method ++ ' '
      :: shown e.session.uri ++ " from ".toList ++ shown e.session.clientIp
      ++ "</div>\n    <p>".toList ++ escape e.decision.reason ++ "</p>\n  </div>\n  ".toList

/-- The name in the row of a directive: its own, or else the pattern of a block. -/
def rowName : Directive → Text
  | .rule _ r => r.name.getD []
  | .block _ head _ => (head.name.or head.pattern).getD []

/-- The value in the row of a directive: its own, or else the methods of a block. -/
def rowValue : Directive → Text
  | .rule _ r => r.value.getD []
  | .block _ head _ => (head.value.or head.methods).getD []

/-- The blanks before the type of a directive at a depth. -/
def nesting (depth : Nat) : Text := (List.replicate (2 * depth) "&nbsp;".toList).flatten

/-- The row of a directive at a depth. -/
def row (depth : Nat) (d : Directive) : Text :=
  "\n      <tr><td>".toList ++ escape (Text.ofInt d.line) ++ "</td><td>".toList ++ nesting depth
    ++ escape d.kindName ++ "</td><td>".toList ++ escape (rowName d) ++ "</td><td>".toList
    ++ escape (rowValue d) ++ "</td></tr>\n      ".toList

mutual

/-- The rows of a directive at a depth and of those inside it. -/
def rowsOf (depth : Nat) : Directive → Text
  | .rule line r => row depth (.rule line r)
  | .block line head children =>
    row depth (.block line head children) ++ rows (depth + 1) children

/-- The rows of directives at a depth. -/
def rows (depth : Nat) : List Directive → Text
  | [] => []
  | d :: ds => rowsOf depth d ++ rows depth ds

end

/-- The table of the directives. -/
def directives (r : Report) : Text :=
  "  <div class=\"card\">\n    <h2>Directives (".toList ++ escape (Text.ofNat r.summary.directives)
    ++ block [")</h2>", "    <table>",
      "      <tr><th>Line</th><th>Type</th><th>Name</th><th>Value</th></tr>"]
    ++ "      ".toList ++ rows 0 r.parsed.directives
    ++ block ["", "    </table>", "  </div>", ""]

/-- The item of a diagnostic. -/
def item (d : Diagnostic) : Text :=
  "<li>line ".toList ++ escape (Text.ofNat d.line) ++ ": ".toList ++ escape d.message
    ++ "</li>".toList

/-- The list of the diagnostics, if there are any. -/
def diagnostics : List Diagnostic → Text
  | [] => []
  | ds =>
    "\n  <div class=\"card\">\n    <h2>Warnings (".toList ++ escape (Text.ofNat ds.length)
      ++ ")</h2>\n    <ul>\n    ".toList ++ ds.flatMap item ++ "\n    </ul>\n  </div>\n  ".toList

/-- The written form of the directives, with the end of the page. -/
def footer (canonical : Text) : Text :=
  "  <div class=\"card\">\n    <h2>Canonical form</h2>\n    <pre>".toList ++ escape canonical
    ++ "</pre>\n  </div>\n</div>\n</body>\n</html>".toList

/-- The page of a report with the written form of its directives. -/
def page (made : Date) (r : Report) (canonical : Text) : Text :=
  header made r.config ++ "  ".toList ++ decision r.evaluation ++ block ["", ""] ++ directives r
    ++ "  ".toList ++ diagnostics r.parsed.diagnostics ++ block ["", ""] ++ footer canonical

end Html

/-- A report that was made at a date as a page. -/
def toHtml (made : Date) (r : Report) : Except Fault Text :=
  r.canonical.map (Html.page made r)

end HtGate.Report
