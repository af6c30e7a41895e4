import HtGate.Directive.Basic
import HtGate.Directive.LineReader
import HtGate.Text.Whitespace
/-!
# Writing a configuration

Every directive has one written form. Names and values are put between quotes where reading them back
would change them otherwise. A directive that lacks what its form calls for has none.
-/

namespace HtGate.Printer

/-- A text between double quotes, with nothing escaped. -/
def enclose (t : Text) : Text := '"' :: t ++ ['"']

/-- An argument of one word, between quotes where it is empty or holds whitespace. -/
def word (t : Text) : Text := if t.isEmpty || t.any Text.isWhitespace then enclose t else t

/-- A value up to the end of the line, between quotes where it is empty, has whitespace at an end or
stands between quotes itself. -/
def rest (t : Text) : Text :=
  if t.isEmpty || t != Text.trim t || (2 ≤ t.length && t.head? == some '"' && t.getLast? == some '"')
  then enclose t else t

/-- The argument of a tag, which cannot hold quotes between quotes. -/
def tagArgument (t : Text) : Text := if t.contains '"' then t else word t

/-- What is shown for an absent text. -/
def absent : Text := "None".toList

/-- The first form of a text that may be absent, and the second where it is. -/
def optional (form : Text → Text) : Option Text → Text
  | some t => form t
  | none => enclose absent

/-- The text, which has to be there. -/
def needed : Option Text → Except Fault Text
  | some t => .ok t
  | none => .error .missingText

/-- The word that switches on or off. -/
def onOff (on : Bool) : Text := (if on then "On" else "Off").toList

/-- The words in front of the name and the value, for the kinds that are written so. -/
def leading? : Kind → Option Text
  | .header always action =>
    some ((if always then "Header always " else "Header ").toList ++ action.word)
  | .requestHeaderSet => some "RequestHeader set".toList
  | .requestHeaderUnset => some "RequestHeader unset".toList
  | .phpValue admin => some (if admin then "php_admin_value" else "php_value").toList
  | .phpFlag admin => some (if admin then "php_admin_flag" else "php_flag").toList
  | .setEnv => some "SetEnv".toList
  | .allowFrom => some "Allow from".toList
  | .denyFrom => some "Deny from".toList
  | .requireIp => some "Require ip".toList
  | .requireNotIp => some "Require not ip".toList
  | .options => some "Options".toList
  | .authType => some "AuthType".toList
  | .authUserFile => some "AuthUserFile".toList
  | .addHandler => some "AddHandler".toList
  | .setHandler => some "SetHandler".toList
  | .addType => some "AddType".toList
  | .directoryIndex => some "DirectoryIndex".toList
  | .forceType => some "ForceType".toList
  | .addEncoding => some "AddEncoding".toList
  | .addCharset => some "AddCharset".toList
  | .guard .whitelist => some "BruteForceWhitelist".toList
  | .guard .protectPath => some "BruteForceProtectPath".toList
  | _ => none

/-- The leading words, the name and the value, as far as they are there. -/
def simple (leading : Text) (r : Rule) : Text :=
  leading ++ (r.name.elim [] fun t => ' ' :: word t) ++ (r.value.elim [] fun t => ' ' :: rest t)

/-- A keyword, a status other than the usual one, a target and the place it is sent to. -/
def redirect (keyword : Text) (status : Int) (target value : Option Text) : Text :=
  keyword ++ (if status == 302 then [] else ' ' :: Text.ofInt status)
    ++ ' ' :: optional word target ++ ' ' :: optional rest value

/-- The written form of a kind whose details decide it. -/
def detailed (r : Rule) : Except Fault Text :=
  let name := r.name.getD absent
  let value := r.value.getD absent
  match r.kind, r.detail with
  | .order, .order order =>
    .ok (if order == AccessOrder.denyAllow then "Order Deny,Allow" else "Order Allow,Deny").toList
  | .redirect, .redirect status _ => .ok (redirect "Redirect".toList status r.name r.value)
  | .redirectMatch, .redirect status pattern =>
    .ok (redirect "RedirectMatch".toList status pattern r.value)
  | .errorDocument, .errorDocument code =>
    .ok ("ErrorDocument ".toList ++ Text.ofInt code ++ ' ' :: value)
  | .expiresActive, .expires active _ => .ok ("ExpiresActive ".toList ++ onOff active)
  | .setEnvIf, .envIf subject pattern =>
    .ok ("SetEnvIf ".toList ++ word subject ++ ' ' :: word pattern ++ ' ' :: name ++ '=' :: value)
  | .browserMatch, .envIf _ pattern =>
    .ok ("BrowserMatch ".toList ++ word pattern ++ ' ' :: name ++ '=' :: value)
  | .guard .protection, .guard values =>
    .ok ("BruteForceProtection ".toList ++ onOff values.enabled)
  | .guard .forwardedFor, .guard values =>
    .ok ("BruteForceXForwardedFor ".toList ++ onOff values.enabled)
  | .guard .allowedAttempts, .guard values =>
    .ok ("BruteForceAllowedAttempts ".toList ++ Text.ofInt values.allowedAttempts)
  | .guard .window, .guard values =>
    .ok ("BruteForceWindow ".toList ++ Text.ofInt values.windowSeconds)
  | .guard .action, .guard values => .ok ("BruteForceAction ".toList ++ values.action)
  | .guard .throttleDuration, .guard values =>
    .ok ("BruteForceThrottleDuration ".toList ++ Text.ofInt values.throttleMillis)
  | _, _ => .error .missingDetail

/-- The written form of a rule. -/
def rule (r : Rule) : Except Fault Text :=
  match leading? r.kind with
  | some leading => .ok (simple leading r)
  | none =>
    match r.kind with
    | .requireAllGranted => .ok "Require all granted".toList
    | .requireAllDenied => .ok "Require all denied".toList
    | .requireValidUser => .ok "Require valid-user".toList
    | .expiresByType =>
      .ok ("ExpiresByType ".toList ++ r.name.getD absent ++ ' ' :: enclose (r.value.getD absent))
    | .expiresDefault => .ok ("ExpiresDefault ".toList ++ enclose (r.value.getD absent))
    | .authName => .ok ("AuthName ".toList ++ enclose (r.value.getD absent))
    | .other name => .error (.noWrittenForm name)
    | _ => detailed r

/-- The opening tag of a block. -/
def openTag (head : BlockHead) : Except Fault Text :=
  match head.kind with
  | .filesMatch => do
    let pattern ← needed head.pattern
    .ok ("<FilesMatch ".toList ++ (if pattern.contains '"' then pattern else enclose pattern) ++ ['>'])
  | .files => do
    let name ← needed head.name
    .ok ("<Files ".toList ++ tagArgument name ++ ['>'])
  | .ifModule => do
    let name ← needed head.name
    if head.negated then .ok ("<IfModule !".toList ++ tagArgument (name.drop 1) ++ ['>'])
    else .ok ("<IfModule ".toList ++ tagArgument name ++ ['>'])
  | .requireAny => .ok "<RequireAny>".toList
  | .requireAll => .ok "<RequireAll>".toList
  | .limit => .ok ("<Limit ".toList ++ head.methods.getD absent ++ ['>'])
  | .limitExcept => .ok ("<LimitExcept ".toList ++ head.methods.getD absent ++ ['>'])

/-- The closing tag of a block. -/
def closeTag (kind : BlockKind) : Text := "</".toList ++ kind.tag ++ ['>']

/-- The indentation of a depth. -/
def pad (indent : Text) (depth : Nat) : Text := (List.replicate depth indent).flatten

mutual

/-- The lines of a directive at a depth. -/
def lines (indent : Text) (depth : Nat) : Directive → Except Fault (List Text)
  | .rule _ r => do
    let t ← rule r
    .ok [pad indent depth ++ t]
  | .block _ head children => do
    let first ← openTag head
    let inside ← linesAll indent (depth + 1) children
    .ok ((pad indent depth ++ first) :: inside ++ [pad indent depth ++ closeTag head.kind])

/-- The lines of directives at a depth. -/
def linesAll (indent : Text) (depth : Nat) : List Directive → Except Fault (List Text)
  | [] => .ok []
  | d :: ds => do
    let first ← lines indent depth d
    let more ← linesAll indent depth ds
    .ok (first ++ more)

end

/-- The written form of a configuration. Every line ends with a line feed. -/
def print (indent : Text) (directives : List Directive) : Except Fault Text :=
  (linesAll indent 0 directives).map fun lines => lines.flatMap (· ++ ['\n'])

end HtGate.Printer
