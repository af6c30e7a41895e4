import HtGate.Directive.Basic
import HtGate.Duration
import HtGate.Line.Cursor
/-!
# Reading a line as a rule

A line is a rule if it begins with a keyword and the rest has the form that the keyword calls for.
Keywords and fixed words count in any case. A line that has not the form is no rule; only a numeral
that cannot be read stops the reading altogether.
-/

namespace HtGate

/-- Something noticed while a line was read. -/
inductive Remark where
  /-- A feature that is not known. -/
  | unknownOption (word : Text)
  /-- A lifetime that is no duration. -/
  | badDuration (reason : DurationError)
  deriving DecidableEq, Repr

/-- What a line was read as. -/
structure LineReading where
  rule : Option Rule
  remarks : List Remark := []
  deriving DecidableEq, Repr

/-- Reads what follows a keyword. -/
abbrev RuleReader := Cursor → Except Fault LineReading

namespace Cursor

/-- The next word, which must not be empty. -/
def word? (c : Cursor) : Option (Text × Cursor) :=
  match c.token with
  | (some t, c) => if t.isEmpty then none else some (t, c)
  | (none, _) => none

/-- What is left of the line as one value. -/
def rest? (c : Cursor) : Option Text := c.rest.1

/-- The position after a word that has to stand next. -/
def after? (word : String) (c : Cursor) : Option Cursor :=
  match c.keyword word.toList with
  | (true, c) => some c
  | (false, _) => none

/-- The next word in lower case; nothing at the end of the line. -/
def lowerToken (c : Cursor) : Text × Cursor :=
  match c.token with
  | (some t, c) => (Text.lower t, c)
  | (none, c) => ([], c)

end Cursor

namespace RuleReader

/-- A reader that always reads all it needs and has nothing to remark. -/
def plain (read : Cursor → Option Rule) : RuleReader := fun c => .ok ⟨read c, []⟩

/-- The truth value that a word switches to. -/
def onOff? (t : Text) : Option Bool :=
  let t := Text.lower t
  if t == "on".toList then some true else if t == "off".toList then some false else none

/-- The number that a word of digits writes; `none` for any other word. -/
def digits? (t : Text) : Except Fault (Option Nat) :=
  if Text.isDigits t then (Fault.readNumeral t).map some else .ok none

/-- The status from 100 to 599 that a word names. -/
def status? (t : Text) : Except Fault (Option Nat) :=
  (digits? t).map fun
    | some code => if 100 ≤ code ∧ code ≤ 599 then some code else none
    | none => none

/-- The positive number that a word names. -/
def positive? (t : Text) : Except Fault (Option Nat) :=
  (digits? t).map fun
    | some n => if 0 < n then some n else none
    | none => none

/-- Name and value. -/
def nameValue (kind : Kind) : RuleReader := plain fun c => do
  let (name, c) ← c.word?
  let value ← c.rest?
  some { kind, name, value }

/-- Name and a word that switches on or off. -/
def nameFlag (kind : Kind) : RuleReader := plain fun c => do
  let (name, c) ← c.word?
  let value ← c.token.1
  let _ ← onOff? value
  some { kind, name, value }

/-- A value of one word. -/
def valueWord (kind : Kind) : RuleReader := plain fun c => do
  let (value, _) ← c.word?
  some { kind, value }

/-- A value up to the end of the line. -/
def valueRest (kind : Kind) : RuleReader := plain fun c => do
  let value ← c.rest?
  some { kind, value }

/-- Name and, if something follows, a value. -/
def nameList (kind : Kind) : RuleReader := plain fun c => do
  let (name, c) ← c.word?
  some { kind, name, value := c.rest? }

/-- A header's name and, unless the header is removed, its value. -/
def headerArguments (kind : Kind) (hasValue : Bool) (c : Cursor) : Option Rule := do
  let (name, c) ← c.word?
  if hasValue then
    let value ← c.rest?
    some { kind, name, value }
  else some { kind, name }

/-- An action, a header and its value; the word `always` may stand before them. -/
def header : RuleReader := plain fun c => do
  let (always, c) := c.keyword "always".toList
  let (word, c) := c.lowerToken
  let action ← HeaderAction.all.find? (·.word == word)
  headerArguments (.header always action) (action != .unset) c

/-- An action, a request header and its value. -/
def requestHeader : RuleReader := plain fun c =>
  let (word, c) := c.lowerToken
  if word == "set".toList then headerArguments .requestHeaderSet true c
  else if word == "unset".toList then headerArguments .requestHeaderUnset false c
  else none

/-- One of the two orders; what follows it is not looked at. -/
def order : RuleReader := plain fun c =>
  let word := Text.lower (c.skipBlanks.remaining.take 10)
  if word == AccessOrder.allowDeny || word == AccessOrder.denyAllow then
    some { kind := .order, detail := .order word }
  else none

/-- The word `from` and hosts. -/
def hosts (kind : Kind) : RuleReader := plain fun c => do
  let c ← c.after? "from"
  let value ← c.rest?
  some { kind, value }

/-- The target and the place it is sent to. -/
def redirectTo (kind : Kind) (status : Nat) (target : Text) (c : Cursor) : Option Rule := do
  let value ← c.rest?
  if kind = .redirectMatch then some { kind, value, detail := .redirect status target }
  else some { kind, name := target, value, detail := .redirect status none }

/-- A target and the place it is sent to, with or without a status before them. -/
def redirect (kind : Kind) : RuleReader := fun c =>
  match c.word? with
  | none => .ok ⟨none, []⟩
  | some (first, c) => do
    match ← status? first with
    | none => .ok ⟨redirectTo kind 302 first c, []⟩
    | some status => .ok ⟨c.word?.bind fun (target, c) => redirectTo kind status target c, []⟩

/-- A status and a document, which keeps its quotes. -/
def errorDocument : RuleReader := fun c => do
  let (word, c) := c.token
  match ← status? (word.getD []) with
  | none => .ok ⟨none, []⟩
  | some code =>
    .ok ⟨c.restRaw.1.map fun value =>
      { kind := .errorDocument, value, detail := .errorDocument code }, []⟩

/-- A word that switches on or off. -/
def switch (kind : Kind) (detail : Bool → Detail) : RuleReader := plain fun c => do
  let word ← c.token.1
  let on ← onOff? word
  some { kind, detail := detail on }

/-- A lifetime. -/
def lifetime (kind : Kind) (name : Option Text) (c : Cursor) : Except Fault LineReading :=
  match c.rest? with
  | none => .ok ⟨none, []⟩
  | some value => do
    match ← Duration.parse (some value) with
    | .error reason => .ok ⟨none, [.badDuration reason]⟩
    | .ok seconds => .ok ⟨some { kind, name, value, detail := .expires false seconds }, []⟩

/-- A content type and its lifetime. -/
def expiresByType : RuleReader := fun c =>
  match c.word? with
  | none => .ok ⟨none, []⟩
  | some (name, c) => lifetime .expiresByType (some name) c

/-- The lifetime of all other content. -/
def expiresDefault : RuleReader := lifetime .expiresDefault none

/-- The variable and the value of an assignment; without an equals sign the value is empty. -/
def assignment (t : Text) : Text × Text :=
  let (name, value) := Text.cut '=' t
  (name, value.getD [])

/-- An assignment under a condition. -/
def conditional (kind : Kind) (subject pattern : Text) (c : Cursor) : Option Rule := do
  let t ← c.rest?
  let (name, value) := assignment t
  some { kind, name, value, detail := .envIf subject pattern }

/-- A subject, a pattern and an assignment. -/
def setEnvIf : RuleReader := plain fun c => do
  let (subject, c) ← c.word?
  let (pattern, c) ← c.word?
  conditional .setEnvIf subject pattern c

/-- A pattern for the browser and an assignment. -/
def browserMatch : RuleReader := plain fun c => do
  let (pattern, c) ← c.word?
  conditional .browserMatch "User-Agent".toList pattern c

/-- A positive number. -/
def guardNumber (setting : GuardSetting) (values : Nat → GuardValues) : RuleReader := fun c => do
  match ← positive? (c.token.1.getD []) with
  | none => .ok ⟨none, []⟩
  | some n => .ok ⟨some { kind := .guard setting, detail := .guard (values n) }, []⟩

/-- What happens to a client that guesses. -/
def guardAction : RuleReader := plain fun c =>
  let action := c.lowerToken.1
  if action == "block".toList || action == "throttle".toList then
    some { kind := .guard .action, detail := .guard { action } }
  else none

/-- A word that switches on; every other word switches off. -/
def forwardedFor : RuleReader := plain fun c => do
  let word ← c.token.1
  some { kind := .guard .forwardedFor, detail := .guard { enabled := Text.lower word == "on".toList } }

/-- The sign of a feature and its word: a plus switches on like no sign, a minus switches off. -/
def signed : Text → Int × Text
  | '+' :: word => (1, word)
  | '-' :: word => (-1, word)
  | word => (1, word)

/-- Switches one feature. -/
def setFlag (sign : Int) (word : Text) (flags : OptionFlags) : Option OptionFlags :=
  let word := Text.lower word
  if word == "indexes".toList then some { flags with indexes := sign }
  else if word == "followsymlinks".toList then some { flags with followSymlinks := sign }
  else if word == "multiviews".toList then some { flags with multiviews := sign }
  else if word == "execcgi".toList then some { flags with execCgi := sign }
  else none

/-- Switches features one after another and collects the words that name none. -/
def setFlags (flags : OptionFlags) : List Text → OptionFlags × List Text
  | [] => (flags, [])
  | t :: more =>
    let (sign, word) := signed t
    match setFlag sign word flags with
    | some flags => setFlags flags more
    | none =>
      let (flags, unknown) := setFlags flags more
      (flags, word :: unknown)

/-- Features to switch. -/
def options : RuleReader := fun c =>
  match c.rest? with
  | none => .ok ⟨none, []⟩
  | some value =>
    let (flags, unknown) := setFlags {} (Text.words value)
    .ok ⟨some { kind := .options, value, detail := .options flags }, unknown.map .unknownOption⟩

/-- Who is let in: everyone, no one, hosts, all but hosts, or users who prove an identity. -/
def require : RuleReader := plain fun c =>
  match c.after? "all" with
  | some c =>
    let word := c.lowerToken.1
    if word == "granted".toList then some { kind := .requireAllGranted }
    else if word == "denied".toList then some { kind := .requireAllDenied }
    else none
  | none =>
    match c.after? "not" with
    | some c => do
      let c ← c.after? "ip"
      let value ← c.rest?
      some { kind := .requireNotIp, value }
    | none =>
      match c.after? "ip" with
      | some c => do
        let value ← c.rest?
        some { kind := .requireIp, value }
      | none => do
        let _ ← c.after? "valid-user"
        some { kind := .requireValidUser }

/-- The keywords with the readers of what follows them. A keyword that goes on from another stands before it. -/
def table : List (Text × RuleReader) :=
  [("Header".toList, header),
    ("RequestHeader".toList, requestHeader),
    ("php_value".toList, nameValue (.phpValue false)),
    ("php_flag".toList, nameFlag (.phpFlag false)),
    ("php_admin_value".toList, nameValue (.phpValue true)),
    ("php_admin_flag".toList, nameFlag (.phpFlag true)),
    ("Order".toList, order),
    ("Allow".toList, hosts .allowFrom),
    ("Deny".toList, hosts .denyFrom),
    ("RedirectMatch".toList, redirect .redirectMatch),
    ("Redirect".toList, redirect .redirect),
    ("ErrorDocument".toList, errorDocument),
    ("ExpiresActive".toList, switch .expiresActive (.expires · 0)),
    ("ExpiresByType".toList, expiresByType),
    ("ExpiresDefault".toList, expiresDefault),
    ("SetEnvIf".toList, setEnvIf),
    ("SetEnv".toList, nameValue .setEnv),
    ("BrowserMatch".toList, browserMatch),
    ("BruteForceProtection".toList,
      switch (.guard .protection) fun enabled => .guard { enabled }),
    ("BruteForceAllowedAttempts".toList,
      guardNumber .allowedAttempts fun n => { allowedAttempts := n }),
    ("BruteForceWindow".toList, guardNumber .window fun n => { windowSeconds := n }),
    ("BruteForceAction".toList, guardAction),
    ("BruteForceThrottleDuration".toList,
      guardNumber .throttleDuration fun n => { throttleMillis := n }),
    ("BruteForceXForwardedFor".toList, forwardedFor),
    ("BruteForceWhitelist".toList, valueRest (.guard .whitelist)),
    ("BruteForceProtectPath".toList, valueWord (.guard .protectPath)),
    ("Options".toList, options),
    ("Require".toList, require),
    ("AuthType".toList, valueWord .authType),
    ("AuthName".toList, valueRest .authName),
    ("AuthUserFile".toList, valueRest .authUserFile),
    ("AddHandler".toList, nameList .addHandler),
    ("SetHandler".toList, valueRest .setHandler),
    ("AddType".toList, nameList .addType),
    ("DirectoryIndex".toList, valueRest .directoryIndex),
    ("ForceType".toList, valueWord .forceType),
    ("AddEncoding".toList, nameList .addEncoding),
    ("AddCharset".toList, nameList .addCharset)]

/-- Reads a line by the first keyword of a table that it begins with. -/
def readBy (table : List (Text × RuleReader)) (line : Text) : Except Fault LineReading :=
  match table with
  | [] => .ok ⟨none, []⟩
  | (word, reader) :: more =>
    match (Cursor.start line).keyword word with
    | (true, c) => reader c
    | (false, _) => readBy more line

/-- Reads a trimmed line. -/
def read (line : Text) : Except Fault LineReading := readBy table line

end RuleReader

end HtGate
