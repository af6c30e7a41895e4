import HtGate.Proofs.Line.Keyword
import HtGate.Proofs.Text.Numeral
/-!
# Well-formed rules

What a line can be read as. `WellFormed` lists the forms of the rules by the kinds that share them: which
of name, value and details are there, and what is known of them. Every reader of the keyword table yields
well-formed rules only, and what it remarks is determined by the rule it yields.
-/

namespace HtGate

namespace Text

/-- A text without a line feed. -/
def OneLine (t : Text) : Prop := '\n' ∉ t

instance (t : Text) : Decidable t.OneLine := inferInstanceAs (Decidable ('\n' ∉ t))

/-- Texts put together are without a line feed if both are. -/
@[simp]
lemma oneLine_append {s t : Text} : OneLine (s ++ t) ↔ OneLine s ∧ OneLine t := by
  simp [OneLine, not_or]

/-- A text with a first character is without a line feed if the character is none and the rest has none. -/
@[simp]
lemma oneLine_cons {c : Char} {t : Text} : OneLine (c :: t) ↔ c ≠ '\n' ∧ OneLine t := by
  simp [OneLine, not_or, eq_comm]

/-- The empty text has no line feed. -/
@[simp]
lemma oneLine_nil : OneLine [] := nofun

/-- A word that stands on one line. -/
structure IsName (t : Text) : Prop extends t.IsWord where
  oneLine : t.OneLine

end Text

/-- The keyword of a setting. -/
def GuardSetting.keyword : GuardSetting → Text
  | protection => "BruteForceProtection".toList
  | allowedAttempts => "BruteForceAllowedAttempts".toList
  | window => "BruteForceWindow".toList
  | action => "BruteForceAction".toList
  | throttleDuration => "BruteForceThrottleDuration".toList
  | forwardedFor => "BruteForceXForwardedFor".toList
  | whitelist => "BruteForceWhitelist".toList
  | protectPath => "BruteForceProtectPath".toList

namespace Kind

/-- The kinds with a name and a value up to the end of the line. -/
def nameValueKinds : List Kind := [.phpValue false, .phpValue true, .setEnv]

/-- The kinds with a value of one word. -/
def valueWordKinds : List Kind := [.authType, .forceType, .guard .protectPath]

/-- The kinds with a value up to the end of the line. -/
def valueRestKinds : List Kind :=
  [.allowFrom, .denyFrom, .requireIp, .requireNotIp, .authName, .authUserFile, .setHandler,
    .directoryIndex, .guard .whitelist]

/-- The kinds with a name and, perhaps, a value up to the end of the line. -/
def nameListKinds : List Kind := [.addHandler, .addType, .addEncoding, .addCharset]

/-- The kinds that say all by themselves. -/
def bareKinds : List Kind := [.requireAllGranted, .requireAllDenied, .requireValidUser]

/-- The keyword that the rules of a kind begin with. -/
def keyword : Kind → Text
  | header _ _ => "Header".toList
  | requestHeaderSet | requestHeaderUnset => "RequestHeader".toList
  | phpValue admin => (if admin then "php_admin_value" else "php_value").toList
  | phpFlag admin => (if admin then "php_admin_flag" else "php_flag").toList
  | order => "Order".toList
  | allowFrom => "Allow".toList
  | denyFrom => "Deny".toList
  | redirect => "Redirect".toList
  | redirectMatch => "RedirectMatch".toList
  | errorDocument => "ErrorDocument".toList
  | expiresActive => "ExpiresActive".toList
  | expiresByType => "ExpiresByType".toList
  | expiresDefault => "ExpiresDefault".toList
  | setEnv => "SetEnv".toList
  | setEnvIf => "SetEnvIf".toList
  | browserMatch => "BrowserMatch".toList
  | guard setting => setting.keyword
  | requireAllGranted | requireAllDenied | requireIp | requireNotIp | requireValidUser =>
    "Require".toList
  | authType => "AuthType".toList
  | authName => "AuthName".toList
  | authUserFile => "AuthUserFile".toList
  | options => "Options".toList
  | addHandler => "AddHandler".toList
  | setHandler => "SetHandler".toList
  | addType => "AddType".toList
  | directoryIndex => "DirectoryIndex".toList
  | forceType => "ForceType".toList
  | addEncoding => "AddEncoding".toList
  | addCharset => "AddCharset".toList
  | other _ => []

end Kind

namespace Rule

/-- The rules that lines are read as. -/
inductive WellFormed : Rule → Prop where
  | header {always action name value} :
    action ≠ .unset → Text.IsName name → Text.OneLine value →
    WellFormed { kind := .header always action, name := some name, value := some value }
  | headerUnset {always name} :
    Text.IsName name →
    WellFormed { kind := .header always .unset, name := some name }
  | requestHeaderSet {name value} :
    Text.IsName name → Text.OneLine value →
    WellFormed { kind := .requestHeaderSet, name := some name, value := some value }
  | requestHeaderUnset {name} :
    Text.IsName name →
    WellFormed { kind := .requestHeaderUnset, name := some name }
  | nameValue {kind name value} :
    kind ∈ Kind.nameValueKinds → Text.IsName name → Text.OneLine value →
    WellFormed { kind, name := some name, value := some value }
  | nameFlag {admin name value on} :
    Text.IsName name → RuleReader.onOff? value = some on →
    WellFormed { kind := .phpFlag admin, name := some name, value := some value }
  | valueWord {kind value} :
    kind ∈ Kind.valueWordKinds → Text.IsName value →
    WellFormed { kind, value := some value }
  | valueRest {kind value} :
    kind ∈ Kind.valueRestKinds → Text.OneLine value →
    WellFormed { kind, value := some value }
  | nameList {kind name value} :
    kind ∈ Kind.nameListKinds → Text.IsName name → (∀ v ∈ value, Text.OneLine v) →
    WellFormed { kind, name := some name, value := value }
  | bare {kind} :
    kind ∈ Kind.bareKinds →
    WellFormed { kind }
  | order {order} :
    order = AccessOrder.allowDeny ∨ order = AccessOrder.denyAllow →
    WellFormed { kind := .order, detail := .order order }
  | redirect {status : Nat} {target url} :
    100 ≤ status → status ≤ 599 → Text.IsName target → Text.OneLine url →
    WellFormed
      { kind := .redirect, name := some target, value := some url, detail := .redirect status none }
  | redirectMatch {status : Nat} {target url} :
    100 ≤ status → status ≤ 599 → Text.IsName target → Text.OneLine url →
    WellFormed
      { kind := .redirectMatch, value := some url, detail := .redirect status (some target) }
  | errorDocument {code : Nat} {value} :
    100 ≤ code → code ≤ 599 → value ≠ [] → Text.trim value = value → Text.OneLine value →
    WellFormed { kind := .errorDocument, value := some value, detail := .errorDocument code }
  | expiresActive {active} :
    WellFormed { kind := .expiresActive, detail := .expires active 0 }
  | expiresByType {name value} {seconds : Nat} :
    Text.IsName name → Text.OneLine value → Duration.parse (some value) = .ok (.ok seconds) →
    WellFormed
      { kind := .expiresByType, name := some name, value := some value,
        detail := .expires false seconds }
  | expiresDefault {value} {seconds : Nat} :
    Text.OneLine value → Duration.parse (some value) = .ok (.ok seconds) →
    WellFormed
      { kind := .expiresDefault, value := some value, detail := .expires false seconds }
  | setEnvIf {subject pattern name value} :
    Text.IsName subject → Text.IsName pattern → Text.OneLine name → '=' ∉ name →
    Text.OneLine value →
    WellFormed
      { kind := .setEnvIf, name := some name, value := some value,
        detail := .envIf subject pattern }
  | browserMatch {pattern name value} :
    Text.IsName pattern → Text.OneLine name → '=' ∉ name → Text.OneLine value →
    WellFormed
      { kind := .browserMatch, name := some name, value := some value,
        detail := .envIf "User-Agent".toList pattern }
  | guardSwitch {setting enabled} :
    setting = .protection ∨ setting = .forwardedFor →
    WellFormed { kind := .guard setting, detail := .guard { enabled } }
  | allowedAttempts {n : Nat} :
    0 < n → n < 10 ^ Text.maxDigits →
    WellFormed { kind := .guard .allowedAttempts, detail := .guard { allowedAttempts := n } }
  | window {n : Nat} :
    0 < n → n < 10 ^ Text.maxDigits →
    WellFormed { kind := .guard .window, detail := .guard { windowSeconds := n } }
  | throttleDuration {n : Nat} :
    0 < n → n < 10 ^ Text.maxDigits →
    WellFormed { kind := .guard .throttleDuration, detail := .guard { throttleMillis := n } }
  | guardAction {action} :
    action = "block".toList ∨ action = "throttle".toList →
    WellFormed { kind := .guard .action, detail := .guard { action } }
  | options {value} :
    Text.OneLine value →
    WellFormed
      { kind := .options, value := some value,
        detail := .options (RuleReader.setFlags {} (Text.words value)).1 }

/-- What is remarked about a rule that is read: the features it switches that are not known. -/
def remarks (r : Rule) : List Remark :=
  if r.kind = .options then
    (RuleReader.setFlags {} (Text.words (r.value.getD []))).2.map .unknownOption
  else []

end Rule

namespace RuleReader

open Rule (WellFormed)

/-- A reader that yields well-formed rules only, of the kinds with a keyword. -/
def Sound (kw : Text) (reader : RuleReader) : Prop :=
  ∀ {c : Cursor} {r : Rule} {remarks : List Remark}, '\n' ∉ c.remaining →
    reader c = .ok ⟨some r, remarks⟩ →
    WellFormed r ∧ remarks = r.remarks ∧ r.kind.keyword = kw

/-- What a plain reader reads, it reads without remarks. -/
lemma plain_eq_ok_iff {read : Cursor → Option Rule} {c : Cursor} {r : Rule} {remarks : List Remark} :
    plain read c = .ok ⟨some r, remarks⟩ ↔ read c = some r ∧ remarks = [] := by
  simp [plain, eq_comm]

/-- A reading without remarks of a rule that needs none. -/
lemma remarks_eq {r : Rule} (h : r.kind ≠ .options) : [] = r.remarks := by
  rw [Rule.remarks, if_neg h]

/-- A plain reader is sound if the rules it reads are well-formed and need no remarks. -/
lemma sound_plain {kw : Text} (hkw : kw ≠ Kind.options.keyword) {read : Cursor → Option Rule}
    (h : ∀ {c : Cursor} {r : Rule}, '\n' ∉ c.remaining → read c = some r →
      WellFormed r ∧ r.kind.keyword = kw) : Sound kw (plain read) := by
  intro c r remarks hc hr
  obtain ⟨hread, rfl⟩ := plain_eq_ok_iff.1 hr
  obtain ⟨hw, hk⟩ := h hc hread
  refine ⟨hw, remarks_eq ?_, hk⟩
  intro ho
  exact hkw (by rw [← hk, ho])

/-- A word of a line without a line feed is a name. -/
lemma isName_of_word? {c c' : Cursor} {t : Text} (hc : '\n' ∉ c.remaining)
    (h : c.word? = some (t, c')) : t.IsName ∧ '\n' ∉ c'.remaining := by
  obtain ⟨-, hw, ht, hc'⟩ := Cursor.word?_spec h
  exact ⟨⟨hw, fun hm => hc (ht hm)⟩, fun hm => hc (hc' hm)⟩

/-- A value of a line without a line feed has none. -/
lemma oneLine_of_rest? {c : Cursor} {t : Text} (hc : '\n' ∉ c.remaining) (h : c.rest? = some t) :
    t.OneLine :=
  fun hm => hc (Cursor.rest?_subset h hm)

/-- The reader of a name and a value is sound for each kind that has it. -/
lemma nameValue_sound {kind : Kind} (hk : kind ∈ Kind.nameValueKinds) :
    Sound kind.keyword (nameValue kind) := by
  refine sound_plain (by revert kind; decide) fun {c r} hc h => ?_
  simp only [Option.bind_eq_bind, Option.bind_eq_some_iff, Option.some.injEq] at h
  obtain ⟨⟨name, c1⟩, hw, value, hv, rfl⟩ := h
  obtain ⟨hn, hc1⟩ := isName_of_word? hc hw
  exact ⟨.nameValue hk hn (oneLine_of_rest? hc1 hv), rfl⟩

/-- The reader of a name and a flag is sound, for flags of the administrator too. -/
lemma nameFlag_sound (admin : Bool) :
    Sound (Kind.phpFlag admin).keyword (nameFlag (.phpFlag admin)) := by
  refine sound_plain (by cases admin <;> decide) fun {c r} hc h => ?_
  simp only [Option.bind_eq_bind, Option.bind_eq_some_iff, Option.some.injEq] at h
  obtain ⟨⟨name, c1⟩, hw, value, hv, on, hon, rfl⟩ := h
  exact ⟨.nameFlag (isName_of_word? hc hw).1 hon, rfl⟩

/-- The reader of one word is sound for each kind that has it. -/
lemma valueWord_sound {kind : Kind} (hk : kind ∈ Kind.valueWordKinds) :
    Sound kind.keyword (valueWord kind) := by
  refine sound_plain (by revert kind; decide) fun {c r} hc h => ?_
  simp only [Option.bind_eq_bind, Option.bind_eq_some_iff, Option.some.injEq] at h
  obtain ⟨⟨value, c1⟩, hw, rfl⟩ := h
  exact ⟨.valueWord hk (isName_of_word? hc hw).1, rfl⟩

/-- The reader of the rest of the line is sound for each kind that has it. -/
lemma valueRest_sound {kind : Kind} (hk : kind ∈ Kind.valueRestKinds) :
    Sound kind.keyword (valueRest kind) := by
  refine sound_plain (by revert kind; decide) fun {c r} hc h => ?_
  simp only [Option.bind_eq_bind, Option.bind_eq_some_iff, Option.some.injEq] at h
  obtain ⟨value, hv, rfl⟩ := h
  exact ⟨.valueRest hk (oneLine_of_rest? hc hv), rfl⟩

/-- The reader of a name and a list that may be missing is sound for each kind that has it. -/
lemma nameList_sound {kind : Kind} (hk : kind ∈ Kind.nameListKinds) :
    Sound kind.keyword (nameList kind) := by
  refine sound_plain (by revert kind; decide) fun {c r} hc h => ?_
  simp only [Option.bind_eq_bind, Option.bind_eq_some_iff, Option.some.injEq] at h
  obtain ⟨⟨name, c1⟩, hw, rfl⟩ := h
  obtain ⟨hn, hc1⟩ := isName_of_word? hc hw
  exact ⟨.nameList hk hn fun v hv => oneLine_of_rest? hc1 hv, rfl⟩

/-- The arguments of a header are a name and, unless it is removed, a value. -/
lemma headerArguments_eq_some {kind : Kind} {hasValue : Bool} {c : Cursor} {r : Rule}
    (hc : '\n' ∉ c.remaining) (h : headerArguments kind hasValue c = some r) :
    ∃ name value, Text.IsName name ∧ Text.OneLine value ∧
      r = { kind, name := some name, value := if hasValue then some value else none } := by
  simp only [headerArguments, Option.bind_eq_bind, Option.bind_eq_some_iff] at h
  obtain ⟨⟨name, c1⟩, hw, h⟩ := h
  obtain ⟨hn, hc1⟩ := isName_of_word? hc hw
  cases hasValue with
  | true =>
    simp only [if_true, Option.bind_eq_some_iff, Option.some.injEq] at h
    obtain ⟨value, hv, rfl⟩ := h
    exact ⟨name, value, hn, oneLine_of_rest? hc1 hv, rfl⟩
  | false =>
    cases h
    exact ⟨name, [], hn, nofun, rfl⟩

/-- What remains after a keyword was looked for stands in the line. -/
lemma keyword_subset (word : Text) (c : Cursor) : (c.keyword word).2.remaining ⊆ c.remaining := by
  have hskip : c.skipBlanks.remaining ⊆ c.remaining := by
    rw [Cursor.remaining_skipBlanks]
    exact (List.dropWhile_sublist _).subset
  simp only [Cursor.keyword]
  split
  · rw [Cursor.remaining_advance]
    exact List.Subset.trans (List.drop_subset _ _) hskip
  · exact hskip

/-- What remains after a word in lower case stands in the line. -/
lemma lowerToken_subset (c : Cursor) : c.lowerToken.2.remaining ⊆ c.remaining := by
  rw [Cursor.lowerToken]
  split
  · rename_i heq
    exact (Cursor.token_spec heq).2.2
  · rename_i heq
    rw [Cursor.remaining_of_token_none heq]
    exact List.nil_subset _

/-- The reader of changes of response headers is sound, for each action and in front of it `always` or not. -/
lemma header_sound : Sound "Header".toList header := by
  refine sound_plain (by decide) fun {c r} hc h => ?_
  simp only [Option.bind_eq_bind, Option.bind_eq_some_iff] at h
  obtain ⟨action, -, h⟩ := h
  have hc1 : '\n' ∉ (c.keyword "always".toList).2.lowerToken.2.remaining := fun hm =>
    hc (keyword_subset _ _ (lowerToken_subset _ hm))
  obtain ⟨name, value, hn, hv, rfl⟩ := headerArguments_eq_some hc1 h
  refine ⟨?_, rfl⟩
  cases action with
  | unset => exact .headerUnset hn
  | _ => exact .header nofun hn hv

/-- The reader of changes of request headers is sound: it yields one to set or to unset. -/
lemma requestHeader_sound : Sound "RequestHeader".toList requestHeader := by
  refine sound_plain (by decide) fun {c r} hc h => ?_
  have hc1 : '\n' ∉ c.lowerToken.2.remaining := fun hm => hc (lowerToken_subset _ hm)
  simp only at h
  split at h
  · obtain ⟨name, value, hn, hv, rfl⟩ := headerArguments_eq_some hc1 h
    exact ⟨.requestHeaderSet hn hv, rfl⟩
  · split at h
    · obtain ⟨name, value, hn, hv, rfl⟩ := headerArguments_eq_some hc1 h
      exact ⟨.requestHeaderUnset hn, rfl⟩
    · cases h

/-- The reader of orders yields one of the two orders. -/
lemma order_sound : Sound Kind.order.keyword order := by
  refine sound_plain (by decide) fun {c r} hc h => ?_
  simp only at h
  split at h
  · rename_i ho
    cases h
    simp only [Bool.or_eq_true, beq_iff_eq] at ho
    exact ⟨.order ho, rfl⟩
  · cases h

/-- What remains after a word that has to stand next stands in the line. -/
lemma after?_subset {word : String} {c c' : Cursor} (h : c.after? word = some c') :
    c'.remaining ⊆ c.remaining := by
  rw [Cursor.after?] at h
  split at h
  · rename_i heq
    cases h
    have := keyword_subset word.toList c
    rwa [heq] at this
  · cases h

/-- The reader of hosts behind the word `from` is sound. -/
lemma hosts_sound {kind : Kind} (hk : kind ∈ Kind.valueRestKinds) :
    Sound kind.keyword (hosts kind) := by
  refine sound_plain (by revert kind; decide) fun {c r} hc h => ?_
  simp only [Option.bind_eq_bind, Option.bind_eq_some_iff, Option.some.injEq] at h
  obtain ⟨c1, hc1, value, hv, rfl⟩ := h
  exact ⟨.valueRest hk (oneLine_of_rest? (fun hm => hc (after?_subset hc1 hm)) hv), rfl⟩

/-- The reader of Require lines is sound in each of its branches. -/
lemma require_sound : Sound "Require".toList require := by
  refine sound_plain (by decide) fun {c r} hc h => ?_
  simp only [Option.bind_eq_bind] at h
  split at h
  · split at h
    · cases h
      exact ⟨.bare (by decide), rfl⟩
    · split at h
      · cases h
        exact ⟨.bare (by decide), rfl⟩
      · cases h
  · split at h
    · -- a negated address
      rename_i c1 hc1
      simp only [Option.bind_eq_some_iff, Option.some.injEq] at h
      obtain ⟨c2, hc2, value, hv, rfl⟩ := h
      have hline : '\n' ∉ c2.remaining := fun hm =>
        hc (after?_subset hc1 (after?_subset hc2 hm))
      exact ⟨.valueRest (by decide) (oneLine_of_rest? hline hv), rfl⟩
    · split at h
      · -- an address
        rename_i c1 hc1
        simp only [Option.bind_eq_some_iff, Option.some.injEq] at h
        obtain ⟨value, hv, rfl⟩ := h
        have hline : '\n' ∉ c1.remaining := fun hm => hc (after?_subset hc1 hm)
        exact ⟨.valueRest (by decide) (oneLine_of_rest? hline hv), rfl⟩
      · simp only [Option.bind_eq_some_iff, Option.some.injEq] at h
        obtain ⟨c1, -, rfl⟩ := h
        exact ⟨.bare (by decide), rfl⟩

/-- A word that is read as a status names one from 100 to 599. -/
lemma status?_eq_some {t : Text} {code : Nat} (h : status? t = .ok (some code)) :
    100 ≤ code ∧ code ≤ 599 := by
  rw [status?] at h
  cases hd : digits? t with
  | error fault =>
    rw [hd] at h
    cases h
  | ok o =>
    rw [hd] at h
    cases o with
    | none => cases h
    | some n =>
      simp only [Except.map, Except.ok.injEq] at h
      split at h
      · rename_i hr
        cases h
        exact hr
      · cases h

/-- A word that is read as a positive number has no more digits than a numeral may have. -/
lemma positive?_eq_some {t : Text} {n : Nat} (h : positive? t = .ok (some n)) :
    0 < n ∧ n < 10 ^ Text.maxDigits := by
  rw [positive?, digits?] at h
  split at h
  · rw [Fault.readNumeral] at h
    split at h
    · rename_i m hm
      simp only [Except.map, Except.ok.injEq] at h
      split at h
      · rename_i hpos
        cases h
        exact ⟨hpos, Text.lt_of_toNat hm⟩
      · cases h
    · cases h
    · cases h
  · cases h

/-- A redirect has a target, a place it is sent to and a status. -/
lemma redirectTo_wellFormed {kind : Kind} (hk : kind = .redirect ∨ kind = .redirectMatch)
    {status : Nat} (hlow : 100 ≤ status) (hhigh : status ≤ 599) {target : Text}
    (ht : target.IsName) {c : Cursor} (hc : '\n' ∉ c.remaining) {r : Rule}
    (h : redirectTo kind status target c = some r) : WellFormed r ∧ r.kind = kind := by
  simp only [redirectTo, Option.bind_eq_bind, Option.bind_eq_some_iff] at h
  obtain ⟨url, hu, h⟩ := h
  have hline := oneLine_of_rest? hc hu
  rcases hk with rfl | rfl
  · rw [if_neg (by decide)] at h
    cases h
    exact ⟨.redirect hlow hhigh ht hline, rfl⟩
  · rw [if_pos rfl] at h
    cases h
    exact ⟨.redirectMatch hlow hhigh ht hline, rfl⟩

/-- The reader of redirects yields a status in range and a target that is one word. -/
lemma redirect_sound {kind : Kind} (hk : kind = .redirect ∨ kind = .redirectMatch) :
    Sound kind.keyword (redirect kind) := by
  intro c r remarks hc h
  have hoptions : kind ≠ .options := by rcases hk with rfl | rfl <;> decide
  rw [redirect] at h
  split at h
  · cases h
  · rename_i first c1 hw
    obtain ⟨hfirst, hc1⟩ := isName_of_word? hc hw
    -- the first word is a status, or it is the target
    cases hs : status? first with
    | error fault =>
      rw [hs] at h
      cases h
    | ok o =>
      rw [hs] at h
      cases o with
      | none =>
        simp only [bind, Except.bind, Except.ok.injEq, LineReading.mk.injEq] at h
        obtain ⟨h, rfl⟩ := h
        obtain ⟨hr, hkind⟩ :=
          redirectTo_wellFormed hk (by decide) (by decide) hfirst hc1 h
        exact ⟨hr, remarks_eq (hkind ▸ hoptions), by rw [hkind]⟩
      | some status =>
        simp only [bind, Except.bind, Except.ok.injEq, LineReading.mk.injEq,
          Option.bind_eq_some_iff] at h
        obtain ⟨⟨⟨target, c2⟩, hw2, h⟩, rfl⟩ := h
        obtain ⟨htarget, hc2⟩ := isName_of_word? hc1 hw2
        obtain ⟨hlow, hhigh⟩ := status?_eq_some hs
        obtain ⟨hr, hkind⟩ := redirectTo_wellFormed hk hlow hhigh htarget hc2 h
        exact ⟨hr, remarks_eq (hkind ▸ hoptions), by rw [hkind]⟩

/-- What is left of a line with its quotes is trimmed and not empty. -/
lemma restRaw_eq_some {c : Cursor} {t : Text} (hc : '\n' ∉ c.remaining) (h : c.restRaw.1 = some t) :
    t ≠ [] ∧ Text.trim t = t ∧ t.OneLine := by
  rw [Cursor.restRaw_fst] at h
  split at h
  · cases h
  · rename_i hne
    cases h
    exact ⟨by simpa using hne, Text.trim_trim _, fun hm => hc (Text.mem_of_mem_trim hm)⟩

/-- What remains after a word, or where there is none, stands in the line. -/
lemma token_snd_subset (c : Cursor) : c.token.2.remaining ⊆ c.remaining := by
  cases h : c.token with
  | mk o c' =>
    cases o with
    | none =>
      rw [Cursor.remaining_of_token_none h]
      exact List.nil_subset _
    | some t => exact (Cursor.token_spec h).2.2

/-- The reader of error documents yields a status in range and a document that is not empty. -/
lemma errorDocument_sound : Sound Kind.errorDocument.keyword errorDocument := by
  intro c r remarks hc h
  simp only [errorDocument] at h
  cases hs : status? (c.token.1.getD []) with
  | error fault =>
    rw [hs] at h
    cases h
  | ok o =>
    rw [hs] at h
    cases o with
    | none => cases h
    | some code =>
      simp only [bind, pure, Except.bind, Except.ok.injEq, LineReading.mk.injEq,
        Option.map_eq_some_iff, Option.bind_eq_some_iff, Option.some.injEq] at h
      obtain ⟨⟨-, ⟨value, hv, rfl⟩, rfl⟩, rfl⟩ := h
      have hc1 : '\n' ∉ c.token.2.remaining := fun hm => hc (token_snd_subset c hm)
      obtain ⟨hne, htrim, hline⟩ := restRaw_eq_some hc1 hv
      obtain ⟨hlow, hhigh⟩ := status?_eq_some hs
      exact ⟨.errorDocument hlow hhigh hne htrim hline, remarks_eq nofun, rfl⟩

/-- The reader of switches is sound for a kind whose rules are well-formed both on and off. -/
lemma switch_sound {kind : Kind} (hkw : kind.keyword ≠ Kind.options.keyword)
    {detail : Bool → Detail} (h : ∀ on, WellFormed { kind, detail := detail on }) :
    Sound kind.keyword (switch kind detail) := by
  refine sound_plain hkw fun {c r} hc hr => ?_
  simp only [Option.bind_eq_bind, Option.bind_eq_some_iff, Option.some.injEq] at hr
  obtain ⟨word, -, on, -, rfl⟩ := hr
  exact ⟨h on, rfl⟩

/-- A lifetime is a value that is a duration. -/
lemma lifetime_eq_ok {kind : Kind} {name : Option Text} {c : Cursor} {r : Rule}
    {remarks : List Remark} (hc : '\n' ∉ c.remaining)
    (h : lifetime kind name c = .ok ⟨some r, remarks⟩) :
    remarks = [] ∧ ∃ value seconds, c.rest? = some value ∧ Text.OneLine value ∧
      Duration.parse (some value) = .ok (.ok seconds) ∧
      r = { kind, name, value := some value, detail := .expires false seconds } := by
  rw [lifetime] at h
  split at h
  · cases h
  · rename_i value hv
    cases hd : Duration.parse (some value) with
    | error fault =>
      rw [hd] at h
      cases h
    | ok o =>
      rw [hd] at h
      cases o with
      | error reason => cases h
      | ok seconds =>
        simp only [bind, Except.bind, Except.ok.injEq, LineReading.mk.injEq,
          Option.some.injEq] at h
        obtain ⟨rfl, rfl⟩ := h
        exact ⟨rfl, value, seconds, hv, oneLine_of_rest? hc hv, hd, rfl⟩

/-- The reader of the lifetime of a type yields a value that is a duration. -/
lemma expiresByType_sound : Sound Kind.expiresByType.keyword expiresByType := by
  intro c r remarks hc h
  rw [expiresByType] at h
  split at h
  · cases h
  · rename_i name c1 hw
    obtain ⟨hn, hc1⟩ := isName_of_word? hc hw
    obtain ⟨rfl, value, seconds, -, hv, hd, rfl⟩ := lifetime_eq_ok hc1 h
    exact ⟨.expiresByType hn hv hd, remarks_eq nofun, rfl⟩

/-- The reader of the default lifetime yields a value that is a duration. -/
lemma expiresDefault_sound : Sound Kind.expiresDefault.keyword expiresDefault := by
  intro c r remarks hc h
  obtain ⟨rfl, value, seconds, -, hv, hd, rfl⟩ := lifetime_eq_ok hc h
  exact ⟨.expiresDefault hv hd, remarks_eq nofun, rfl⟩

/-- The variable of an assignment has no equals sign; it and the value stand in the assignment. -/
lemma assignment_spec (t : Text) :
    '=' ∉ (assignment t).1 ∧ (assignment t).1 ⊆ t ∧ (assignment t).2 ⊆ t := by
  rcases Text.cut_cases '=' t with ⟨ht, hcut⟩ | ⟨s, u, rfl, hs, hcut⟩
  · simp [assignment, hcut, ht]
  · simp only [assignment, hcut, Option.getD_some]
    exact ⟨hs, by simp, fun x hx => by simp [hx]⟩

/-- An assignment under a condition. -/
lemma conditional_eq_some {kind : Kind} {subject pattern : Text} {c : Cursor} {r : Rule}
    (hc : '\n' ∉ c.remaining) (h : conditional kind subject pattern c = some r) :
    ∃ name value, Text.OneLine name ∧ '=' ∉ name ∧ Text.OneLine value ∧
      r = { kind, name := some name, value := some value, detail := .envIf subject pattern } := by
  simp only [conditional, Option.bind_eq_bind, Option.bind_eq_some_iff, Option.some.injEq] at h
  obtain ⟨t, ht, rfl⟩ := h
  have hline := oneLine_of_rest? hc ht
  obtain ⟨heq, hname, hvalue⟩ := assignment_spec t
  exact ⟨_, _, fun hm => hline (hname hm), heq, fun hm => hline (hvalue hm), rfl⟩

/-- The reader of assignments under a condition yields a variable without an equals sign. -/
lemma setEnvIf_sound : Sound Kind.setEnvIf.keyword setEnvIf := by
  refine sound_plain (by decide) fun {c r} hc h => ?_
  simp only [Option.bind_eq_bind, Option.bind_eq_some_iff] at h
  obtain ⟨⟨subject, c1⟩, hw1, ⟨pattern, c2⟩, hw2, h⟩ := h
  obtain ⟨hs, hc1⟩ := isName_of_word? hc hw1
  obtain ⟨hp, hc2⟩ := isName_of_word? hc1 hw2
  obtain ⟨name, value, hn, heq, hv, rfl⟩ := conditional_eq_some hc2 h
  exact ⟨.setEnvIf hs hp hn heq hv, rfl⟩

/-- The reader of assignments for browsers yields a variable without an equals sign. -/
lemma browserMatch_sound : Sound Kind.browserMatch.keyword browserMatch := by
  refine sound_plain (by decide) fun {c r} hc h => ?_
  simp only [Option.bind_eq_bind, Option.bind_eq_some_iff] at h
  obtain ⟨⟨pattern, c1⟩, hw, h⟩ := h
  obtain ⟨hp, hc1⟩ := isName_of_word? hc hw
  obtain ⟨name, value, hn, heq, hv, rfl⟩ := conditional_eq_some hc1 h
  exact ⟨.browserMatch hp hn heq hv, rfl⟩

/-- The reader of a positive number is sound for a setting whose rules are well-formed for each such
number. -/
lemma guardNumber_sound {setting : GuardSetting} {values : Nat → GuardValues}
    (hw : ∀ n : Nat, 0 < n → n < 10 ^ Text.maxDigits →
      WellFormed { kind := .guard setting, detail := .guard (values n) }) :
    Sound (Kind.guard setting).keyword (guardNumber setting values) := by
  intro c r remarks hc h
  rw [guardNumber] at h
  cases hp : positive? (c.token.1.getD []) with
  | error fault =>
    rw [hp] at h
    cases h
  | ok o =>
    rw [hp] at h
    cases o with
    | none => cases h
    | some n =>
      simp only [bind, Except.bind, Except.ok.injEq, LineReading.mk.injEq, Option.some.injEq] at h
      obtain ⟨rfl, rfl⟩ := h
      obtain ⟨hpos, hlt⟩ := positive?_eq_some hp
      exact ⟨hw n hpos hlt, remarks_eq nofun, rfl⟩

/-- The reader of actions yields one of the two actions. -/
lemma guardAction_sound : Sound (Kind.guard .action).keyword guardAction := by
  refine sound_plain (by decide) fun {c r} hc h => ?_
  simp only at h
  split at h
  · rename_i ha
    cases h
    simp only [Bool.or_eq_true, beq_iff_eq] at ha
    exact ⟨.guardAction ha, rfl⟩
  · cases h

/-- The reader of the switch for forwarded addresses is sound, whatever word it reads. -/
lemma forwardedFor_sound : Sound (Kind.guard .forwardedFor).keyword forwardedFor := by
  refine sound_plain (by decide) fun {c r} hc h => ?_
  simp only [Option.bind_eq_bind, Option.bind_eq_some_iff, Option.some.injEq] at h
  obtain ⟨word, -, rfl⟩ := h
  exact ⟨.guardSwitch (.inr rfl), rfl⟩

/-- The reader of features is sound; it remarks on the words of its value that are none. -/
lemma options_sound : Sound Kind.options.keyword options := by
  intro c r remarks hc h
  rw [options] at h
  split at h
  · cases h
  · rename_i value hv
    simp only [Except.ok.injEq, LineReading.mk.injEq, Option.some.injEq] at h
    obtain ⟨rfl, rfl⟩ := h
    exact ⟨.options (oneLine_of_rest? hc hv), by simp [Rule.remarks], rfl⟩

/-- Every reader of the keyword table is sound. -/
lemma sound_of_mem_table : ∀ e ∈ table, Sound e.1 e.2 := by
  simp only [table, List.forall_mem_cons, List.not_mem_nil, false_imp_iff, implies_true, and_true]
  exact ⟨header_sound, requestHeader_sound, nameValue_sound (by decide), nameFlag_sound _,
    nameValue_sound (by decide), nameFlag_sound _, order_sound, hosts_sound (by decide),
    hosts_sound (by decide), redirect_sound (.inr rfl), redirect_sound (.inl rfl),
    errorDocument_sound, switch_sound (by decide) fun _ => .expiresActive, expiresByType_sound,
    expiresDefault_sound, setEnvIf_sound, nameValue_sound (by decide), browserMatch_sound,
    switch_sound (by decide) fun _ => .guardSwitch (.inl rfl),
    guardNumber_sound fun _ => .allowedAttempts, guardNumber_sound fun _ => .window,
    guardAction_sound, guardNumber_sound fun _ => .throttleDuration, forwardedFor_sound,
    valueRest_sound (by decide), valueWord_sound (by decide), options_sound, require_sound,
    valueWord_sound (by decide), valueRest_sound (by decide), valueRest_sound (by decide),
    nameList_sound (by decide), valueRest_sound (by decide), nameList_sound (by decide),
    valueRest_sound (by decide), valueWord_sound (by decide), nameList_sound (by decide),
    nameList_sound (by decide)⟩

/-- A line without a line feed is read as a well-formed rule, with the remarks of that rule. -/
lemma wellFormed_of_read {line : Text} (hl : line.OneLine) {r : Rule} {remarks : List Remark}
    (h : read line = .ok ⟨some r, remarks⟩) : WellFormed r ∧ remarks = r.remarks := by
  obtain ⟨e, he, c, hc, hsub⟩ := exists_reader_of_readBy h
  obtain ⟨hw, hremarks, -⟩ := sound_of_mem_table e he (fun hm => hl (hsub hm)) hc
  exact ⟨hw, hremarks⟩

end RuleReader

end HtGate
