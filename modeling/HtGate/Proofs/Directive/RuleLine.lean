import HtGate.Proofs.Directive.WellFormed
/-!
# The written form of a rule

Every rule that a line can be read as is written as a keyword and what follows it. The line is read
back by the reader of that keyword.
-/

namespace HtGate

namespace Printer

open Text (EndsSolid OneLine)

/-- A text between quotes has a line feed only if it has one itself. -/
lemma oneLine_enclose {t : Text} (h : t.OneLine) : (enclose t).OneLine := by
  simpa [enclose] using h

/-- A word in its written form has a line feed only if the word has. -/
lemma oneLine_word {t : Text} (h : t.OneLine) : (word t).OneLine := by
  rw [word]
  split
  · exact oneLine_enclose h
  · exact h

/-- A value in its written form has a line feed only if the value has. -/
lemma oneLine_rest {t : Text} (h : t.OneLine) : (rest t).OneLine := by
  rw [rest]
  split
  · exact oneLine_enclose h
  · exact h

/-- What is written of a value that may be absent. -/
def tail : Option Text → Text
  | some t => ' ' :: rest t
  | none => []

/-- A word and a value that may be absent end solid. -/
lemma endsSolid_word_tail {t : Text} (h : t ≠ []) (value : Option Text) :
    EndsSolid (word t ++ tail value) := by
  cases value with
  | none =>
    rw [tail, List.append_nil]
    exact endsSolid_word h
  | some v => exact ((endsSolid_rest v).cons ' ').append _

/-- A word and a value that may be absent stand on one line. -/
lemma oneLine_word_tail {t : Text} (h : t.OneLine) {value : Option Text}
    (hv : ∀ v ∈ value, OneLine v) : OneLine (word t ++ tail value) := by
  cases value with
  | none => simpa [tail] using oneLine_word h
  | some v => simpa [tail] using ⟨oneLine_word h, oneLine_rest (hv v rfl)⟩

/-- A word can end before a value that may be absent. -/
lemma endsWord_tail (value : Option Text) : Cursor.EndsWord (tail value) := by
  cases value with
  | none => exact nofun
  | some v =>
    rintro c ⟨⟩
    rfl

end Printer

namespace Cursor

/-- A value that may be absent is read back as it was. -/
lemma rest?_of_tail {c : Cursor} {value : Option Text} (h : c.remaining = Printer.tail value) :
    c.rest? = value := by
  cases value with
  | none =>
    rw [rest?_eq, h]
    rfl
  | some v => exact rest?_of_rest h

end Cursor

namespace Rule

open Text (HasSolid OneLine)

/-- Whether the line that a rule is written as is read as the rule. -/
def ReadsBack (r : Rule) : Prop :=
  ∃ t remarks, Printer.rule r = .ok t ∧ RuleReader.read (Text.trim t) = .ok ⟨some r, remarks⟩

/-- How a rule is written: the keyword of its kind, which gives the line to the reader, and after a
blank what the reader is to read. -/
structure Line (r : Rule) (reader : RuleReader) (u : Text) : Prop where
  known : (r.kind.keyword, reader) ∈ RuleReader.table
  printed : Printer.rule r = .ok (r.kind.keyword ++ ' ' :: u)
  solid : HasSolid u
  oneLine : OneLine u

/-- Keywords stand on one line and begin with a letter. -/
lemma keyword_spec {kw : Text} {reader : RuleReader} (h : (kw, reader) ∈ RuleReader.table) :
    kw.OneLine ∧ Text.StartsSolid kw ∧ ∃ c u, kw = c :: u ∧ Text.isAsciiLetter c = true := by
  have hall : ∀ w ∈ RuleReader.table.map (·.1), w.OneLine ∧
      w.head?.any (fun c => Text.isAsciiLetter c && !Text.isWhitespace c) = true := by decide
  obtain ⟨hline, hhead⟩ := hall kw (List.mem_map_of_mem h)
  cases kw with
  | nil => cases hhead
  | cons c u =>
    simp only [List.head?_cons, Option.any_some, Bool.and_eq_true, Bool.not_eq_true'] at hhead
    exact ⟨hline, ⟨c, rfl, hhead.2⟩, c, u, rfl, hhead.1⟩

namespace Line

variable {r : Rule} {reader : RuleReader} {u : Text}

/-- The written form of a rule is one line that begins with a letter. -/
lemma written (h : Line r reader u) :
    ∃ t, Printer.rule r = .ok t ∧ t.OneLine ∧
      ∃ c v, Text.trim t = c :: v ∧ Text.isAsciiLetter c = true := by
  obtain ⟨hkline, hstart, c, w, hkw, hc⟩ := keyword_spec h.known
  refine ⟨_, h.printed, ?_, ?_⟩
  · exact Text.oneLine_append.2 ⟨hkline, Text.oneLine_cons.2 ⟨by decide, h.oneLine⟩⟩
  · obtain ⟨d, hd, hs⟩ := h.solid
    rw [Text.trim_append hstart ⟨d, by simp [hd], hs⟩, hkw]
    exact ⟨c, _, rfl, hc⟩

/-- The written form of a rule is read by its reader, in what follows the keyword. -/
lemma read (h : Line r reader u) :
    ∃ c : Cursor, c.remaining = ' ' :: Text.trimEnd u ∧
      ∀ t, Printer.rule r = .ok t → RuleReader.read (Text.trim t) = reader c := by
  obtain ⟨-, hstart, -⟩ := keyword_spec h.known
  have htrim : Text.trim (r.kind.keyword ++ ' ' :: u) =
      r.kind.keyword ++ ' ' :: Text.trimEnd u := by
    obtain ⟨d, hd, hs⟩ := h.solid
    rw [Text.trim_append hstart ⟨d, by simp [hd], hs⟩]
    exact congrArg _ (Text.trimEnd_append ⟨d, hd, hs⟩ [' '])
  obtain ⟨c, hread, hc⟩ := RuleReader.read_of_keyword h.known (Cursor.endsWord_blank (Text.trimEnd u))
  refine ⟨c, hc, fun t ht => ?_⟩
  obtain rfl := Except.ok.inj (h.printed.symm.trans ht)
  rw [htrim, hread]

/-- A rule reads back exactly if its reader reads it in what follows the keyword. -/
lemma readsBack_iff (h : Line r reader u) :
    ∃ c : Cursor, c.remaining = ' ' :: Text.trimEnd u ∧
      (ReadsBack r ↔ ∃ remarks, reader c = .ok ⟨some r, remarks⟩) := by
  obtain ⟨c, hc, hread⟩ := h.read
  refine ⟨c, hc, ?_⟩
  simp only [ReadsBack, h.printed, Except.ok.injEq, exists_and_left, exists_eq_left',
    hread _ h.printed]

/-- Where what follows the keyword ends solid, the reader has all of it. -/
lemma readsBack_iff_of_endsSolid (h : Line r reader u) (hu : Text.EndsSolid u) :
    ∃ c : Cursor, c.remaining = ' ' :: u ∧
      (ReadsBack r ↔ ∃ remarks, reader c = .ok ⟨some r, remarks⟩) := by
  have := h.readsBack_iff
  rwa [Text.trimEnd_eq_self_iff.2 (.inr hu)] at this

end Line

section Lines

open Printer
open RuleReader (table)

variable {r : Rule} {reader : RuleReader} {lead name value : Text}

/-- The written form of a rule with a name, where it is put together of its parts. -/
lemma rule_eq_of_name {leading : Text} (hlead : leading? r.kind = some leading)
    (hname : r.name = some name) :
    Printer.rule r = .ok (leading ++ ' ' :: (word name ++ tail r.value)) := by
  rw [Printer.rule, hlead]
  simp only [simple, hname, Option.elim_some, Except.ok.injEq, List.append_assoc, List.cons_append]
  cases r.value <;> rfl

/-- The written form of a rule with a value alone, where it is put together of its parts. -/
lemma rule_eq_of_value {leading : Text} (hlead : leading? r.kind = some leading)
    (hname : r.name = none) (hvalue : r.value = some value) :
    Printer.rule r = .ok (leading ++ ' ' :: rest value) := by
  rw [Printer.rule, hlead]
  simp [simple, hname, hvalue]

/-- A rule that is written as its keyword, a word and perhaps a value. -/
lemma line_named (hkw : (r.kind.keyword, reader) ∈ table)
    (hlead : leading? r.kind = some r.kind.keyword) (hname : r.name = some name)
    (hn : name.IsName) (hv : ∀ v ∈ r.value, OneLine v) :
    Line r reader (word name ++ tail r.value) :=
  ⟨hkw, rule_eq_of_name hlead hname, (endsSolid_word_tail hn.ne_nil r.value).hasSolid,
    oneLine_word_tail hn.oneLine hv⟩

/-- A rule that is written as its keyword, another leading word, a word and perhaps a value. -/
lemma line_headed (hkw : (r.kind.keyword, reader) ∈ table)
    (hlead : leading? r.kind = some (r.kind.keyword ++ ' ' :: lead)) (hline : lead.OneLine)
    (hname : r.name = some name) (hn : name.IsName) (hv : ∀ v ∈ r.value, OneLine v) :
    Line r reader (lead ++ ' ' :: (word name ++ tail r.value)) := by
  refine ⟨hkw, ?_, ?_, ?_⟩
  · simpa using rule_eq_of_name hlead hname
  · exact (((endsSolid_word_tail hn.ne_nil r.value).cons ' ').append lead).hasSolid
  · exact Text.oneLine_append.2
      ⟨hline, Text.oneLine_cons.2 ⟨by decide, oneLine_word_tail hn.oneLine hv⟩⟩

/-- A rule that is written as its keyword and a value. -/
lemma line_valued (hkw : (r.kind.keyword, reader) ∈ table)
    (hlead : leading? r.kind = some r.kind.keyword) (hname : r.name = none)
    (hvalue : r.value = some value) (hv : value.OneLine) : Line r reader (rest value) :=
  ⟨hkw, rule_eq_of_value hlead hname hvalue, (endsSolid_rest value).hasSolid, oneLine_rest hv⟩

/-- A rule that is written as its keyword, another leading word and a value. -/
lemma line_headed_valued (hkw : (r.kind.keyword, reader) ∈ table)
    (hlead : leading? r.kind = some (r.kind.keyword ++ ' ' :: lead)) (hline : lead.OneLine)
    (hname : r.name = none) (hvalue : r.value = some value) (hv : value.OneLine) :
    Line r reader (lead ++ ' ' :: rest value) := by
  refine ⟨hkw, ?_, ?_, ?_⟩
  · simpa using rule_eq_of_value hlead hname hvalue
  · exact (((endsSolid_rest value).cons ' ').append lead).hasSolid
  · exact Text.oneLine_append.2 ⟨hline, Text.oneLine_cons.2 ⟨by decide, oneLine_rest hv⟩⟩

/-- A rule that is written as its keyword and a text that ends solid. -/
lemma line_of_text {kw u : Text} (hkw : (kw, reader) ∈ table) (hkind : r.kind.keyword = kw)
    (hprint : Printer.rule r = .ok (kw ++ ' ' :: u)) (hu : Text.EndsSolid u)
    (hline : u.OneLine) : Line r reader u := by
  subst hkind
  exact ⟨hkw, hprint, hu.hasSolid, hline⟩

/-- The words between the keyword of a header and its name. -/
def headerLead (always : Bool) (action : HeaderAction) : Text :=
  (if always then "always ".toList else []) ++ action.word

/-- A change of a response header is written with its action in front of the name, and with `always` in front
of the action if it has that. -/
lemma line_header (always : Bool) (action : HeaderAction) (hn : name.IsName) {value : Option Text}
    (hv : ∀ v ∈ value, OneLine v) :
    Line { kind := .header always action, name := some name, value } RuleReader.header
      (headerLead always action ++ ' ' :: (word name ++ tail value)) :=
  line_headed (show ("Header".toList, _) ∈ table by
      simp only [table, List.mem_cons, true_or]) (by cases always <;> cases action <;> rfl)
    (by cases always <;> cases action <;> decide) rfl hn hv

/-- A request header to set is written with `set` in front of the name. -/
lemma line_requestHeaderSet (hn : name.IsName) (hv : value.OneLine) :
    Line { kind := .requestHeaderSet, name := some name, value := some value }
      RuleReader.requestHeader ("set".toList ++ ' ' :: (word name ++ tail (some value))) :=
  line_headed (show ("RequestHeader".toList, _) ∈ table by
      simp only [table, List.mem_cons, true_or, or_true]) rfl (by decide) rfl hn
    (by rintro v ⟨⟩; exact hv)

/-- A request header to unset is written with `unset` in front of the name, and without a value. -/
lemma line_requestHeaderUnset (hn : name.IsName) :
    Line { kind := .requestHeaderUnset, name := some name } RuleReader.requestHeader
      ("unset".toList ++ ' ' :: (word name ++ tail none)) :=
  line_headed (show ("RequestHeader".toList, _) ∈ table by
      simp only [table, List.mem_cons, true_or, or_true]) rfl (by decide) rfl hn nofun

/-- A name is written as a word, and its value behind it as the rest of the line. -/
lemma line_nameValue {kind : Kind} (hk : kind ∈ Kind.nameValueKinds) (hn : name.IsName)
    (hv : value.OneLine) :
    Line { kind, name := some name, value := some value } (RuleReader.nameValue kind)
      (word name ++ tail (some value)) := by
  have hv : ∀ v ∈ some value, OneLine v := by rintro v ⟨⟩; exact hv
  simp only [Kind.nameValueKinds, List.mem_cons, List.not_mem_nil, or_false] at hk
  rcases hk with rfl | rfl | rfl
  · exact line_named (show ("php_value".toList, _) ∈ table by
      simp only [table, List.mem_cons, true_or, or_true]) rfl rfl hn hv
  · exact line_named (show ("php_admin_value".toList, _) ∈ table by
      simp only [table, List.mem_cons, true_or, or_true]) rfl rfl hn hv
  · exact line_named (show ("SetEnv".toList, _) ∈ table by
      simp only [table, List.mem_cons, true_or, or_true]) rfl rfl hn hv

/-- A word that switches on or off has neither whitespace nor quotes. -/
lemma caseless_of_onOff? {t : Text} {on : Bool} (h : RuleReader.onOff? t = some on) :
    t ≠ [] ∧ ∀ c ∈ t, Text.isWhitespace c = false ∧ c ≠ '"' := by
  simp only [RuleReader.onOff?] at h
  split at h
  · rename_i heq
    rw [beq_iff_eq] at heq
    refine ⟨?_, Text.not_isCaseless_of_lower heq (by decide)⟩
    rintro rfl
    revert heq
    decide
  · split at h
    · rename_i heq
      rw [beq_iff_eq] at heq
      refine ⟨?_, Text.not_isCaseless_of_lower heq (by decide)⟩
      rintro rfl
      revert heq
      decide
    · cases h

/-- A word that switches on or off stands on one line. -/
lemma oneLine_of_onOff? {t : Text} {on : Bool} (h : RuleReader.onOff? t = some on) :
    OneLine t := by
  intro hm
  have := ((caseless_of_onOff? h).2 _ hm).1
  revert this
  decide

/-- A flag is written behind its name in the words in which it was read. -/
lemma line_nameFlag (admin : Bool) (hn : name.IsName) (hv : value.OneLine) :
    Line { kind := .phpFlag admin, name := some name, value := some value }
      (RuleReader.nameFlag (.phpFlag admin)) (word name ++ tail (some value)) := by
  have hv : ∀ v ∈ some value, OneLine v := by rintro v ⟨⟩; exact hv
  cases admin with
  | false =>
    exact line_named (show ("php_flag".toList, _) ∈ table by
      simp only [table, List.mem_cons, true_or, or_true]) rfl rfl hn hv
  | true =>
    exact line_named (show ("php_admin_flag".toList, _) ∈ table by
      simp only [table, List.mem_cons, true_or, or_true]) rfl rfl hn hv

/-- A list is written behind its name if there is one. -/
lemma line_nameList {kind : Kind} (hk : kind ∈ Kind.nameListKinds) (hn : name.IsName)
    {value : Option Text} (hv : ∀ v ∈ value, OneLine v) :
    Line { kind, name := some name, value } (RuleReader.nameList kind)
      (word name ++ tail value) := by
  simp only [Kind.nameListKinds, List.mem_cons, List.not_mem_nil, or_false] at hk
  rcases hk with rfl | rfl | rfl | rfl
  · exact line_named (show ("AddHandler".toList, _) ∈ table by
      simp only [table, List.mem_cons, true_or, or_true]) rfl rfl hn hv
  · exact line_named (show ("AddType".toList, _) ∈ table by
      simp only [table, List.mem_cons, true_or, or_true]) rfl rfl hn hv
  · exact line_named (show ("AddEncoding".toList, _) ∈ table by
      simp only [table, List.mem_cons, true_or, or_true]) rfl rfl hn hv
  · exact line_named (show ("AddCharset".toList, _) ∈ table by
      simp only [table, List.mem_cons, true_or, or_true]) rfl rfl hn hv

/-- A value of one word is written as the rest of the line, not as a word. -/
lemma line_valueWord {kind : Kind} (hk : kind ∈ Kind.valueWordKinds) (hv : value.OneLine) :
    Line { kind, value := some value } (RuleReader.valueWord kind) (rest value) := by
  simp only [Kind.valueWordKinds, List.mem_cons, List.not_mem_nil, or_false] at hk
  rcases hk with rfl | rfl | rfl
  · exact line_valued (show ("AuthType".toList, _) ∈ table by
      simp only [table, List.mem_cons, true_or, or_true]) rfl rfl rfl hv
  · exact line_valued (show ("ForceType".toList, _) ∈ table by
      simp only [table, List.mem_cons, true_or, or_true]) rfl rfl rfl hv
  · exact line_valued (show ("BruteForceProtectPath".toList, _) ∈ table by
      simp only [table, List.mem_cons, true_or, or_true]) rfl rfl rfl hv

/-- Hosts are written behind the word `from`. -/
lemma line_hosts (hv : value.OneLine) :
    Line { kind := .allowFrom, value := some value } (RuleReader.hosts .allowFrom)
        ("from".toList ++ ' ' :: rest value) ∧
      Line { kind := .denyFrom, value := some value } (RuleReader.hosts .denyFrom)
        ("from".toList ++ ' ' :: rest value) :=
  ⟨line_headed_valued (show ("Allow".toList, _) ∈ table by
      simp only [table, List.mem_cons, true_or, or_true]) rfl (by decide) rfl rfl hv,
    line_headed_valued (show ("Deny".toList, _) ∈ table by
      simp only [table, List.mem_cons, true_or, or_true]) rfl (by decide) rfl rfl hv⟩

/-- Hosts to let in are written behind `ip`, and hosts not to let in behind `not ip`. -/
lemma line_requireIp (hv : value.OneLine) :
    Line { kind := .requireIp, value := some value } RuleReader.require
        ("ip".toList ++ ' ' :: rest value) ∧
      Line { kind := .requireNotIp, value := some value } RuleReader.require
        ("not ip".toList ++ ' ' :: rest value) :=
  ⟨line_headed_valued (show ("Require".toList, _) ∈ table by
      simp only [table, List.mem_cons, true_or, or_true]) rfl (by decide) rfl rfl hv,
    line_headed_valued (show ("Require".toList, _) ∈ table by
      simp only [table, List.mem_cons, true_or, or_true]) rfl (by decide) rfl rfl hv⟩

/-- A realm is written between quotes. -/
lemma line_authName (hv : value.OneLine) :
    Line { kind := .authName, value := some value } (RuleReader.valueRest .authName)
      (enclose value) :=
  line_of_text (show ("AuthName".toList, _) ∈ table by
      simp only [table, List.mem_cons, true_or, or_true]) rfl rfl
    (Text.endsSolid_concat ('"' :: value) rfl) (oneLine_enclose hv)

/-- A value that is the rest of a line is written as one. -/
lemma line_valueRest (hv : value.OneLine) {kind : Kind}
    (hk : kind ∈ [.authUserFile, .setHandler, .directoryIndex, .guard .whitelist]) :
    Line { kind, value := some value } (RuleReader.valueRest kind) (rest value) := by
  simp only [List.mem_cons, List.not_mem_nil, or_false] at hk
  rcases hk with rfl | rfl | rfl | rfl
  · exact line_valued (show ("AuthUserFile".toList, _) ∈ table by
      simp only [table, List.mem_cons, true_or, or_true]) rfl rfl rfl hv
  · exact line_valued (show ("SetHandler".toList, _) ∈ table by
      simp only [table, List.mem_cons, true_or, or_true]) rfl rfl rfl hv
  · exact line_valued (show ("DirectoryIndex".toList, _) ∈ table by
      simp only [table, List.mem_cons, true_or, or_true]) rfl rfl rfl hv
  · exact line_valued (show ("BruteForceWhitelist".toList, _) ∈ table by
      simp only [table, List.mem_cons, true_or, or_true]) rfl rfl rfl hv

/-- Features are written as they were read, whatever they switch. -/
lemma line_options {flags : OptionFlags} (hv : value.OneLine) :
    Line { kind := .options, value := some value, detail := .options flags } RuleReader.options
      (rest value) :=
  line_valued (show ("Options".toList, _) ∈ table by
      simp only [table, List.mem_cons, true_or, or_true]) rfl rfl rfl hv

/-- Whom else a Require line lets in is written in fixed words. -/
lemma line_require :
    Line { kind := .requireAllGranted } RuleReader.require "all granted".toList ∧
      Line { kind := .requireAllDenied } RuleReader.require "all denied".toList ∧
      Line { kind := .requireValidUser } RuleReader.require "valid-user".toList :=
  ⟨line_of_text (show ("Require".toList, _) ∈ table by
      simp only [table, List.mem_cons, true_or, or_true]) rfl rfl ⟨'d', rfl, rfl⟩ (by decide),
    line_of_text (show ("Require".toList, _) ∈ table by
      simp only [table, List.mem_cons, true_or, or_true]) rfl rfl ⟨'d', rfl, rfl⟩ (by decide),
    line_of_text (show ("Require".toList, _) ∈ table by
      simp only [table, List.mem_cons, true_or, or_true]) rfl rfl ⟨'r', rfl, rfl⟩ (by decide)⟩

/-- An order is written in its two words, with capitals. -/
lemma line_order :
    Line { kind := .order, detail := .order AccessOrder.allowDeny } RuleReader.order
        "Allow,Deny".toList ∧
      Line { kind := .order, detail := .order AccessOrder.denyAllow } RuleReader.order
        "Deny,Allow".toList :=
  ⟨line_of_text (show ("Order".toList, _) ∈ table by
      simp only [table, List.mem_cons, true_or, or_true]) rfl rfl ⟨'y', rfl, rfl⟩ (by decide),
    line_of_text (show ("Order".toList, _) ∈ table by
      simp only [table, List.mem_cons, true_or, or_true]) rfl rfl ⟨'w', rfl, rfl⟩ (by decide)⟩

/-- The digits of a number stand on one line. -/
lemma oneLine_ofNat (n : Nat) : OneLine (Text.ofNat n) := by
  intro hm
  have := (Text.not_isWhitespace_of_isDigit (Text.isDigit_of_mem_ofNat hm)).1
  revert this
  decide

/-- The digits of a number end solid. -/
lemma endsSolid_ofNat (n : Nat) : Text.EndsSolid (Text.ofNat n) :=
  Text.endsSolid_of_all (Text.ofNat_ne_nil n) fun _ hc =>
    (Text.not_isWhitespace_of_isDigit (Text.isDigit_of_mem_ofNat hc)).1

/-- The status of a redirect with the blank after it, unless it is the usual one. -/
def statusLead (status : Nat) : Text :=
  if status = 302 then [] else Text.ofNat status ++ [' ']

/-- A redirect of either kind: the target is the name or the pattern. -/
def redirectRule (kind : Kind) (status : Nat) (target url : Text) : Rule :=
  if kind = .redirectMatch then
    { kind, value := some url, detail := .redirect status (some target) }
  else { kind, name := some target, value := some url, detail := .redirect status none }

/-- A redirect is written with its status in front unless that goes without saying, then its target, then
where it leads. -/
lemma line_redirect {kind : Kind} (hk : kind = .redirect ∨ kind = .redirectMatch) (status : Nat)
    {target url : Text} (ht : target.IsName) (hu : url.OneLine) :
    Line (redirectRule kind status target url) (RuleReader.redirect kind)
      (statusLead status ++ (word target ++ ' ' :: rest url)) := by
  have hline : OneLine (statusLead status ++ (word target ++ ' ' :: rest url)) := by
    have hlead : OneLine (statusLead status) := by
      rw [statusLead]
      split
      · decide
      · simpa using oneLine_ofNat status
    simpa using ⟨hlead, oneLine_word ht.oneLine, oneLine_rest hu⟩
  have hsolid := (((endsSolid_rest url).cons ' ').append (word target)).append (statusLead status)
  -- without a status, the blank before the target is the one after the keyword
  have hlead (keyword : Text) : keyword ++ (if (status : Int) == 302 then []
      else ' ' :: Text.ofInt status) ++ ' ' :: word target ++ ' ' :: rest url =
      keyword ++ ' ' :: (statusLead status ++ (word target ++ ' ' :: rest url)) := by
    by_cases h : status = 302
    · simp [statusLead, h]
    · have h' : (status : Int) ≠ 302 := by omega
      simp [statusLead, h, h', Text.ofInt]
  rcases hk with rfl | rfl
  · exact line_of_text (show ("Redirect".toList, _) ∈ table by
      simp only [table, List.mem_cons, true_or, or_true]) rfl (congrArg Except.ok (hlead _))
      hsolid hline
  · exact line_of_text (show ("RedirectMatch".toList, _) ∈ table by
      simp only [table, List.mem_cons, true_or, or_true]) rfl
      (congrArg Except.ok (hlead _)) hsolid hline

/-- The document for an error is written behind the status, as it was read. -/
lemma line_errorDocument {code : Nat} (hne : value ≠ []) (htrim : Text.trim value = value)
    (hv : value.OneLine) :
    Line { kind := .errorDocument, value := some value, detail := .errorDocument code }
      RuleReader.errorDocument (Text.ofNat code ++ ' ' :: value) := by
  have hsolid := ((Text.trim_eq_self_iff.1 htrim).resolve_left hne).2
  refine line_of_text (show ("ErrorDocument".toList, _) ∈ table by
      simp only [table, List.mem_cons, true_or, or_true]) rfl ?_ ((hsolid.cons ' ').append _) ?_
  · exact congrArg Except.ok (List.append_assoc "ErrorDocument ".toList _ _)
  · simpa using ⟨oneLine_ofNat code, hv⟩

/-- The word that switches ends solid and stands on one line. -/
lemma onOff_spec (on : Bool) : Text.EndsSolid (onOff on) ∧ OneLine (onOff on) := by
  cases on
  · exact ⟨⟨'f', rfl, rfl⟩, by decide⟩
  · exact ⟨⟨'n', rfl, rfl⟩, by decide⟩

/-- A switch is written as `On` or `Off`. -/
lemma line_switch (on : Bool) :
    Line { kind := .expiresActive, detail := .expires on 0 }
        (RuleReader.switch .expiresActive (.expires · 0)) (onOff on) ∧
      Line { kind := .guard .protection, detail := .guard { enabled := on } }
        (RuleReader.switch (.guard .protection) fun enabled => .guard { enabled }) (onOff on) ∧
      Line { kind := .guard .forwardedFor, detail := .guard { enabled := on } }
        RuleReader.forwardedFor (onOff on) := by
  obtain ⟨hsolid, hline⟩ := onOff_spec on
  refine ⟨?_, ?_, ?_⟩
  · exact line_of_text (show ("ExpiresActive".toList, _) ∈ table by
      simp only [table, List.mem_cons, true_or, or_true]) rfl
      (by simp [Printer.rule, leading?, detailed]) hsolid hline
  · exact line_of_text (show ("BruteForceProtection".toList, _) ∈ table by
      simp only [table, List.mem_cons, true_or, or_true]) rfl
      (by simp [Printer.rule, leading?, detailed]) hsolid hline
  · exact line_of_text (show ("BruteForceXForwardedFor".toList, _) ∈ table by
      simp only [table, List.mem_cons, true_or, or_true]) rfl
      (by simp [Printer.rule, leading?, detailed]) hsolid hline

/-- The lifetime of a type is written between quotes behind the type, which has none around it. -/
lemma line_expiresByType {seconds : Int} (hn : name.IsName) (hv : value.OneLine) :
    Line { kind := .expiresByType, name := some name, value := some value,
            detail := .expires false seconds }
      RuleReader.expiresByType (name ++ ' ' :: enclose value) := by
  refine line_of_text (show ("ExpiresByType".toList, _) ∈ table by
      simp only [table, List.mem_cons, true_or, or_true]) rfl ?_ ?_ ?_
  · exact congrArg Except.ok (List.append_assoc "ExpiresByType ".toList _ _)
  · exact ((Text.endsSolid_concat ('"' :: value) rfl).cons ' ').append name
  · simpa using ⟨hn.oneLine, oneLine_enclose hv⟩

/-- The default lifetime is written between quotes. -/
lemma line_expiresDefault {seconds : Int} (hv : value.OneLine) :
    Line { kind := .expiresDefault, value := some value, detail := .expires false seconds }
      RuleReader.expiresDefault (enclose value) :=
  line_of_text (show ("ExpiresDefault".toList, _) ∈ table by
      simp only [table, List.mem_cons, true_or, or_true]) rfl rfl
    (Text.endsSolid_concat ('"' :: value) rfl) (oneLine_enclose hv)

/-- The assignment of a rule that sets a variable. -/
def assigned (name value : Text) : Text := name ++ '=' :: value

/-- An assignment has a character that is no whitespace. -/
lemma hasSolid_assigned (name value : Text) : HasSolid (assigned name value) :=
  ⟨'=', by simp [assigned], rfl⟩

/-- An assignment under a condition is written behind subject and pattern, which are words. -/
lemma line_setEnvIf {subject pattern : Text} (hs : subject.IsName) (hp : pattern.IsName)
    (hn : name.OneLine) (hv : value.OneLine) :
    Line { kind := .setEnvIf, name := some name, value := some value,
            detail := .envIf subject pattern }
      RuleReader.setEnvIf
      (word subject ++ ' ' :: (word pattern ++ ' ' :: assigned name value)) := by
  refine ⟨show ("SetEnvIf".toList, _) ∈ table by
    simp only [table, List.mem_cons, true_or, or_true], ?_, ?_, ?_⟩
  · refine congrArg Except.ok ?_
    show _ = "SetEnvIf".toList ++ ' ' :: _
    simp [assigned]
  · obtain ⟨c, hc, hsolid⟩ := hasSolid_assigned name value
    exact ⟨c, by simp [hc], hsolid⟩
  · simpa [assigned] using ⟨oneLine_word hs.oneLine, oneLine_word hp.oneLine, hn, hv⟩

/-- An assignment for browsers is written behind its pattern, which is a word. -/
lemma line_browserMatch {pattern : Text} (hp : pattern.IsName) (hn : name.OneLine)
    (hv : value.OneLine) :
    Line { kind := .browserMatch, name := some name, value := some value,
            detail := .envIf "User-Agent".toList pattern }
      RuleReader.browserMatch (word pattern ++ ' ' :: assigned name value) := by
  refine ⟨show ("BrowserMatch".toList, _) ∈ table by
    simp only [table, List.mem_cons, true_or, or_true], ?_, ?_, ?_⟩
  · refine congrArg Except.ok ?_
    show _ = "BrowserMatch".toList ++ ' ' :: _
    simp [assigned]
  · obtain ⟨c, hc, hsolid⟩ := hasSolid_assigned name value
    exact ⟨c, by simp [hc], hsolid⟩
  · simpa [assigned] using ⟨oneLine_word hp.oneLine, hn, hv⟩

/-- A number is written in decimal digits. -/
lemma line_guardNumber (n : Nat) :
    Line { kind := .guard .allowedAttempts, detail := .guard { allowedAttempts := n } }
        (RuleReader.guardNumber .allowedAttempts fun n => { allowedAttempts := n })
        (Text.ofNat n) ∧
      Line { kind := .guard .window, detail := .guard { windowSeconds := n } }
        (RuleReader.guardNumber .window fun n => { windowSeconds := n }) (Text.ofNat n) ∧
      Line { kind := .guard .throttleDuration, detail := .guard { throttleMillis := n } }
        (RuleReader.guardNumber .throttleDuration fun n => { throttleMillis := n })
        (Text.ofNat n) := by
  refine ⟨?_, ?_, ?_⟩
  · exact line_of_text (show ("BruteForceAllowedAttempts".toList, _) ∈ table by
      simp only [table, List.mem_cons, true_or, or_true]) rfl
      (by simp [Printer.rule, leading?, detailed, Text.ofInt]) (endsSolid_ofNat n) (oneLine_ofNat n)
  · exact line_of_text (show ("BruteForceWindow".toList, _) ∈ table by
      simp only [table, List.mem_cons, true_or, or_true]) rfl
      (by simp [Printer.rule, leading?, detailed, Text.ofInt]) (endsSolid_ofNat n) (oneLine_ofNat n)
  · exact line_of_text (show ("BruteForceThrottleDuration".toList, _) ∈ table by
      simp only [table, List.mem_cons, true_or, or_true]) rfl
      (by simp [Printer.rule, leading?, detailed, Text.ofInt]) (endsSolid_ofNat n) (oneLine_ofNat n)

/-- An action is written in the word for it. -/
lemma line_guardAction :
    Line { kind := .guard .action, detail := .guard { action := "block".toList } }
        RuleReader.guardAction "block".toList ∧
      Line { kind := .guard .action, detail := .guard { action := "throttle".toList } }
        RuleReader.guardAction "throttle".toList :=
  ⟨line_of_text (show ("BruteForceAction".toList, _) ∈ table by
      simp only [table, List.mem_cons, true_or, or_true]) rfl rfl ⟨'k', rfl, rfl⟩ (by decide),
    line_of_text (show ("BruteForceAction".toList, _) ∈ table by
      simp only [table, List.mem_cons, true_or, or_true]) rfl rfl ⟨'e', rfl, rfl⟩ (by decide)⟩

/-- Every rule that a line can be read as has a written form. -/
lemma WellFormed.line {r : Rule} (h : WellFormed r) : ∃ reader u, Line r reader u := by
  cases h with
  | header hne hn hv => exact ⟨_, _, line_header _ _ hn (by rintro v ⟨⟩; exact hv)⟩
  | headerUnset hn => exact ⟨_, _, line_header _ _ hn nofun⟩
  | requestHeaderSet hn hv => exact ⟨_, _, line_requestHeaderSet hn hv⟩
  | requestHeaderUnset hn => exact ⟨_, _, line_requestHeaderUnset hn⟩
  | nameValue hk hn hv => exact ⟨_, _, line_nameValue hk hn hv⟩
  | nameFlag hn hon => exact ⟨_, _, line_nameFlag _ hn (oneLine_of_onOff? hon)⟩
  | valueWord hk hv => exact ⟨_, _, line_valueWord hk hv.oneLine⟩
  | valueRest hk hv =>
    -- the readers of hosts, of Require and of names have lemmas of their own
    simp only [Kind.valueRestKinds, List.mem_cons, List.not_mem_nil, or_false] at hk
    rcases hk with rfl | rfl | rfl | rfl | rfl | rfl | rfl | rfl | rfl
    · exact ⟨_, _, (line_hosts hv).1⟩
    · exact ⟨_, _, (line_hosts hv).2⟩
    · exact ⟨_, _, (line_requireIp hv).1⟩
    · exact ⟨_, _, (line_requireIp hv).2⟩
    · exact ⟨_, _, line_authName hv⟩
    all_goals exact ⟨_, _, line_valueRest hv (by decide)⟩
  | nameList hk hn hv => exact ⟨_, _, line_nameList hk hn hv⟩
  | bare hk =>
    simp only [Kind.bareKinds, List.mem_cons, List.not_mem_nil, or_false] at hk
    rcases hk with rfl | rfl | rfl
    · exact ⟨_, _, line_require.1⟩
    · exact ⟨_, _, line_require.2.1⟩
    · exact ⟨_, _, line_require.2.2⟩
  | order ho =>
    rcases ho with rfl | rfl
    · exact ⟨_, _, line_order.1⟩
    · exact ⟨_, _, line_order.2⟩
  | redirect hlow hhigh ht hu => exact ⟨_, _, line_redirect (.inl rfl) _ ht hu⟩
  | redirectMatch hlow hhigh ht hu => exact ⟨_, _, line_redirect (.inr rfl) _ ht hu⟩
  | errorDocument hlow hhigh hne htrim hv => exact ⟨_, _, line_errorDocument hne htrim hv⟩
  | expiresActive => exact ⟨_, _, (line_switch _).1⟩
  | expiresByType hn hv hd => exact ⟨_, _, line_expiresByType hn hv⟩
  | expiresDefault hv hd => exact ⟨_, _, line_expiresDefault hv⟩
  | setEnvIf hs hp hn heq hv => exact ⟨_, _, line_setEnvIf hs hp hn hv⟩
  | browserMatch hp hn heq hv => exact ⟨_, _, line_browserMatch hp hn hv⟩
  | guardSwitch hs =>
    rcases hs with rfl | rfl
    · exact ⟨_, _, (line_switch _).2.1⟩
    · exact ⟨_, _, (line_switch _).2.2⟩
  | allowedAttempts hpos hlt => exact ⟨_, _, (line_guardNumber _).1⟩
  | window hpos hlt => exact ⟨_, _, (line_guardNumber _).2.1⟩
  | throttleDuration hpos hlt => exact ⟨_, _, (line_guardNumber _).2.2⟩
  | guardAction ha =>
    rcases ha with rfl | rfl
    · exact ⟨_, _, line_guardAction.1⟩
    · exact ⟨_, _, line_guardAction.2⟩
  | options hv => exact ⟨_, _, line_options hv⟩

end Lines

end Rule

end HtGate
