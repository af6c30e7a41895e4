import HtGate.Proofs.Directive.RuleLine
/-!
# Rules that survive writing and reading

The written form of a rule is read as the same rule again exactly if the rule is stable. Most rules are.
Those that are not hold a word in which a quote and whitespace meet, a target that is taken for a status,
an assignment that is trimmed or loses its quotes, or more than one word where the written form has no
quotes around it.
-/

namespace HtGate

namespace Text

/-- A value that reading up to the end of a line leaves alone: there is nothing to trim and no pair of
quotes around it. -/
def StaysValue (t : Text) : Prop :=
  trim t = t ∧ ¬(2 ≤ t.length ∧ t.head? = some '"' ∧ t.getLast? = some '"')

/-- A target that is read back as the target: one word, which is not taken for a status where no status
is written in front of it. -/
def StaysTarget (t : Text) (status : Int) : Prop :=
  t.IsPlain ∧ (status = 302 → RuleReader.status? t = .ok none)

end Text

namespace Rule

/-- Whether the written form of a rule says what the rule says. -/
def Stable (r : Rule) : Prop :=
  match r.kind, r.detail with
  | .redirect, .redirect status _ => ∀ t ∈ r.name, t.StaysTarget status
  | .redirectMatch, .redirect status pattern => ∀ t ∈ pattern, t.StaysTarget status
  | .setEnvIf, .envIf subject pattern =>
    subject.IsPlain ∧ pattern.IsPlain ∧
      Text.StaysValue (assigned (r.name.getD []) (r.value.getD []))
  | .browserMatch, .envIf _ pattern =>
    pattern.IsPlain ∧ Text.StaysValue (assigned (r.name.getD []) (r.value.getD []))
  | .expiresByType, _ => ∀ t ∈ r.name, ∀ c ∈ t, Text.isBlank c = false
  | .authType, _ | .forceType, _ | .guard .protectPath, _ => ∀ v ∈ r.value, v.StaysWord
  | _, _ => ∀ t ∈ r.name, t.IsPlain

end Rule

namespace Cursor

/-- Reading up to the end of a line leaves exactly those values alone. -/
lemma unwrap_trim_eq_iff {t : Text} : unwrap (Text.trim t) = t ↔ t.StaysValue := by
  constructor
  · intro h
    have hlen : (Text.trim t).length = t.length := by
      have hle : (unwrap (Text.trim t)).length ≤ (Text.trim t).length := by
        rcases unwrap_cases (Text.trim t) with ⟨hu, -⟩ | ⟨s, hs, hu⟩
        · rw [hu]
        · rw [hu, hs, Printer.enclose, List.length_append, List.length_cons]
          omega
      rw [h] at hle
      exact le_antisymm (Text.length_trim_le t) hle
    have htrim : Text.trim t = t := Text.trim_eq_of_length hlen
    rw [htrim] at h
    refine ⟨htrim, ?_⟩
    rcases unwrap_cases t with ⟨-, hq⟩ | ⟨s, hs, hu⟩
    · exact hq
    · -- a text between quotes is longer than what it is without them
      rw [h] at hu
      have hlonger := congrArg List.length hs
      rw [hu, Printer.enclose, List.length_append, List.length_cons] at hlonger
      omega
  · rintro ⟨htrim, hq⟩
    rw [htrim]
    rcases unwrap_cases t with ⟨hu, -⟩ | ⟨s, hs, -⟩
    · exact hu
    · refine absurd ?_ hq
      rw [hs]
      exact ⟨by simp [Printer.enclose], rfl, List.getLast?_concat⟩

/-- A reader that begins with a word reads a rule with that word exactly if its written form is read
back, and what follows it is read as the rule asks for. -/
lemma word?_bind_iff {c : Cursor} {t u : Text} {f : Text × Cursor → Option Rule} {r : Rule}
    {p : Prop} (ht : t.IsWord) (hu : EndsWord u) (h : c.remaining = ' ' :: (Printer.word t ++ u))
    (hf : ∀ s c', f (s, c') = some r → s = t)
    (hr : ∀ c', c'.remaining = u → (f (t, c') = some r ↔ p)) :
    c.word?.bind f = some r ↔ t.IsPlain ∧ p := by
  constructor
  · intro hread
    obtain ⟨⟨s, c1⟩, hw, hs⟩ := Option.bind_eq_some_iff.1 hread
    obtain rfl := hf s c1 hs
    have hp := isPlain_of_word? ht h hw
    obtain ⟨c2, hw2, hc2⟩ := word?_of_plain ht hp hu h
    rw [hw, Option.some.injEq, Prod.mk.injEq] at hw2
    rw [← hw2.2] at hc2
    exact ⟨hp, (hr c1 hc2).1 hs⟩
  · rintro ⟨hp, hrest⟩
    obtain ⟨c1, hw, hc1⟩ := word?_of_plain ht hp hu h
    rw [hw, Option.bind_some]
    exact (hr c1 hc1).2 hrest

end Cursor

namespace RuleReader

open Cursor

/-- A rule with a name that a plain reader reads, which begins with the name. -/
lemma headerArguments_iff {kind : Kind} {hasValue : Bool} {c : Cursor} {name : Text}
    {value : Option Text} (hn : name.IsName) (hvalue : value.isSome = hasValue)
    (h : c.remaining = ' ' :: (Printer.word name ++ Printer.tail value)) :
    headerArguments kind hasValue c = some { kind, name := some name, value } ↔ name.IsPlain := by
  have hiff := word?_bind_iff (r := { kind, name := some name, value }) (p := True) hn.toIsWord
    (Printer.endsWord_tail value) h
    (f := fun w => if hasValue then do
        let value ← w.2.rest?
        some { kind, name := w.1, value }
      else some { kind, name := w.1 }) ?_ ?_
  · rw [and_true] at hiff
    exact hiff
  · intro s c1 hs
    cases hasValue with
    | true =>
      simp only [if_true, Option.bind_eq_bind, Option.bind_eq_some_iff, Option.some.injEq] at hs
      obtain ⟨v, -, heq⟩ := hs
      cases heq
      rfl
    | false =>
      cases hs
      rfl
  · intro c1 hc1
    have hrest := rest?_of_tail hc1
    cases value with
    | none =>
      cases hvalue
      simp
    | some v =>
      cases hvalue
      simp [hrest]

/-- The words between the keyword of a header and its name are read back. -/
lemma header_lead {always : Bool} {action : HeaderAction} {c : Cursor} {u : Text}
    (h : c.remaining = ' ' :: (Rule.headerLead always action ++ ' ' :: u)) :
    ∃ c', c'.remaining = ' ' :: u ∧
      header c = .ok ⟨headerArguments (.header always action) (action != .unset) c', []⟩ := by
  have hword : Text.IsKeyword action.word := by cases action <;> decide
  have halways : Text.IsKeyword "always".toList := by decide
  have hnext : ∃ c1, c.keyword "always".toList = (always, c1) ∧
      c1.remaining.dropWhile Text.isBlank = action.word ++ ' ' :: u := by
    cases always with
    | true =>
      have hskip : c.remaining.dropWhile Text.isBlank =
          "always".toList ++ ' ' :: (action.word ++ ' ' :: u) := by
        rw [h]
        exact halways.dropWhile_cons _
      obtain ⟨c1, h1, hr1⟩ := keyword_true halways halways rfl (endsWord_blank _) hskip
      exact ⟨c1, h1, by rw [hr1, hword.dropWhile_cons]⟩
    | false =>
      have hskip : c.remaining.dropWhile Text.isBlank = action.word ++ ' ' :: u := by
        rw [h]
        exact hword.dropWhile_cons _
      have hlow : Text.lower "always".toList ≠ Text.lower action.word := by
        cases action <;> decide
      obtain ⟨c1, h1, hr1⟩ := keyword_false halways hword hlow (endsWord_blank _) hskip
      exact ⟨c1, h1, by rw [hr1, hword.dropWhile_append]⟩
  -- whether or not the word always was there, the action comes next
  obtain ⟨c1, h1, hr1⟩ := hnext
  have hquote : action.word.head? ≠ some '"' := by cases action <;> decide
  obtain ⟨c2, h2, hr2⟩ := lowerToken_of_keyword hword hquote (endsWord_blank _) hr1
  have hfind : HeaderAction.all.find? (·.word == Text.lower action.word) = some action := by
    cases action <;> decide
  refine ⟨c2, hr2, ?_⟩
  simp only [header, plain, h1, h2, hfind, Option.bind_eq_bind, Option.bind_some]

/-- The word between the keyword of a request header and its name is read back. -/
lemma requestHeader_lead {c : Cursor} {u : Text} :
    (c.remaining = ' ' :: ("set".toList ++ ' ' :: u) →
      ∃ c', c'.remaining = ' ' :: u ∧
        requestHeader c = .ok ⟨headerArguments .requestHeaderSet true c', []⟩) ∧
      (c.remaining = ' ' :: ("unset".toList ++ ' ' :: u) →
        ∃ c', c'.remaining = ' ' :: u ∧
          requestHeader c = .ok ⟨headerArguments .requestHeaderUnset false c', []⟩) := by
  have hset : Text.IsKeyword "set".toList := by decide
  have hunset : Text.IsKeyword "unset".toList := by decide
  constructor
  · intro h
    obtain ⟨c1, h1, hr1⟩ := lowerToken_of_keyword hset (by decide) (endsWord_blank u)
      (by rw [h]; exact hset.dropWhile_cons _)
    refine ⟨c1, hr1, ?_⟩
    have hlow : Text.lower "set".toList = "set".toList := by decide
    simp only [requestHeader, plain, h1, hlow, beq_self_eq_true, if_true]
  · intro h
    obtain ⟨c1, h1, hr1⟩ := lowerToken_of_keyword hunset (by decide) (endsWord_blank u)
      (by rw [h]; exact hunset.dropWhile_cons _)
    refine ⟨c1, hr1, ?_⟩
    have hlow : Text.lower "unset".toList = "unset".toList := by decide
    have hne : ("unset".toList == "set".toList) = false := by decide
    simp only [requestHeader, plain, h1, hlow, hne, beq_self_eq_true, if_true, Bool.false_eq_true,
      if_false]

end RuleReader

namespace Rule

open Cursor RuleReader
open Printer (endsSolid_word_tail endsSolid_rest)

variable {name value : Text}

/-- A change of a response header is read back exactly if its name is plain. -/
lemma readsBack_header (always : Bool) (action : HeaderAction) (hn : name.IsName)
    {value : Option Text} (hv : ∀ v ∈ value, Text.OneLine v)
    (hvalue : value.isSome = (action != .unset)) :
    ReadsBack { kind := .header always action, name := some name, value } ↔ name.IsPlain := by
  obtain ⟨c, hc, hiff⟩ := (line_header always action hn hv).readsBack_iff_of_endsSolid
    (((endsSolid_word_tail hn.ne_nil value).cons ' ').append _)
  obtain ⟨c1, hc1, hread⟩ := header_lead hc
  rw [hiff, hread]
  simpa using headerArguments_iff hn hvalue hc1

/-- A request header to set is read back exactly if its name is plain. -/
lemma readsBack_requestHeaderSet (hn : name.IsName) (hv : value.OneLine) :
    ReadsBack { kind := .requestHeaderSet, name := some name, value := some value } ↔
      name.IsPlain := by
  obtain ⟨c, hc, hiff⟩ := (line_requestHeaderSet hn hv).readsBack_iff_of_endsSolid
    (((endsSolid_word_tail hn.ne_nil _).cons ' ').append _)
  obtain ⟨c1, hc1, hread⟩ := requestHeader_lead.1 hc
  rw [hiff, hread]
  have hsome : (some value).isSome = true := rfl
  simpa using headerArguments_iff hn hsome hc1

/-- A request header to unset is read back exactly if its name is plain. -/
lemma readsBack_requestHeaderUnset (hn : name.IsName) :
    ReadsBack { kind := .requestHeaderUnset, name := some name } ↔ name.IsPlain := by
  obtain ⟨c, hc, hiff⟩ := (line_requestHeaderUnset hn).readsBack_iff_of_endsSolid
    (((endsSolid_word_tail hn.ne_nil _).cons ' ').append _)
  obtain ⟨c1, hc1, hread⟩ := requestHeader_lead.2 hc
  rw [hiff, hread]
  have hnone : (none : Option Text).isSome = false := rfl
  simpa using headerArguments_iff hn hnone hc1

/-- A name with a value is read back exactly if the name is plain. -/
lemma readsBack_nameValue {kind : Kind} (hk : kind ∈ Kind.nameValueKinds) (hn : name.IsName)
    (hv : value.OneLine) :
    ReadsBack { kind, name := some name, value := some value } ↔ name.IsPlain := by
  obtain ⟨c, hc, hiff⟩ := (line_nameValue hk hn hv).readsBack_iff_of_endsSolid
    (endsSolid_word_tail hn.ne_nil _)
  simp only [hiff, nameValue, plain_eq_ok_iff, exists_eq_right]
  refine (word?_bind_iff hn.toIsWord (Printer.endsWord_tail _) hc (p := True) ?_ ?_).trans
    (iff_of_eq (and_true _))
  · intro s c1 hs
    simp only [Option.bind_eq_bind, Option.bind_eq_some_iff, Option.some.injEq] at hs
    obtain ⟨v, -, heq⟩ := hs
    cases heq
    rfl
  · intro c1 hc1
    simp [rest?_of_tail hc1]

/-- A name with a flag is read back exactly if the name is plain. -/
lemma readsBack_nameFlag {admin on : Bool} (hn : name.IsName) (hon : onOff? value = some on) :
    ReadsBack { kind := .phpFlag admin, name := some name, value := some value } ↔
      name.IsPlain := by
  obtain ⟨c, hc, hiff⟩ := (line_nameFlag admin hn (oneLine_of_onOff? hon)).readsBack_iff_of_endsSolid
    (endsSolid_word_tail hn.ne_nil _)
  obtain ⟨hne, hcaseless⟩ := caseless_of_onOff? hon
  have hword : value.IsWord :=
    ⟨hne, fun hq => (hcaseless _ (List.mem_of_mem_head? hq)).2 rfl,
      fun _ d hd => Text.isBlank_of_not_isWhitespace (hcaseless d hd).1⟩
  -- a word for on or off has nothing that calls for quotes
  have hrest : Printer.rest value = value := by
    rw [rest_of_isWord hword, if_pos]
    exact Text.trim_eq_self_iff.2 (.inr ⟨Text.startsSolid_of_all hne fun d hd => (hcaseless d hd).1,
      Text.endsSolid_of_all hne fun d hd => (hcaseless d hd).1⟩)
  simp only [hiff, nameFlag, plain_eq_ok_iff, exists_eq_right]
  refine (word?_bind_iff hn.toIsWord (Printer.endsWord_tail _) hc (p := True) ?_ ?_).trans
    (iff_of_eq (and_true _))
  · intro s c1 hs
    simp only [Option.bind_eq_bind, Option.bind_eq_some_iff, Option.some.injEq] at hs
    obtain ⟨v, -, on', -, heq⟩ := hs
    cases heq
    rfl
  · intro c1 hc1
    rw [Printer.tail, hrest, ← List.append_nil value] at hc1
    obtain ⟨c2, h2, -⟩ := token_of_blankless hword
      (fun d hd => Text.isBlank_of_not_isWhitespace (hcaseless d hd).1) endsWord_nil hc1
    simp [h2, hon]

/-- A name with a list is read back exactly if the name is plain, whether the list is there or not. -/
lemma readsBack_nameList {kind : Kind} (hk : kind ∈ Kind.nameListKinds) (hn : name.IsName)
    {value : Option Text} (hv : ∀ v ∈ value, Text.OneLine v) :
    ReadsBack { kind, name := some name, value } ↔ name.IsPlain := by
  obtain ⟨c, hc, hiff⟩ := (line_nameList hk hn hv).readsBack_iff_of_endsSolid
    (endsSolid_word_tail hn.ne_nil _)
  simp only [hiff, nameList, plain_eq_ok_iff, exists_eq_right]
  refine (word?_bind_iff hn.toIsWord (Printer.endsWord_tail _) hc (p := True) ?_ ?_).trans
    (iff_of_eq (and_true _))
  · intro s c1 hs
    cases hs
    rfl
  · intro c1 hc1
    simp [rest?_of_tail hc1]

/-- A value of one word is read back exactly if it stays one. -/
lemma readsBack_valueWord {kind : Kind} (hk : kind ∈ Kind.valueWordKinds) (hv : value.IsName) :
    ReadsBack { kind, value := some value } ↔ value.StaysWord := by
  obtain ⟨c, hc, hiff⟩ := (line_valueWord hk hv.oneLine).readsBack_iff_of_endsSolid
    (endsSolid_rest value)
  obtain ⟨s, c1, htoken, hne, hstays⟩ := token_of_rest hv.toIsWord hc
  rw [hiff, ← hstays]
  simp only [valueWord, plain_eq_ok_iff, exists_eq_right, word?_of_token htoken hne]
  simp

/-- Hosts are read back, whatever they are. -/
lemma readsBack_hosts (hv : value.OneLine) :
    ReadsBack { kind := .allowFrom, value := some value } ∧
      ReadsBack { kind := .denyFrom, value := some value } := by
  have hfrom : Text.IsKeyword "from".toList := by decide
  have hread (kind : Kind) {c : Cursor}
      (hc : c.remaining = ' ' :: ("from".toList ++ ' ' :: Printer.rest value)) :
      hosts kind c = .ok ⟨some { kind, value := some value }, []⟩ := by
    obtain ⟨c1, h1, hr1⟩ := after?_eq_some "from" hfrom hfrom rfl (endsWord_blank _)
      (by rw [hc]; exact hfrom.dropWhile_cons _)
    simp [hosts, plain, h1, rest?_of_rest hr1]
  have hsolid := ((endsSolid_rest value).cons ' ').append "from".toList
  constructor
  · obtain ⟨c, hc, hiff⟩ := (line_hosts hv).1.readsBack_iff_of_endsSolid hsolid
    exact hiff.2 ⟨[], hread _ hc⟩
  · obtain ⟨c, hc, hiff⟩ := (line_hosts hv).2.readsBack_iff_of_endsSolid hsolid
    exact hiff.2 ⟨[], hread _ hc⟩

/-- Hosts to let in are read back, whatever they are. -/
lemma readsBack_requireIp (hv : value.OneLine) :
    ReadsBack { kind := .requireIp, value := some value } := by
  have hip : Text.IsKeyword "ip".toList := by decide
  obtain ⟨c, hc, hiff⟩ := (line_requireIp hv).1.readsBack_iff_of_endsSolid
    (((endsSolid_rest value).cons ' ').append "ip".toList)
  have hskip : c.remaining.dropWhile Text.isBlank =
      "ip".toList ++ ' ' :: Printer.rest value := by
    rw [hc]
    exact hip.dropWhile_cons _
  have hall : c.after? "all" = none :=
    after?_eq_none (by decide) hip (by decide) (endsWord_blank _) hskip
  have hnot : c.after? "not" = none :=
    after?_eq_none (by decide) hip (by decide) (endsWord_blank _) hskip
  obtain ⟨c1, h1, hr1⟩ := after?_eq_some "ip" hip hip rfl (endsWord_blank _) hskip
  refine hiff.2 ⟨[], ?_⟩
  simp [require, plain, hall, hnot, h1, rest?_of_rest hr1]

/-- Hosts not to let in are read back, whatever they are. -/
lemma readsBack_requireNotIp (hv : value.OneLine) :
    ReadsBack { kind := .requireNotIp, value := some value } := by
  have hip : Text.IsKeyword "ip".toList := by decide
  have hnot : Text.IsKeyword "not".toList := by decide
  obtain ⟨c, hc, hiff⟩ := (line_requireIp hv).2.readsBack_iff_of_endsSolid
    (((endsSolid_rest value).cons ' ').append "not ip".toList)
  have hskip : c.remaining.dropWhile Text.isBlank =
      "not".toList ++ ' ' :: ("ip".toList ++ ' ' :: Printer.rest value) := by
    rw [hc]
    exact hnot.dropWhile_cons _
  have hall : c.after? "all" = none :=
    after?_eq_none (by decide) hnot (by decide) (endsWord_blank _) hskip
  obtain ⟨c1, h1, hr1⟩ := after?_eq_some "not" hnot hnot rfl (endsWord_blank _) hskip
  obtain ⟨c2, h2, hr2⟩ := after?_eq_some "ip" hip hip rfl (endsWord_blank _)
    (by rw [hr1]; exact hip.dropWhile_cons _)
  refine hiff.2 ⟨[], ?_⟩
  simp [require, plain, hall, h1, h2, rest?_of_rest hr2]

/-- A realm is read back, whatever it is: it stands between quotes. -/
lemma readsBack_authName (hv : value.OneLine) :
    ReadsBack { kind := .authName, value := some value } := by
  obtain ⟨c, hc, hiff⟩ := (line_authName hv).readsBack_iff_of_endsSolid
    (Text.endsSolid_concat ('"' :: value) rfl)
  refine hiff.2 ⟨[], ?_⟩
  simp [valueRest, plain, rest?_of_enclose hc]

/-- A value that is the rest of the line is read back, whatever it is. -/
lemma readsBack_valueRest (hv : value.OneLine) {kind : Kind}
    (hk : kind ∈ [.authUserFile, .setHandler, .directoryIndex, .guard .whitelist]) :
    ReadsBack { kind, value := some value } := by
  obtain ⟨c, hc, hiff⟩ := (line_valueRest hv hk).readsBack_iff_of_endsSolid (endsSolid_rest value)
  refine hiff.2 ⟨[], ?_⟩
  simp [valueRest, plain, rest?_of_rest hc]

/-- Features are read back, also those that are remarked on. -/
lemma readsBack_options (hv : value.OneLine) :
    ReadsBack { kind := .options, value := some value,
                detail := .options (setFlags {} (Text.words value)).1 } := by
  obtain ⟨c, hc, hiff⟩ := (line_options hv).readsBack_iff_of_endsSolid (endsSolid_rest value)
  refine hiff.2 ⟨(setFlags {} (Text.words value)).2.map .unknownOption, ?_⟩
  rw [options, rest?_of_rest hc]

/-- A rule that is its keywords alone is read back. -/
lemma readsBack_require {kind : Kind} (hk : kind ∈ Kind.bareKinds) : ReadsBack { kind } := by
  have hallWord : Text.IsKeyword "all".toList := by decide
  -- after `all` stands one more word
  have hread {c : Cursor} (word : Text) (hw : word.IsKeyword) (hq : word.head? ≠ some '"')
      (hc : c.remaining = ' ' :: ("all".toList ++ ' ' :: word)) :
      ∃ c', c.after? "all" = some c' ∧ ∃ c'', c'.lowerToken = (Text.lower word, c'') := by
    obtain ⟨c1, h1, hr1⟩ := after?_eq_some "all" hallWord hallWord rfl
      (endsWord_blank _) (by rw [hc]; exact hallWord.dropWhile_cons _)
    obtain ⟨c2, h2, -⟩ := lowerToken_of_keyword hw hq endsWord_nil
      (by rw [hr1]; simpa using hw.dropWhile_cons [])
    exact ⟨c1, h1, c2, h2⟩
  simp only [Kind.bareKinds, List.mem_cons, List.not_mem_nil, or_false] at hk
  rcases hk with rfl | rfl | rfl
  · obtain ⟨c, hc, hiff⟩ := line_require.1.readsBack_iff_of_endsSolid ⟨'d', rfl, rfl⟩
    obtain ⟨c1, h1, c2, h2⟩ := hread "granted".toList (by decide) (by decide) hc
    have hlow : Text.lower "granted".toList = "granted".toList := by decide
    refine hiff.2 ⟨[], ?_⟩
    simp only [require, plain, h1, h2, hlow, beq_self_eq_true, if_true]
  · obtain ⟨c, hc, hiff⟩ := line_require.2.1.readsBack_iff_of_endsSolid ⟨'d', rfl, rfl⟩
    obtain ⟨c1, h1, c2, h2⟩ := hread "denied".toList (by decide) (by decide) hc
    have hlow : Text.lower "denied".toList = "denied".toList := by decide
    have hne : ("denied".toList == "granted".toList) = false := by decide
    refine hiff.2 ⟨[], ?_⟩
    simp only [require, plain, h1, h2, hlow, hne, beq_self_eq_true, if_true, Bool.false_eq_true,
      if_false]
  · have hword : Text.IsKeyword "valid-user".toList := by decide
    obtain ⟨c, hc, hiff⟩ := line_require.2.2.readsBack_iff_of_endsSolid ⟨'r', rfl, rfl⟩
    have hskip : c.remaining.dropWhile Text.isBlank = "valid-user".toList ++ [] := by
      rw [hc, ← List.append_nil "valid-user".toList]
      exact hword.dropWhile_cons _
    have hall : c.after? "all" = none :=
      after?_eq_none (by decide) hword (by decide) endsWord_nil hskip
    have hnot : c.after? "not" = none :=
      after?_eq_none (by decide) hword (by decide) endsWord_nil hskip
    have hip : c.after? "ip" = none :=
      after?_eq_none (by decide) hword (by decide) endsWord_nil hskip
    obtain ⟨c1, h1, -⟩ := after?_eq_some "valid-user" hword hword rfl endsWord_nil hskip
    refine hiff.2 ⟨[], ?_⟩
    simp [require, plain, hall, hnot, hip, h1]

/-- Both orders are read back. -/
lemma readsBack_order {order : Text}
    (h : order = AccessOrder.allowDeny ∨ order = AccessOrder.denyAllow) :
    ReadsBack { kind := .order, detail := .order order } := by
  -- the two orders are ten characters long, so that nothing of them is cut off
  have hread {c : Cursor} {word : Text} (hc : c.remaining = ' ' :: word)
      (hlen : (word.dropWhile Text.isBlank).take 10 = word)
      (hlow : Text.lower word = order) :
      RuleReader.order c = .ok ⟨some { kind := .order, detail := .order order }, []⟩ := by
    have htake : c.skipBlanks.remaining.take 10 = word := by
      rw [remaining_skipBlanks, hc, List.dropWhile_cons_of_pos (by rfl), hlen]
    have hor : (order == AccessOrder.allowDeny || order == AccessOrder.denyAllow) = true := by
      simpa using h
    simp only [RuleReader.order, plain, htake, hlow, hor, if_true]
  rcases h with rfl | rfl
  · obtain ⟨c, hc, hiff⟩ := line_order.1.readsBack_iff_of_endsSolid ⟨'y', rfl, rfl⟩
    exact hiff.2 ⟨[], hread hc (by decide) (by decide)⟩
  · obtain ⟨c, hc, hiff⟩ := line_order.2.readsBack_iff_of_endsSolid ⟨'w', rfl, rfl⟩
    exact hiff.2 ⟨[], hread hc (by decide) (by decide)⟩

/-- A status is read back from its digits. -/
lemma status?_ofNat {code : Nat} (hlow : 100 ≤ code) (hhigh : code ≤ 599) :
    status? (Text.ofNat code) = .ok (some code) := by
  have hlt : code < 10 ^ Text.maxDigits :=
    lt_of_lt_of_le (show code < 10 ^ 3 by omega) (Nat.pow_le_pow_right (by decide) (by decide))
  rw [status?, digits?, if_pos (Text.isDigits_ofNat code), Fault.readNumeral,
    Text.toNat_ofNat hlt]
  simp [Except.map, hlow, hhigh]

/-- A positive number is read back from its digits. -/
lemma positive?_ofNat {n : Nat} (hpos : 0 < n) (hlt : n < 10 ^ Text.maxDigits) :
    positive? (Text.ofNat n) = .ok (some n) := by
  rw [positive?, digits?, if_pos (Text.isDigits_ofNat n), Fault.readNumeral, Text.toNat_ofNat hlt]
  simp [Except.map, hpos]

/-- The digits of a number are read as a word. -/
lemma token_ofNat {c : Cursor} {n : Nat} {u : Text} (hu : EndsWord u)
    (h : c.remaining = ' ' :: (Text.ofNat n ++ u)) :
    ∃ c', c.token = (some (Text.ofNat n), c') ∧ c'.remaining = u := by
  have hdigit : ∀ d ∈ Text.ofNat n, Text.isWhitespace d = false ∧ d ≠ '"' := fun d hd =>
    Text.not_isWhitespace_of_isDigit (Text.isDigit_of_mem_ofNat hd)
  have hblank : ∀ d ∈ Text.ofNat n, Text.isBlank d = false := fun d hd =>
    Text.isBlank_of_not_isWhitespace (hdigit d hd).1
  have hword : (Text.ofNat n).IsWord :=
    ⟨Text.ofNat_ne_nil n, fun hq => (hdigit _ (List.mem_of_mem_head? hq)).2 rfl, fun _ => hblank⟩
  exact token_of_blankless hword hblank hu h

/-- The document for an error is read back, since nothing of it is trimmed. -/
lemma readsBack_errorDocument {code : Nat} (hlow : 100 ≤ code) (hhigh : code ≤ 599)
    (hne : value ≠ []) (htrim : Text.trim value = value) (hv : value.OneLine) :
    ReadsBack { kind := .errorDocument, value := some value, detail := .errorDocument code } := by
  obtain ⟨c, hc, hiff⟩ := (line_errorDocument hne htrim hv).readsBack_iff_of_endsSolid
    ((((Text.trim_eq_self_iff.1 htrim).resolve_left hne).2.cons ' ').append _)
  obtain ⟨c1, h1, hr1⟩ := token_ofNat (endsWord_blank _) hc
  have hrest : c1.restRaw.1 = some value := by
    rw [restRaw_fst, hr1, Text.trim_cons_blank, htrim, if_neg (by simpa using hne)]
  refine hiff.2 ⟨[], ?_⟩
  simp [errorDocument, h1, status?_ofNat hlow hhigh, hrest, bind, Except.bind]

/-- The word that switches is read back. -/
lemma token_onOff {c : Cursor} {on : Bool} (h : c.remaining = ' ' :: Printer.onOff on) :
    ∃ t c', c.token = (some t, c') ∧ onOff? t = some on ∧
      (Text.lower t == "on".toList) = on := by
  have hword : Text.IsKeyword (Printer.onOff on) := by cases on <;> decide
  have hquote : (Printer.onOff on).head? ≠ some '"' := by cases on <;> decide
  obtain ⟨c1, h1, -⟩ := token_of_word (by rw [h]; simpa using hword.dropWhile_cons [])
    hword.ne_nil hquote hword.blankless endsWord_nil
  exact ⟨_, c1, h1, by cases on <;> decide, by cases on <;> decide⟩

/-- Switches are read back, on and off. -/
lemma readsBack_switch (on : Bool) :
    ReadsBack { kind := .expiresActive, detail := .expires on 0 } ∧
      ReadsBack { kind := .guard .protection, detail := .guard { enabled := on } } ∧
      ReadsBack { kind := .guard .forwardedFor, detail := .guard { enabled := on } } := by
  refine ⟨?_, ?_, ?_⟩
  · obtain ⟨c, hc, hiff⟩ := (line_switch on).1.readsBack_iff_of_endsSolid (onOff_spec on).1
    obtain ⟨t, c1, h1, hon, -⟩ := token_onOff hc
    refine hiff.2 ⟨[], ?_⟩
    simp [switch, plain, h1, hon]
  · obtain ⟨c, hc, hiff⟩ := (line_switch on).2.1.readsBack_iff_of_endsSolid (onOff_spec on).1
    obtain ⟨t, c1, h1, hon, -⟩ := token_onOff hc
    refine hiff.2 ⟨[], ?_⟩
    simp [switch, plain, h1, hon]
  · obtain ⟨c, hc, hiff⟩ := (line_switch on).2.2.readsBack_iff_of_endsSolid (onOff_spec on).1
    obtain ⟨t, c1, h1, -, hlow⟩ := token_onOff hc
    refine hiff.2 ⟨[], ?_⟩
    simp only [forwardedFor, plain, h1, hlow, Option.bind_eq_bind, Option.bind_some]

/-- Positive numbers that can be read are read back, for each setting. -/
lemma readsBack_guardNumber {n : Nat} (hpos : 0 < n) (hlt : n < 10 ^ Text.maxDigits) :
    ReadsBack { kind := .guard .allowedAttempts, detail := .guard { allowedAttempts := n } } ∧
      ReadsBack { kind := .guard .window, detail := .guard { windowSeconds := n } } ∧
      ReadsBack { kind := .guard .throttleDuration, detail := .guard { throttleMillis := n } } := by
  have hread {c : Cursor} (hc : c.remaining = ' ' :: Text.ofNat n) (setting : GuardSetting)
      (values : Nat → GuardValues) : guardNumber setting values c =
        .ok ⟨some { kind := .guard setting, detail := .guard (values n) }, []⟩ := by
    rw [← List.append_nil (Text.ofNat n)] at hc
    obtain ⟨c1, h1, -⟩ := token_ofNat endsWord_nil hc
    simp [guardNumber, h1, positive?_ofNat hpos hlt, bind, Except.bind]
  refine ⟨?_, ?_, ?_⟩
  · obtain ⟨c, hc, hiff⟩ := (line_guardNumber n).1.readsBack_iff_of_endsSolid (endsSolid_ofNat n)
    exact hiff.2 ⟨[], hread hc _ _⟩
  · obtain ⟨c, hc, hiff⟩ := (line_guardNumber n).2.1.readsBack_iff_of_endsSolid (endsSolid_ofNat n)
    exact hiff.2 ⟨[], hread hc _ _⟩
  · obtain ⟨c, hc, hiff⟩ := (line_guardNumber n).2.2.readsBack_iff_of_endsSolid (endsSolid_ofNat n)
    exact hiff.2 ⟨[], hread hc _ _⟩

/-- Both actions are read back. -/
lemma readsBack_guardAction {action : Text}
    (h : action = "block".toList ∨ action = "throttle".toList) :
    ReadsBack { kind := .guard .action, detail := .guard { action } } := by
  have hread {c : Cursor} (hc : c.remaining = ' ' :: action) (hk : action.IsKeyword)
      (hq : action.head? ≠ some '"') (hlow : Text.lower action = action) :
      RuleReader.guardAction c =
        .ok ⟨some { kind := .guard .action, detail := .guard { action } }, []⟩ := by
    obtain ⟨c1, h1, -⟩ := lowerToken_of_keyword hk hq endsWord_nil
      (by rw [hc]; simpa using hk.dropWhile_cons [])
    have hor : (action == "block".toList || action == "throttle".toList) = true := by
      simpa using h
    simp only [guardAction, plain, h1, hlow, hor, if_true]
  rcases h with rfl | rfl
  · obtain ⟨c, hc, hiff⟩ := line_guardAction.1.readsBack_iff_of_endsSolid ⟨'k', rfl, rfl⟩
    exact hiff.2 ⟨[], hread hc (by decide) (by decide) (by decide)⟩
  · obtain ⟨c, hc, hiff⟩ := line_guardAction.2.readsBack_iff_of_endsSolid ⟨'e', rfl, rfl⟩
    exact hiff.2 ⟨[], hread hc (by decide) (by decide) (by decide)⟩

/-- A lifetime between quotes is read back. -/
lemma lifetime_of_enclose {kind : Kind} {name : Option Text} {c : Cursor} {seconds : Nat}
    (hc : c.remaining = ' ' :: Printer.enclose value)
    (hd : Duration.parse (some value) = .ok (.ok seconds)) :
    lifetime kind name c =
      .ok ⟨some { kind, name, value := some value, detail := .expires false seconds }, []⟩ := by
  simp [lifetime, rest?_of_enclose hc, hd, bind, Except.bind]

/-- A default lifetime is read back, whatever the duration is. -/
lemma readsBack_expiresDefault {seconds : Nat} (hv : value.OneLine)
    (hd : Duration.parse (some value) = .ok (.ok seconds)) :
    ReadsBack { kind := .expiresDefault, value := some value,
                detail := .expires false seconds } := by
  obtain ⟨c, hc, hiff⟩ := (line_expiresDefault hv).readsBack_iff_of_endsSolid
    (Text.endsSolid_concat ('"' :: value) rfl)
  exact hiff.2 ⟨[], lifetime_of_enclose hc hd⟩

/-- In place of a content type that is not all blanks and has no quotes, a word without blanks is read. -/
lemma blankless_of_word?_contentType {c c' : Cursor} {w : Text} (hquote : '"' ∉ name)
    (hsolid : ∃ d ∈ name, Text.isBlank d = false)
    (hc : c.remaining = ' ' :: (name ++ ' ' :: Printer.enclose value))
    (hw : c.word? = some (w, c')) : ∀ d ∈ w, Text.isBlank d = false := by
  have hskip : c.remaining.dropWhile Text.isBlank =
      (name ++ ' ' :: Printer.enclose value).dropWhile Text.isBlank := by
    rw [hc, List.dropWhile_cons_of_pos (by rfl)]
  cases hdrop : name.dropWhile Text.isBlank with
  | nil =>
    obtain ⟨d, hd, hs⟩ := hsolid
    rw [List.dropWhile_eq_nil_iff.1 hdrop d hd] at hs
    cases hs
  | cons d u =>
    rw [List.dropWhile_append, hdrop] at hskip
    refine blankless_of_token_bare hskip ?_ (word?_spec hw).1
    rintro rfl
    have hmem : '"' ∈ name.dropWhile Text.isBlank := by simp [hdrop]
    exact hquote ((List.dropWhile_sublist _).subset hmem)

/-- A content type with a blank is not read back: what is read in its place is a part of it, or stands
between the quotes of the lifetime, so that less is left for the lifetime. -/
lemma blankless_of_expiresByType {c : Cursor} {seconds : Int} {remarks : List Remark}
    (hn : name.IsName) (hv : value.OneLine)
    (hc : c.remaining = ' ' :: (name ++ ' ' :: Printer.enclose value))
    (h : expiresByType c =
      .ok ⟨some { kind := .expiresByType, name := some name, value := some value,
                  detail := .expires false seconds }, remarks⟩) :
    ∀ d ∈ name, Text.isBlank d = false := by
  by_contra hblank
  have hquote : '"' ∉ name := fun hq => hblank (hn.blankless hq)
  rw [expiresByType] at h
  split at h
  · cases h
  · rename_i w c1 hw
    have hline : '\n' ∉ c1.remaining := by
      have hc' : '\n' ∉ c.remaining := by
        rw [hc]
        simpa [Text.OneLine] using ⟨hn.oneLine, Printer.oneLine_enclose hv⟩
      exact fun hm => hc' ((word?_spec hw).2.2.2 hm)
    obtain ⟨-, v, n, hrest, -, -, heq⟩ := lifetime_eq_ok hline h
    obtain ⟨rfl, rfl⟩ : name = w ∧ value = v := by
      simp only [Rule.mk.injEq, Option.some.injEq] at heq
      exact ⟨heq.2.1, heq.2.2.1⟩
    by_cases hsolid : ∃ d ∈ name, Text.isBlank d = false
    · exact hblank (blankless_of_word?_contentType hquote hsolid hc hw)
    · -- the content type is all blanks, and a word is read from between the quotes
      simp only [not_exists, not_and, Bool.not_eq_false] at hsolid
      have hskip : c.remaining.dropWhile Text.isBlank = Printer.enclose value := by
        rw [hc, List.dropWhile_cons_of_pos (by rfl), List.dropWhile_append_of_pos hsolid]
        simpa using dropWhile_blank_enclose value []
      exact absurd (length_of_word?_enclosed hskip hw hrest) (lt_irrefl _)

/-- The lifetime of a type is read back exactly if the type has no blank. -/
lemma readsBack_expiresByType {seconds : Nat} (hn : name.IsName) (hv : value.OneLine)
    (hd : Duration.parse (some value) = .ok (.ok seconds)) :
    ReadsBack { kind := .expiresByType, name := some name, value := some value,
                detail := .expires false seconds } ↔ ∀ d ∈ name, Text.isBlank d = false := by
  obtain ⟨c, hc, hiff⟩ := (line_expiresByType hn hv).readsBack_iff_of_endsSolid
    (((Text.endsSolid_concat ('"' :: value) rfl).cons ' ').append name)
  rw [hiff]
  constructor
  · rintro ⟨remarks, h⟩
    exact blankless_of_expiresByType hn hv hc h
  · intro hblank
    obtain ⟨c1, h1, hr1⟩ := token_of_blankless hn.toIsWord hblank (endsWord_blank _) hc
    refine ⟨[], ?_⟩
    rw [expiresByType, word?_of_token h1 hn.ne_nil]
    exact lifetime_of_enclose hr1 hd

/-- An assignment with an equals sign is put together of its two parts. -/
lemma assignment_eq_iff {t : Text} (h : '=' ∈ t) (hn : '=' ∉ name) :
    RuleReader.assignment t = (name, value) ↔ t = assigned name value := by
  constructor
  · intro heq
    rcases Text.cut_cases '=' t with ⟨ht, -⟩ | ⟨s, u, rfl, -, hcut⟩
    · exact absurd h ht
    · simp only [RuleReader.assignment, hcut, Option.getD_some, Prod.mk.injEq] at heq
      obtain ⟨rfl, rfl⟩ := heq
      rfl
  · rintro rfl
    simp [RuleReader.assignment, assigned, Text.cut_append hn]

/-- An assignment at the end of a line is read back exactly if nothing of it is trimmed or taken for
quotes around it. -/
lemma conditional_iff {kind : Kind} {subject pattern : Text} {c : Cursor} (hn : '=' ∉ name)
    (hc : c.remaining = ' ' :: Text.trimEnd (assigned name value)) :
    conditional kind subject pattern c =
        some { kind, name := some name, value := some value, detail := .envIf subject pattern } ↔
      (assigned name value).StaysValue := by
  have hsign : '=' ∈ Text.trim (assigned name value) := Text.mem_trim (by simp [assigned]) rfl
  have hrest : c.rest? = some (unwrap (Text.trim (assigned name value))) := by
    rw [rest?_eq, hc, Text.trim_cons_blank, Text.trim_trimEnd, if_neg]
    simpa using List.ne_nil_of_mem hsign
  have hsign' : '=' ∈ unwrap (Text.trim (assigned name value)) := by
    rcases unwrap_cases (Text.trim (assigned name value)) with ⟨hu, -⟩ | ⟨s, hs, hu⟩
    · rwa [hu]
    · rw [hs] at hsign
      rw [hu]
      simpa [Printer.enclose] using hsign
  rw [← unwrap_trim_eq_iff, ← assignment_eq_iff hsign' hn]
  simp [conditional, hrest, Prod.ext_iff]

/-- A rule that an assignment is read as has the subject and the pattern that it was read with. -/
lemma detail_of_conditional {kind : Kind} {subject pattern : Text} {c : Cursor} {r : Rule}
    (h : conditional kind subject pattern c = some r) : r.detail = .envIf subject pattern := by
  simp only [conditional, Option.bind_eq_bind, Option.bind_eq_some_iff, Option.some.injEq] at h
  obtain ⟨t, -, rfl⟩ := h
  rfl

/-- An assignment under a condition is read back exactly if subject and pattern are plain and the assignment
stays as it is written. -/
lemma readsBack_setEnvIf {subject pattern : Text} (hs : subject.IsName) (hp : pattern.IsName)
    (hn : name.OneLine) (heq : '=' ∉ name) (hv : value.OneLine) :
    ReadsBack { kind := .setEnvIf, name := some name, value := some value,
                detail := .envIf subject pattern } ↔
      subject.IsPlain ∧ pattern.IsPlain ∧ (assigned name value).StaysValue := by
  obtain ⟨c, hc, hiff⟩ := (line_setEnvIf hs hp hn hv).readsBack_iff
  have htrim : Text.trimEnd
      (Printer.word subject ++ ' ' :: (Printer.word pattern ++ ' ' :: assigned name value)) =
      Printer.word subject ++ ' ' :: (Printer.word pattern ++ ' ' ::
        Text.trimEnd (assigned name value)) := by
    have := Text.trimEnd_append (hasSolid_assigned name value)
      (Printer.word subject ++ ' ' :: (Printer.word pattern ++ [' ']))
    simpa using this
  rw [htrim] at hc
  simp only [hiff, setEnvIf, plain_eq_ok_iff, exists_eq_right, Option.bind_eq_bind]
  -- the subject, the pattern and the assignment are read one after another
  refine word?_bind_iff hs.toIsWord (endsWord_blank _) hc ?_ ?_
  · intro s c1 hread
    obtain ⟨⟨q, c2⟩, -, h⟩ := Option.bind_eq_some_iff.1 hread
    have := detail_of_conditional h
    simp only [Detail.envIf.injEq] at this
    exact this.1.symm
  · intro c1 hc1
    refine word?_bind_iff hp.toIsWord (endsWord_blank _) hc1 ?_ ?_
    · intro s c2 hread
      have := detail_of_conditional hread
      simp only [Detail.envIf.injEq] at this
      exact this.2.symm
    · intro c2 hc2
      exact conditional_iff heq hc2

/-- An assignment for browsers is read back exactly if the pattern is plain and the assignment stays as it
is written. -/
lemma readsBack_browserMatch {pattern : Text} (hp : pattern.IsName) (hn : name.OneLine)
    (heq : '=' ∉ name) (hv : value.OneLine) :
    ReadsBack { kind := .browserMatch, name := some name, value := some value,
                detail := .envIf "User-Agent".toList pattern } ↔
      pattern.IsPlain ∧ (assigned name value).StaysValue := by
  obtain ⟨c, hc, hiff⟩ := (line_browserMatch hp hn hv).readsBack_iff
  have htrim : Text.trimEnd (Printer.word pattern ++ ' ' :: assigned name value) =
      Printer.word pattern ++ ' ' :: Text.trimEnd (assigned name value) := by
    have := Text.trimEnd_append (hasSolid_assigned name value) (Printer.word pattern ++ [' '])
    simpa using this
  rw [htrim] at hc
  simp only [hiff, browserMatch, plain_eq_ok_iff, exists_eq_right, Option.bind_eq_bind]
  refine word?_bind_iff hp.toIsWord (endsWord_blank _) hc ?_ ?_
  · intro s c1 hread
    have := detail_of_conditional hread
    simp only [Detail.envIf.injEq] at this
    exact this.2.symm
  · intro c1 hc1
    exact conditional_iff heq hc1

/-- Where a redirect is read, its target and the place it is sent to stand on the line. -/
lemma redirectTo_eq_some_iff {kind : Kind} {status status' : Nat} {target target' url : Text}
    {c : Cursor} :
    redirectTo kind status target c = some (redirectRule kind status' target' url) ↔
      c.rest? = some url ∧ status = status' ∧ target = target' := by
  simp only [redirectTo, redirectRule, Option.bind_eq_bind, Option.bind_eq_some_iff]
  constructor
  · -- the two kinds of redirection keep their target in different places
    rintro ⟨v, hv, h⟩
    split at h
    · simp only [Option.some.injEq, Rule.mk.injEq, Detail.redirect.injEq, Int.natCast_inj] at h
      obtain ⟨-, -, rfl, rfl, rfl⟩ := h
      exact ⟨hv, rfl, rfl⟩
    · simp only [Option.some.injEq, Rule.mk.injEq, Detail.redirect.injEq, Int.natCast_inj] at h
      obtain ⟨-, rfl, rfl, rfl, -⟩ := h
      exact ⟨hv, rfl, rfl⟩
  · rintro ⟨hv, rfl, rfl⟩
    refine ⟨url, hv, ?_⟩
    split <;> rfl

/-- What is read of a redirect, by its first word and what that is taken for. -/
lemma redirect_eq_ok_iff {kind : Kind} {status : Nat} {target url : Text} {c : Cursor} :
    (∃ remarks, redirect kind c = .ok ⟨some (redirectRule kind status target url), remarks⟩) ↔
      ∃ w c1, c.word? = some (w, c1) ∧
        (status? w = .ok none ∧ c1.rest? = some url ∧ status = 302 ∧ w = target ∨
          status? w = .ok (some status) ∧
            ∃ c2, c1.word? = some (target, c2) ∧ c2.rest? = some url) := by
  constructor
  · rintro ⟨remarks, h⟩
    rw [redirect] at h
    split at h
    · cases h
    · rename_i w c1 hw
      refine ⟨w, c1, hw, ?_⟩
      -- the first word is a status, or it is the target
      cases hs : status? w with
      | error fault =>
        rw [hs] at h
        cases h
      | ok o =>
        rw [hs] at h
        cases o with
        | none =>
          simp only [bind, Except.bind, Except.ok.injEq, LineReading.mk.injEq] at h
          obtain ⟨hrest, rfl, rfl⟩ := redirectTo_eq_some_iff.1 h.1
          exact .inl ⟨rfl, hrest, rfl, rfl⟩
        | some st =>
          simp only [bind, Except.bind, Except.ok.injEq, LineReading.mk.injEq,
            Option.bind_eq_some_iff] at h
          obtain ⟨⟨⟨t, c2⟩, hw2, hread⟩, -⟩ := h
          obtain ⟨hrest, rfl, rfl⟩ := redirectTo_eq_some_iff.1 hread
          exact .inr ⟨rfl, c2, hw2, hrest⟩
  · rintro ⟨w, c1, hw, ⟨hs, hrest, rfl, rfl⟩ | ⟨hs, c2, hw2, hrest⟩⟩
    · refine ⟨[], ?_⟩
      simp only [redirect, hw, hs, bind, Except.bind]
      rw [redirectTo_eq_some_iff.2 ⟨hrest, rfl, rfl⟩]
    · refine ⟨[], ?_⟩
      simp only [redirect, hw, hs, bind, Except.bind, hw2, Option.bind_some]
      rw [redirectTo_eq_some_iff.2 ⟨hrest, rfl, rfl⟩]

/-- A target with a quote and whitespace is not read after its part in front of the quote. -/
lemma target_ne_of_not_plain {c c' : Cursor} {s z u t : Text} (ht : Text.IsWord (s ++ '"' :: z))
    (hs : s ≠ []) (hc : c.remaining = z ++ '"' :: ' ' :: u) (hw : c.word? = some (t, c')) :
    t ≠ s ++ '"' :: z := by
  rintro rfl
  have htoken := (word?_spec hw).1
  have hblank : ∀ d ∈ z ++ ['"'], Text.isBlank d = false := by
    intro d hd
    refine ht.blankless (by simp) d ?_
    simp only [List.mem_append, List.mem_cons, List.not_mem_nil, or_false] at hd ⊢
    tauto
  have hword : z ++ '"' :: ' ' :: u = (z ++ ['"']) ++ ' ' :: u := by simp
  have hskip : c.remaining.dropWhile Text.isBlank = (z ++ ['"']) ++ ' ' :: u := by
    rw [hc, hword]
    cases z with
    | nil => rfl
    | cons d z => exact List.dropWhile_cons_of_neg (by simp [hblank d (by simp)])
  by_cases hq : (z ++ ['"']).head? = some '"'
  · -- what stands next is between quotes, where there is no quote
    obtain ⟨v, hv⟩ : ∃ v, z ++ ['"'] = '"' :: v := List.head?_eq_some_iff.1 hq
    rw [hv] at hskip
    exact not_mem_of_token_quoted hskip htoken (by simp)
  · obtain ⟨c1, h1, -⟩ := token_of_word hskip (by simp) hq hblank (endsWord_blank u)
    rw [h1] at htoken
    have hlen := congrArg (fun o => o.1.map List.length) htoken
    simp only [Option.map_some, Option.some.injEq, List.length_append, List.length_cons,
      List.length_nil] at hlen
    have := List.length_pos_of_ne_nil hs
    omega

/-- A redirect is read back exactly if its target stays one. -/
lemma readsBack_redirect {kind : Kind} (hk : kind = .redirect ∨ kind = .redirectMatch)
    {status : Nat} (hlow : 100 ≤ status) (hhigh : status ≤ 599) {target url : Text}
    (ht : target.IsName) (hu : url.OneLine) :
    ReadsBack (redirectRule kind status target url) ↔ target.StaysTarget status := by
  obtain ⟨c, hc, hiff⟩ := (line_redirect hk status ht hu).readsBack_iff_of_endsSolid
    ((((endsSolid_rest url).cons ' ').append _).append _)
  rw [hiff, redirect_eq_ok_iff, Text.StaysTarget]
  by_cases hst : status = 302
  · subst hst
    rw [statusLead, if_pos rfl, List.nil_append] at hc
    constructor
    · rintro ⟨w, c1, hw, ⟨hs, -, -, rfl⟩ | ⟨hs, c2, hw2, hrest⟩⟩
      · exact ⟨isPlain_of_word? ht.toIsWord hc hw, fun _ => hs⟩
      · exfalso
        by_cases hp : target.IsPlain
        · -- the target is taken for a status, and a word of the value for the target
          obtain ⟨c3, hw3, hr3⟩ := word?_of_plain ht.toIsWord hp (endsWord_blank _) hc
          rw [hw3] at hw
          cases hw
          exact absurd (length_of_word?_rest hr3 hw2 hrest) (lt_irrefl _)
        · obtain ⟨s, z, c3, rfl, hne, -, hw3, hr3⟩ := word?_of_not_plain ht.toIsWord hp hc
          rw [hw3] at hw
          cases hw
          exact target_ne_of_not_plain ht.toIsWord hne hr3 hw2 rfl
    · rintro ⟨hp, hs⟩
      obtain ⟨c1, hw, hr1⟩ := word?_of_plain ht.toIsWord hp (endsWord_blank _) hc
      exact ⟨target, c1, hw, .inl ⟨hs rfl, rest?_of_rest hr1, rfl, rfl⟩⟩
  · rw [statusLead, if_neg hst, List.append_assoc, List.singleton_append] at hc
    obtain ⟨c1, h1, hr1⟩ := token_ofNat (endsWord_blank _) hc
    have hw1 := word?_of_token h1 (Text.ofNat_ne_nil status)
    have hs := status?_ofNat hlow hhigh
    constructor
    · rintro ⟨w, c2, hw, ⟨-, -, h302, -⟩ | ⟨-, c3, hw3, -⟩⟩
      · exact absurd h302 hst
      · rw [hw1] at hw
        cases hw
        exact ⟨isPlain_of_word? ht.toIsWord hr1 hw3, fun h => absurd (Int.ofNat_inj.1 h) hst⟩
    · rintro ⟨hp, -⟩
      obtain ⟨c2, hw2, hr2⟩ := word?_of_plain ht.toIsWord hp (endsWord_blank _) hr1
      exact ⟨_, c1, hw1, .inr ⟨hs, c2, hw2, rest?_of_rest hr2⟩⟩

/-- The written form of a rule that a line can be read as is read as the same rule exactly if the rule
is stable. -/
theorem readsBack_iff_stable {r : Rule} (h : WellFormed r) : ReadsBack r ↔ r.Stable := by
  have some_iff {t : Text} {p : Text → Prop} : (∀ s ∈ some t, p s) ↔ p t :=
    ⟨fun hall => hall t rfl, by rintro ht s ⟨⟩; exact ht⟩
  have none_holds {p : Text → Prop} : ∀ s ∈ (none : Option Text), p s := by rintro s ⟨⟩
  -- one lemma for each form; `none_holds` where the form puts no condition on the text
  cases h with
  | header hne hn hv =>
    rename_i always action name value
    refine (readsBack_header always action hn (by rintro v ⟨⟩; exact hv) ?_).trans some_iff.symm
    simpa using hne
  | headerUnset hn => exact (readsBack_header _ _ hn (by rintro v ⟨⟩) rfl).trans some_iff.symm
  | requestHeaderSet hn hv => exact (readsBack_requestHeaderSet hn hv).trans some_iff.symm
  | requestHeaderUnset hn => exact (readsBack_requestHeaderUnset hn).trans some_iff.symm
  | nameValue hk hn hv =>
    refine (readsBack_nameValue hk hn hv).trans ?_
    simp only [Kind.nameValueKinds, List.mem_cons, List.not_mem_nil, or_false] at hk
    rcases hk with rfl | rfl | rfl <;> exact some_iff.symm
  | nameFlag hn hon => exact (readsBack_nameFlag hn hon).trans some_iff.symm
  | valueWord hk hv =>
    refine (readsBack_valueWord hk hv).trans ?_
    simp only [Kind.valueWordKinds, List.mem_cons, List.not_mem_nil, or_false] at hk
    rcases hk with rfl | rfl | rfl <;> exact some_iff.symm
  | valueRest hk hv =>
    simp only [Kind.valueRestKinds, List.mem_cons, List.not_mem_nil, or_false] at hk
    rcases hk with rfl | rfl | rfl | rfl | rfl | rfl | rfl | rfl | rfl
    · exact iff_of_true (readsBack_hosts hv).1 none_holds
    · exact iff_of_true (readsBack_hosts hv).2 none_holds
    · exact iff_of_true (readsBack_requireIp hv) none_holds
    · exact iff_of_true (readsBack_requireNotIp hv) none_holds
    · exact iff_of_true (readsBack_authName hv) none_holds
    all_goals exact iff_of_true (readsBack_valueRest hv (by decide)) none_holds
  | nameList hk hn hv =>
    refine (readsBack_nameList hk hn hv).trans ?_
    simp only [Kind.nameListKinds, List.mem_cons, List.not_mem_nil, or_false] at hk
    rcases hk with rfl | rfl | rfl | rfl <;> exact some_iff.symm
  | bare hk =>
    refine iff_of_true (readsBack_require hk) ?_
    simp only [Kind.bareKinds, List.mem_cons, List.not_mem_nil, or_false] at hk
    rcases hk with rfl | rfl | rfl <;> exact none_holds
  | order ho => exact iff_of_true (readsBack_order ho) none_holds
  | redirect hlow hhigh ht hu =>
    exact (readsBack_redirect (.inl rfl) hlow hhigh ht hu).trans
      (some_iff (p := (Text.StaysTarget · _))).symm
  | redirectMatch hlow hhigh ht hu =>
    exact (readsBack_redirect (.inr rfl) hlow hhigh ht hu).trans
      (some_iff (p := (Text.StaysTarget · _))).symm
  | errorDocument hlow hhigh hne htrim hv =>
    exact iff_of_true (readsBack_errorDocument hlow hhigh hne htrim hv) none_holds
  | expiresActive => exact iff_of_true (readsBack_switch _).1 none_holds
  | expiresByType hn hv hd =>
    exact (readsBack_expiresByType hn hv hd).trans
      (some_iff (p := fun t => ∀ c ∈ t, Text.isBlank c = false)).symm
  | expiresDefault hv hd => exact iff_of_true (readsBack_expiresDefault hv hd) none_holds
  | setEnvIf hs hp hn heq hv => exact readsBack_setEnvIf hs hp hn heq hv
  | browserMatch hp hn heq hv => exact readsBack_browserMatch hp hn heq hv
  | guardSwitch hs =>
    rcases hs with rfl | rfl
    · exact iff_of_true (readsBack_switch _).2.1 none_holds
    · exact iff_of_true (readsBack_switch _).2.2 none_holds
  | allowedAttempts hpos hlt => exact iff_of_true (readsBack_guardNumber hpos hlt).1 none_holds
  | window hpos hlt => exact iff_of_true (readsBack_guardNumber hpos hlt).2.1 none_holds
  | throttleDuration hpos hlt => exact iff_of_true (readsBack_guardNumber hpos hlt).2.2 none_holds
  | guardAction ha => exact iff_of_true (readsBack_guardAction ha) none_holds
  | options hv => exact iff_of_true (readsBack_options hv) none_holds

end Rule

end HtGate
