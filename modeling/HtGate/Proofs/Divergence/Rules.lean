import HtGate.Proofs.Divergence.Framed
/-!
# Rules that make a difference

A rule that is not faithful is an AuthType, a path to protect or a rule for a content type. Each of them is
exposed between two others, which are chosen so that it counts whether or not the rule is read back.
-/

namespace HtGate

open Rule (SameBearing)

/-- Two AuthTypes that both ask for a user, or both do not, are the same to evaluations. -/
lemma Rule.SameBearing.of_authType {r r' : Rule} (hr : r.kind = .authType) (hr' : r'.kind = .authType)
    (h : r.namesBasic = r'.namesBasic) : SameBearing (some r) (some r') where
  weighed := by simp [weighed?, hr, hr', Kind.weighs]
  asksBasic := by simp [asksBasic?, hr, hr', h]
  lifetime := fun now s => by simp [lifetimeAt?, hr, hr']

/-- The last AuthType decides whether a user is asked for, where nothing else is. -/
lemma Evaluation.exists_framed_authType {w : Text} (inner : Option Rule)
    (hinner : ∀ r ∈ inner, r.kind = .authType) (a b c : Int) :
    ∃ e, ofDirectives { files := {} } (framed { kind := .authType, value := some w } inner a b c)
        (request none) = .ok e ∧
      e.decision.verdict = (if (inner.getD { kind := .authType, value := some w }).namesBasic
        then .denied else .allowed) := by
  have hinactive : Expires.isActive (framed { kind := .authType, value := some w } inner a b c) =
      .ok false := isActive_framed rfl (fun r hr => by rw [hinner r hr]; nofun) a b c
  obtain ⟨e, he, hverdict, -⟩ := ofDirectives_of_quiet { files := {} }
    (isQuiet_framed rfl (fun r hr => by rw [hinner r hr]; rfl) a b c)
    (Expires.apply_of_inactive hinactive 0 (request none))
  exact ⟨e, he, by rw [hverdict, isBasic_framed rfl hinner]⟩

/-- An AuthType that is not faithful is exposed: it asks for a user, or for none, in place of another
AuthType, and what it is read back as does not. -/
lemma exposed_of_authType {line v t : Text} {reading : LineReading} (hline : line.OneLine)
    (hr : Statement.ofLine? (Text.trim line) = some (.rule { kind := .authType, value := some v }))
    (hprint : Printer.rule { kind := .authType, value := some v } = .ok t)
    (hread : RuleReader.read (Text.trim t) = .ok reading)
    (hkind : ∀ r ∈ reading.rule, r.kind = .authType)
    (hne : ¬SameBearing (some { kind := .authType, value := some v }) reading.rule) :
    (Statement.rule { kind := .authType, value := some v }).Exposed := by
  obtain ⟨firstLine, w, hfirstLine, hfirst, hstable, hw⟩ : ∃ firstLine w : Text,
      firstLine.OneLine ∧
      Statement.ofLine? (Text.trim firstLine) = some (.rule { kind := .authType, value := some w }) ∧
      w.StaysWord ∧ (Rule.mk .authType none (some w) .none).namesBasic =
        !(Rule.mk .authType none (some v) .none).namesBasic := by
    cases (Rule.mk .authType none (some v) .none).namesBasic with
    | true => exact ⟨"AuthType x".toList, ['x'], by decide, rfl, by decide, rfl⟩
    | false => exact ⟨"AuthType basic".toList, "basic".toList, by decide, rfl, by decide, rfl⟩
  -- if the rule is lost, the one before it counts, which asks for the opposite
  have hflip : (reading.rule.getD { kind := .authType, value := some w }).namesBasic =
      !(Rule.mk .authType none (some v) .none).namesBasic := by
    cases hreading : reading.rule with
    | none => exact hw
    | some r' =>
      rw [hreading] at hne
      by_contra heq
      rw [Option.getD_some, Bool.not_eq_not] at heq
      exact hne (.of_authType rfl (hkind r' hreading) heq.symm)
  refine exposed_of_framed firstLine hline hr hfirstLine hfirst
    (fun t ht => by cases ht; exact hstable) hprint hread fun a b c a' b' c' => ?_
  obtain ⟨e, he, hverdict⟩ := Evaluation.exists_framed_authType
    (some { kind := .authType, value := some v }) (fun r hr => by cases hr; rfl) a b c
  obtain ⟨e', he', hverdict'⟩ := Evaluation.exists_framed_authType reading.rule hkind a' b' c'
  refine ⟨_, _, e, e', he, he', fun hsame => ?_⟩
  rw [hflip, hsame.verdict, hverdict, Option.getD_some] at hverdict'
  revert hverdict'
  cases (Rule.mk .authType none (some v) .none).namesBasic <;> exact nofun

/-- The only path to protect is the one of the policy, where nothing else is asked for. -/
lemma Evaluation.exists_framed_protectPath (inner : Option Rule)
    (hinner : ∀ r ∈ inner, r.kind = .guard .protectPath) (a b c : Int) :
    ∃ e, ofDirectives { files := {} }
        (framed { kind := .expiresActive, detail := .expires false 0 } inner a b c) (request none) =
          .ok e ∧
      e.policy = { protectPath := inner.bind (·.value) } := by
  have hinactive : Expires.isActive
      (framed { kind := .expiresActive, detail := .expires false 0 } inner a b c) = .ok false :=
    isActive_framed rfl (fun r hr => by rw [hinner r hr]; nofun) a b c
  obtain ⟨e, he, -, hpolicy, -⟩ := ofDirectives_of_quiet { files := {} }
    (isQuiet_framed rfl (fun r hr => by rw [hinner r hr]; rfl) a b c)
    (Expires.apply_of_inactive hinactive 0 (request none))
  rw [policy_framed rfl hinner] at hpolicy
  exact ⟨e, he, (Except.ok.inj hpolicy).symm⟩

/-- A path to protect that is not read back is exposed. -/
lemma exposed_of_protectPath {line v t : Text} {reading : LineReading} (hline : line.OneLine)
    (hr : Statement.ofLine? (Text.trim line) =
      some (.rule { kind := .guard .protectPath, value := some v }))
    (hprint : Printer.rule { kind := .guard .protectPath, value := some v } = .ok t)
    (hread : RuleReader.read (Text.trim t) = .ok reading)
    (hkind : ∀ r ∈ reading.rule, r.kind = .guard .protectPath)
    (hne : reading.rule.bind (·.value) ≠ some v) :
    (Statement.rule { kind := .guard .protectPath, value := some v }).Exposed := by
  refine exposed_of_framed "ExpiresActive Off".toList hline hr (by decide) rfl nofun
    hprint hread fun a b c a' b' c' => ?_
  obtain ⟨e, he, hpolicy⟩ := Evaluation.exists_framed_protectPath
    (some { kind := .guard .protectPath, value := some v })
    (fun r hr => by cases hr; rfl) a b c
  obtain ⟨e', he', hpolicy'⟩ := Evaluation.exists_framed_protectPath reading.rule hkind a' b' c'
  refine ⟨_, _, e, e', he, he', fun hsame => hne ?_⟩
  have hpath := congrArg GuardPolicy.protectPath hsame.policy
  rwa [hpolicy, hpolicy'] at hpath

/-- A lifetime for the response is the lifetime of a rule that names the content type, and has a date. -/
lemma Rule.lifetimeAt?_eq_some {r : Rule} {now : Rat} {s : Session} {n : Int}
    (h : r.lifetimeAt? now s = some n) :
    r.names s = true ∧ Expires.lifetime r = .ok (.ok n) ∧
      (Expires.stamp now n s).result = .ok n := by
  rw [lifetimeAt?, Option.ite_none_right_eq_some, Bool.and_eq_true] at h
  obtain ⟨⟨-, hnames⟩, h⟩ := h
  cases hl : Expires.lifetime r with
  | error fault => simp [hl] at h
  | ok found =>
    cases found with
    | error reason => simp [hl] at h
    | ok seconds =>
      simp only [hl, Option.ite_none_right_eq_some, Option.some.injEq] at h
      obtain ⟨hok, rfl⟩ := h
      cases hstamp : (Expires.stamp now seconds s).result with
      | error fault => simp [hstamp, Except.isOk, Except.toBool] at hok
      | ok m => exact ⟨hnames, rfl, by rw [Expires.stamp_eq_ok hstamp]⟩

namespace Expires

/-- The lifetime between other rules, where lifetimes are on. -/
lemma apply_framed {inner : Option Rule} {now : Rat} {s : Session}
    (hkind : ∀ r ∈ inner, r.kind = .expiresByType)
    (h : (∀ r ∈ inner, r.names s = false) ∨ ∃ n, inner.bind (Rule.lifetimeAt? now s) = some n)
    (a b c : Int) :
    (apply now (framed { kind := .expiresActive, detail := .expires true 0 } inner a b c) s).result =
      .ok (inner.bind (Rule.lifetimeAt? now s)) := by
  have hactive : isActive (framed { kind := .expiresActive, detail := .expires true 0 } inner a b c) =
      .ok true := isActive_framed rfl (fun r hr => by rw [hkind r hr]; nofun) a b c
  cases inner with
  | none =>
    rw [apply, find, hactive]
    rfl
  | some r =>
    have hr : r.kind = .expiresByType := hkind r rfl
    have hcandidates : candidates
        (framed { kind := .expiresActive, detail := .expires true 0 } (some r) a b c) s =
          if r.names s then [(b, r)] else [] := by
      have hrules : rulesFor (contentType s)
          (framed { kind := .expiresActive, detail := .expires true 0 } (some r) a b c) =
            if r.names s then [(b, r)] else [] := by
        have hnil : rulesFor (contentType s) [] = [] := rfl
        simp [framed, rulesFor_cons, hr, hnil]
      have hdefaults : defaultRules
          (framed { kind := .expiresActive, detail := .expires true 0 } (some r) a b c) = [] := by
        simp [framed, defaultRules, hr]
      rw [candidates, hrules, hdefaults, List.append_nil]
    rw [apply, find, hactive]
    simp only [hcandidates]
    -- the rule is for another type and nothing is found, or it is the one that is found
    rcases h with hnot | ⟨n, hn⟩
    · have hnames : r.names s = false := hnot r rfl
      simp [hnames, first, Outcome.andThen, Rule.lifetimeAt?]
    · obtain ⟨hnames, hlifetime, hstamp⟩ := Rule.lifetimeAt?_eq_some hn
      rw [hn]
      simp [hnames, first, hlifetime, Outcome.andThen, hstamp]

/-- A lifetime depends on nothing of the request but the content type. -/
lemma lifetimeAt?_request (now : Rat) (s : Session) :
    Rule.lifetimeAt? now (Evaluation.request s.contentType) = Rule.lifetimeAt? now s := by
  funext r
  have hnames : r.names (Evaluation.request s.contentType) = r.names s := rfl
  simp only [Rule.lifetimeAt?, hnames, stamp_result now _ (Evaluation.request s.contentType) s]

end Expires

/-- Two rules for a content type are the same to evaluations if they always give the same lifetime. -/
lemma Rule.SameBearing.of_expiresByType {r : Rule} {o : Option Rule} (hr : r.kind = .expiresByType)
    (ho : ∀ r' ∈ o, r'.kind = .expiresByType)
    (h : ∀ now s, o.bind (lifetimeAt? now s) = r.lifetimeAt? now s) : SameBearing (some r) o := by
  cases o with
  | none => exact ⟨by simp [weighed?, hr, Kind.weighs], by simp [asksBasic?, hr], fun now s => (h now s).symm⟩
  | some r' =>
    have hr' := ho r' rfl
    exact ⟨by simp [weighed?, hr, hr', Kind.weighs], by simp [asksBasic?, hr, hr'],
      fun now s => (h now s).symm⟩

/-- Of two rules that are for no content type in common, and do not give the same lifetime, one is not for
the content type, and the other gives a lifetime. -/
lemma Rule.lifetimeAt?_apart {r : Rule} {o : Option Rule} {now : Rat} {s : Session}
    (hapart : ∀ r' ∈ o, r.names s = true → r'.names s = false)
    (hne : o.bind (lifetimeAt? now s) ≠ r.lifetimeAt? now s) :
    (r.names s = false ∨ ∃ n, r.lifetimeAt? now s = some n) ∧
      ((∀ r' ∈ o, r'.names s = false) ∨ ∃ n, o.bind (lifetimeAt? now s) = some n) := by
  -- one of the two gives a lifetime, and the other one is then for another type
  cases hl : r.lifetimeAt? now s with
  | some n =>
    obtain ⟨hnames, -⟩ := lifetimeAt?_eq_some hl
    exact ⟨.inr ⟨n, rfl⟩, .inl fun r' hr' => hapart r' hr' hnames⟩
  | none =>
    rw [hl] at hne
    obtain ⟨n, hn⟩ := Option.ne_none_iff_exists'.1 hne
    obtain ⟨r', hr', hl'⟩ := Option.bind_eq_some_iff.1 hn
    obtain ⟨hnames', -⟩ := lifetimeAt?_eq_some hl'
    refine ⟨.inl ?_, .inr ⟨n, hn⟩⟩
    by_contra hnames
    rw [hapart r' hr' (by simpa using hnames)] at hnames'
    cases hnames'

/-- The only rule for a content type gives the lifetime, where nobody is asked for. -/
lemma Evaluation.exists_framed_expiresByType (inner : Option Rule) {now : Rat} {type : Option Text}
    (hinner : ∀ r ∈ inner, r.kind = .expiresByType)
    (h : (∀ r ∈ inner, r.names (request type) = false) ∨
      ∃ n, inner.bind (Rule.lifetimeAt? now (request type)) = some n) (a b c : Int) :
    ∃ e, ofDirectives { files := {}, now }
        (framed { kind := .expiresActive, detail := .expires true 0 } inner a b c) (request type) =
          .ok e ∧
      e.lifetime = inner.bind (Rule.lifetimeAt? now (request type)) := by
  obtain ⟨e, he, hverdict, -, hgiven⟩ := ofDirectives_of_quiet { files := {}, now }
    (isQuiet_framed rfl (fun r hr => by rw [hinner r hr]; rfl) a b c)
    (Expires.apply_framed hinner h a b c)
  rw [isBasic_framed_of_ne rfl fun r hr => .inl (hinner r hr)] at hverdict
  exact ⟨e, he, hgiven hverdict⟩

/-- A rule for a content type that is not faithful is exposed, if what it is read back as is for another
content type. -/
lemma exposed_of_expiresByType {line t : Text} {r : Rule} {reading : LineReading}
    (hline : line.OneLine) (hr : Statement.ofLine? (Text.trim line) = some (.rule r))
    (hkind : r.kind = .expiresByType) (hprint : Printer.rule r = .ok t)
    (hread : RuleReader.read (Text.trim t) = .ok reading)
    (hinner : ∀ r' ∈ reading.rule, r'.kind = .expiresByType)
    (hapart : ∀ r' ∈ reading.rule, ∀ s, r.names s = true → r'.names s = false)
    (hne : ¬SameBearing (some r) reading.rule) : (Statement.rule r).Exposed := by
  -- there are an instant and a content type for which the lifetimes differ
  obtain ⟨now, type, hlifetime⟩ : ∃ now type,
      reading.rule.bind (Rule.lifetimeAt? now (Evaluation.request type)) ≠
        r.lifetimeAt? now (Evaluation.request type) := by
    by_contra hall
    push Not at hall
    refine hne (.of_expiresByType hkind hinner fun now s => ?_)
    rw [← Expires.lifetimeAt?_request]
    exact hall now s.contentType
  obtain ⟨hr₁, hr₂⟩ := Rule.lifetimeAt?_apart (fun r' hr' => hapart r' hr' _) hlifetime
  refine exposed_of_framed "ExpiresActive On".toList hline hr (by decide) rfl nofun
    hprint hread fun a b c a' b' c' => ?_
  obtain ⟨e, he, hdirect⟩ := Evaluation.exists_framed_expiresByType (some r)
    (fun r' hr' => by cases hr'; exact hkind)
    (hr₁.imp (fun hnot r' hr' => by cases hr'; exact hnot) id) a b c
  obtain ⟨e', he', hreread⟩ := Evaluation.exists_framed_expiresByType reading.rule hinner hr₂ a' b' c'
  refine ⟨_, _, e, e', he, he', fun hsame => hlifetime ?_⟩
  rw [← hreread, hsame.lifetime, hdirect]
  rfl

/-- A name of a content type is not all blanks, because the content type of a response is trimmed. -/
lemma Expires.exists_not_isBlank {name : Text} (hblank : ∃ d ∈ name, Text.isBlank d = true)
    {s : Session} (h : Text.lower name = Text.lower (contentType s)) :
    ∃ d ∈ name, Text.isBlank d = false := by
  rw [← Text.exists_mem_lower_iff, h, Text.exists_mem_lower_iff]
  rcases Text.trim_solid (Text.cut ';' _).1 with hnil | ⟨⟨d, hd, hs⟩, -⟩
  · obtain ⟨d, hd, -⟩ := Text.exists_mem_lower_iff.1
      (h ▸ Text.exists_mem_lower_iff.2 hblank)
    rw [contentType, hnil] at hd
    cases hd
  · exact ⟨d, List.mem_of_mem_head? hd, Text.isBlank_of_not_isWhitespace hs⟩

/-- A rule for a content type with a blank is read back as a rule for another content type, if it is read
at all. -/
lemma names_apart {r r' : Rule} {name value t : Text} {seconds : Int} {reading : LineReading}
    (hr : r = { kind := .expiresByType, name := some name, value := some value,
                detail := .expires false seconds })
    (hn : name.IsName) (hv : value.OneLine) (hblank : ∃ d ∈ name, Text.isBlank d = true)
    (hprint : Printer.rule r = .ok t) (hread : RuleReader.read (Text.trim t) = .ok reading)
    (hr' : r' ∈ reading.rule) {s : Session} (hnames : r.names s = true) : r'.names s = false := by
  have hquote : '"' ∉ name := by
    obtain ⟨d, hd, hb⟩ := hblank
    intro hq
    rw [hn.blankless hq d hd] at hb
    cases hb
  subst hr
  simp only [Rule.names, Option.any_some, Bool.and_eq_true, beq_iff_eq] at hnames
  have hwritten : Rule.Line
      { kind := .expiresByType, name := some name, value := some value,
        detail := .expires false seconds } _ _ := Rule.line_expiresByType hn hv
  obtain ⟨c, hc, hreader⟩ := hwritten.read
  rw [hreader t hprint, RuleReader.expiresByType] at hread
  have hends : Text.EndsSolid (name ++ ' ' :: Printer.enclose value) :=
    ((Text.endsSolid_concat ('"' :: value) rfl).cons ' ').append name
  rw [Text.trimEnd_eq_self_iff.2 (.inr hends)] at hc
  split at hread
  · cases hread
    cases hr'
  · rename_i w c1 hw
    have hsolid := Expires.exists_not_isBlank hblank hnames.2
    have hblankless := Rule.blankless_of_word?_contentType hquote hsolid hc hw
    have hline : '\n' ∉ c1.remaining := by
      intro hm
      have hm' := (Cursor.word?_spec hw).2.2.2 hm
      rw [hc] at hm'
      simp only [List.mem_cons, List.mem_append, Char.reduceEq, false_or] at hm'
      exact hm'.elim hn.oneLine (Printer.oneLine_enclose hv)
    have hname : r'.name = some w := by
      obtain ⟨rule, remarks⟩ := reading
      cases hr'
      obtain ⟨-, v, n, -, -, -, rfl⟩ := RuleReader.lifetime_eq_ok hline hread
      rfl
    rw [Rule.names, hname]
    simp only [Option.any_some, Bool.and_eq_false_iff, Bool.not_eq_false', beq_eq_false_iff_ne]
    right
    -- the name that is read has no blank, and the content type has one
    intro heq
    obtain ⟨d, hd, hb⟩ := Text.exists_mem_lower_iff.1
      (heq ▸ hnames.2 ▸ Text.exists_mem_lower_iff.2 hblank)
    rw [hblankless d hd] at hb
    cases hb

/-- The rules that may be read back as something that evaluations tell apart from them. -/
lemma Rule.cases_of_not_faithful {r : Rule} (hw : r.WellFormed) (h : ¬r.Faithful) :
    (∃ v, r = { kind := .authType, value := some v }) ∨
      (∃ v, r = { kind := .guard .protectPath, value := some v }) ∨
      ∃ name value, ∃ seconds : Int, name.IsName ∧ value.OneLine ∧
        (∃ d ∈ name, Text.isBlank d = true) ∧
        r = { kind := .expiresByType, name := some name, value := some value,
              detail := .expires false seconds } := by
  have hstable : ¬r.Stable := fun hs => h (faithful_of_stable hw hs)
  have hidle : ¬r.kind.isIdle = true := fun hi => h (faithful_of_isIdle hw hi)
  have none_holds {p : Text → Prop} : ∀ s ∈ (none : Option Text), p s := by rintro s ⟨⟩
  cases hw with
  | valueWord hk hv =>
    simp only [Kind.valueWordKinds, List.mem_cons, List.not_mem_nil, or_false] at hk
    rcases hk with rfl | rfl | rfl
    · exact .inl ⟨_, rfl⟩
    · exact absurd rfl hidle
    · exact .inr (.inl ⟨_, rfl⟩)
  | @expiresByType name value seconds hn hv hd =>
    refine .inr (.inr ⟨name, value, seconds, hn, hv, ?_, rfl⟩)
    by_contra hblank
    refine hstable fun t ht d hd => ?_
    cases ht
    by_contra hb
    exact hblank ⟨d, hd, by simpa using hb⟩
  | nameValue hk =>
    -- rules of all other kinds are idle or stable
    simp only [Kind.nameValueKinds, List.mem_cons, List.not_mem_nil, or_false] at hk
    rcases hk with rfl | rfl | rfl <;> exact absurd rfl hidle
  | nameList hk =>
    simp only [Kind.nameListKinds, List.mem_cons, List.not_mem_nil, or_false] at hk
    rcases hk with rfl | rfl | rfl | rfl <;> exact absurd rfl hidle
  | valueRest hk =>
    simp only [Kind.valueRestKinds, List.mem_cons, List.not_mem_nil, or_false] at hk
    rcases hk with rfl | rfl | rfl | rfl | rfl | rfl | rfl | rfl | rfl <;>
      exact absurd none_holds hstable
  | bare hk =>
    simp only [Kind.bareKinds, List.mem_cons, List.not_mem_nil, or_false] at hk
    rcases hk with rfl | rfl | rfl <;> exact absurd none_holds hstable
  | guardSwitch hs => rcases hs with rfl | rfl <;> exact absurd none_holds hstable
  | header | headerUnset | requestHeaderSet | requestHeaderUnset | nameFlag | redirect
  | redirectMatch | errorDocument | setEnvIf | browserMatch | options => exact absurd rfl hidle
  | order | expiresActive | expiresDefault | allowedAttempts | window | throttleDuration
  | guardAction => exact absurd none_holds hstable

/-- A path to protect is a value and nothing else. -/
lemma Rule.WellFormed.eq_of_protectPath {r : Rule} (h : r.WellFormed)
    (hk : r.kind = .guard .protectPath) : r = { kind := .guard .protectPath, value := r.value } := by
  cases h with
  | valueWord => cases hk; rfl
  | nameValue hmem | nameList hmem | valueRest hmem | bare hmem =>
    cases hk
    exact absurd hmem (by decide)
  | guardSwitch hs =>
    cases hk
    rcases hs with hs | hs <;> cases hs
  | _ => cases hk

/-- The keywords of some kinds are those of no other kinds. -/
lemma Kind.eq_of_keyword {kind kind' : Kind} (hkind : kind ∈ [authType, guard .protectPath, expiresByType])
    (h : kind'.keyword = kind.keyword) : kind' = kind := by
  have hall : ∀ k ∈ [authType, guard .protectPath, expiresByType], kind'.keyword = k.keyword →
      kind' = k := by
    cases kind' with
    | header always action => cases always <;> cases action <;> decide
    | phpValue admin | phpFlag admin => cases admin <;> decide
    | guard setting => cases setting <;> decide
    | other name =>
      have hne : ∀ k ∈ [authType, guard .protectPath, expiresByType], [] ≠ k.keyword := by decide
      exact fun k hk heq => absurd heq (hne k hk)
    | _ => decide
  exact hall kind hkind h

/-- A rule that is not faithful is exposed. -/
theorem exposed_of_rule {line : Text} {r : Rule} (hline : line.OneLine)
    (hr : Statement.ofLine? (Text.trim line) = some (.rule r)) (h : ¬r.Faithful) :
    (Statement.rule r).Exposed := by
  have hw : r.WellFormed :=
    Statement.wellFormed_of_ofLine? (fun hm => hline (Text.mem_of_mem_trim hm)) hr
  obtain ⟨t, reading, hprint, hread, hne⟩ : ∃ t reading, Printer.rule r = .ok t ∧
      RuleReader.read (Text.trim t) = .ok reading ∧ ¬SameBearing (some r) reading.rule := by
    rw [Rule.Faithful] at h
    push Not at h
    exact h
  have hkeyword : ∀ r' ∈ reading.rule, r'.kind.keyword = r.kind.keyword := by
    obtain ⟨rule, remarks⟩ := reading
    rintro r' ⟨⟩
    exact Rule.keyword_of_read hw hprint hread
  have hkind (hk : r.kind ∈ [Kind.authType, .guard .protectPath, .expiresByType]) :
      ∀ r' ∈ reading.rule, r'.kind = r.kind :=
    fun r' hr' => Kind.eq_of_keyword hk (hkeyword r' hr')
  -- three kinds of rule can be unfaithful, and each is exposed in a text of its own
  rcases Rule.cases_of_not_faithful hw h with ⟨v, rfl⟩ | ⟨v, rfl⟩ |
    ⟨name, value, seconds, hn, hv, hblank, heq⟩
  · exact exposed_of_authType hline hr hprint hread (hkind (by simp)) hne
  · refine exposed_of_protectPath hline hr hprint hread (hkind (by simp)) fun hvalue => hne ?_
    obtain ⟨t', hprint', hline', -⟩ := Statement.written_of_wellFormed (x := .rule _) hw
    obtain rfl := Except.ok.inj (hprint.symm.trans hprint')
    obtain ⟨rule, remarks⟩ := reading
    obtain ⟨r', rfl, hv⟩ := Option.bind_eq_some_iff.1 hvalue
    have hr' := (RuleReader.wellFormed_of_read
      (fun hm => hline' (Text.mem_of_mem_trim hm)) hread).1.eq_of_protectPath (hkind (by simp) r' rfl)
    rw [hr', hv]
    exact .refl _
  · have hk : r.kind = .expiresByType := by rw [heq]
    refine exposed_of_expiresByType hline hr hk hprint hread
      (fun r' hr' => (hkind (by simp [hk]) r' hr').trans hk) (fun r' hr' s hs => ?_) hne
    exact names_apart heq hn hv hblank hprint hread hr' hs

end HtGate
