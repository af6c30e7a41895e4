import HtGate.Proofs.Access.HostLists
/-!
# Host rules as sets

Legacy rules are the last order and two sets of tokens, those of the Allow rules and those of the Deny rules.
How the tokens are grouped into rules, in which order they come, and how often, makes no difference; and a
further Allow rule lets nobody fewer in, a further Deny rule nobody more. The one thing besides that matters
is whether there are any rules.
-/

namespace HtGate

namespace Legacy

variable {ds es : List Directive} {ip : Option Text}

/-- The order that comes last. -/
def lastOrder (ds : List Directive) : Option Text :=
  ds.reverse.findSome? (·.word? .order Detail.order?)

/-- The tokens of the host lists of a kind. -/
def tokens (kind : Kind) (ds : List Directive) : List Text :=
  (ds.flatMap (hosts kind)).flatMap HostList.tokens

/-- Whether a host list of a kind names an address. -/
def Names (kind : Kind) (ds : List Directive) (address : Int) : Prop :=
  ∃ host ∈ tokens kind ds, HostList.names address host = .ok true

/-- A search through the host lists of a kind finds out whether they name an address. -/
lemma anyContains_eq_ok {kind : Kind} {address : Int} {b : Bool}
    (h : anyContains address (ds.flatMap (hosts kind)) = .ok b) : b = true ↔ Names kind ds address := by
  rw [anyContains_eq_anyM] at h
  rw [anyM_eq_ok (fun _ _ => HostList.contains_eq_ok) h, Names, tokens]
  constructor
  · rintro ⟨list, hlist, host, hhost, hnames⟩
    exact ⟨host, List.mem_flatMap.2 ⟨list, hlist, hhost⟩, hnames⟩
  · rintro ⟨host, hhost, hnames⟩
    obtain ⟨list, hlist, hmem⟩ := List.mem_flatMap.1 hhost
    exact ⟨list, hlist, host, hmem, hnames⟩

/-- Rules are empty exactly as long as no directive for them has come. -/
lemma isEmpty_add {d : Directive} {rules rules' : Rules} (h : rules.add d = .ok rules') :
    rules'.isEmpty = (rules.isEmpty && !Require.isLegacy d) := by
  cases d with
  | block line head children =>
    cases h
    simp [Require.isLegacy]
  | rule line r =>
    cases hk : r.kind with
    | order =>
      cases hdetail : r.detail <;> simp [Rules.add, hk, hdetail] at h
      simp [← h, Rules.isEmpty, Require.isLegacy, hk, Kind.isLegacyAccess]
    | _ =>
      simp only [Rules.add, hk, Except.ok.injEq] at h
      simp [← h, Rules.isEmpty, Require.isLegacy, hk, Kind.isLegacyAccess]

/-- The rules of a sequence, if they can be taken up: the last order, the host lists of both kinds, and whether
there are any. -/
lemma ofDirectives_eq_ok {rules : Rules} (h : Rules.ofDirectives ds = .ok rules) :
    rules = { order := lastOrder ds, allow := ds.flatMap (hosts .allowFrom),
              deny := ds.flatMap (hosts .denyFrom) } ∧
      rules.isEmpty = !ds.any Require.isLegacy := by
  induction ds using List.reverseRecOn generalizing rules with
  | nil =>
    cases h
    exact ⟨rfl, rfl⟩
  | append_singleton ds d ih =>
    -- directives are taken up in order, so the last one shows what has changed
    rw [ofDirectives_concat] at h
    cases hds : Rules.ofDirectives ds with
    | error fault => simp [hds, bind, Except.bind] at h
    | ok before =>
      obtain ⟨hbefore, hempty⟩ := ih hds
      have hadd : before.add d = .ok rules := by rwa [hds] at h
      refine ⟨?_, ?_⟩
      · rw [eq_of_add hadd, hbefore]
        simp only [lastOrder, List.flatMap_append, List.flatMap_singleton, List.reverse_append,
          List.reverse_singleton, List.singleton_append, List.findSome?_cons]
        cases d.word? .order Detail.order? <;> rfl
      · rw [isEmpty_add hadd, hempty]
        simp

/-- What is found about a client by the tokens and the last order. -/
inductive Found (ds : List Directive) (ip : Option Text) : Finding → Prop where
  | noRules : ds.any Require.isLegacy = false → Found ds ip .noRules
  | unreadableAddress {reason} : ds.any Require.isLegacy = true → Ipv4.parse ip = .ok (.error reason) →
    Found ds ip (.unreadableAddress ip reason)
  | matched {address : Nat} {allowed denied} : ds.any Require.isLegacy = true →
    Ipv4.parse ip = .ok (.ok address) → (allowed = true ↔ Names .allowFrom ds address) →
    (denied = true ↔ Names .denyFrom ds address) →
    Found ds ip (.matched ip (Rules.effectiveOrder { order := lastOrder ds }) allowed denied)

/-- What is found is what the tokens and the last order say. -/
lemma found_of_find {f : Finding} (h : find ds ip = .ok f) : Found ds ip f := by
  -- the cases follow `find`: what fails ends it, and what does not is a premise of the finding
  cases hrules : Rules.ofDirectives ds with
  | error fault => simp [find, hrules, bind, Except.bind] at h
  | ok rules =>
    obtain ⟨heq, hempty⟩ := ofDirectives_eq_ok hrules
    cases hlegacy : ds.any Require.isLegacy with
    | false =>
      rw [hlegacy, Bool.not_false] at hempty
      obtain rfl : .noRules = f := by
        simpa [find, hrules, hempty, bind, Except.bind, pure, Except.pure] using h
      exact .noRules hlegacy
    | true =>
      rw [hlegacy, Bool.not_true] at hempty
      cases hip : Ipv4.parse ip with
      | error fault => simp [find, hrules, hempty, hip, bind, Except.bind] at h
      | ok reading =>
        cases reading with
        | error reason =>
          obtain rfl : .unreadableAddress ip reason = f := by
            simpa [find, hrules, hempty, hip, bind, Except.bind, pure, Except.pure] using h
          exact .unreadableAddress hlegacy hip
        | ok address =>
          rw [find_of_readable hrules hempty hip, heq] at h
          cases hallowed : anyContains address (ds.flatMap (hosts .allowFrom)) with
          | error fault => simp [hallowed, Except.bind] at h
          | ok allowed =>
            cases hdenied : anyContains address (ds.flatMap (hosts .denyFrom)) with
            | error fault => simp [hallowed, hdenied, Except.bind, Except.map] at h
            | ok denied =>
              simp only [hallowed, hdenied, Except.bind, Except.map, Except.ok.injEq] at h
              rw [← h]
              exact .matched hlegacy hip (anyContains_eq_ok hallowed) (anyContains_eq_ok hdenied)

/-- An evaluation that comes to a decision comes from what is found. -/
lemma exists_find_of_result {source : Text} {s : Session} {d : Decision}
    (h : (evaluate source ds s).result = .ok d) :
    ∃ f, find ds s.clientIp = .ok f ∧ d = f.decision ∧
      evaluate source ds s = ⟨.ok f.decision, f.apply s, (f.record? source).toList⟩ := by
  rw [evaluate] at h ⊢
  cases hfind : find ds s.clientIp with
  | error fault => simp [hfind] at h
  | ok f =>
    simp only [hfind, Except.ok.injEq] at h
    exact ⟨f, rfl, h.symm, rfl⟩

/-- Whether two sequences have the same host rules: the same last order, the same tokens in Allow rules and in
Deny rules, and either both have legacy rules or neither has. -/
structure SameRules (ds es : List Directive) : Prop where
  order : lastOrder ds = lastOrder es
  allowed : ∀ host, host ∈ tokens .allowFrom ds ↔ host ∈ tokens .allowFrom es
  denied : ∀ host, host ∈ tokens .denyFrom ds ↔ host ∈ tokens .denyFrom es
  legacy : ds.any Require.isLegacy = es.any Require.isLegacy

/-- Whether the second of two sequences is kinder: it allows the tokens that the first one allows, and denies
only tokens that the first one denies. -/
structure Kinder (ds es : List Directive) : Prop where
  order : lastOrder ds = lastOrder es
  allowed : tokens .allowFrom ds ⊆ tokens .allowFrom es
  denied : tokens .denyFrom es ⊆ tokens .denyFrom ds
  legacy : ds.any Require.isLegacy = es.any Require.isLegacy

/-- Among more tokens, an address is named that is named among fewer. -/
lemma Names.mono {kind : Kind} {address : Int} (hsub : tokens kind ds ⊆ tokens kind es)
    (h : Names kind ds address) : Names kind es address := by
  obtain ⟨host, hhost, hnames⟩ := h
  exact ⟨host, hsub hhost, hnames⟩

/-- The same tokens name the same addresses. -/
lemma Names.congr {kind : Kind} {address : Int}
    (hsame : ∀ host, host ∈ tokens kind ds ↔ host ∈ tokens kind es) :
    Names kind ds address ↔ Names kind es address :=
  ⟨mono fun host => (hsame host).1, mono fun host => (hsame host).2⟩

/-- Under the same host rules the same is found. -/
lemma Found.eq_of_sameRules (h : SameRules ds es) {f f' : Finding} (hf : Found ds ip f)
    (hf' : Found es ip f') : f = f' := by
  have hlegacy := h.legacy
  -- findings of two different kinds would set the rules or the addresses apart
  cases hf with
  | noRules hds =>
    cases hf' with
    | noRules _ => rfl
    | unreadableAddress hes _ => simp [hds, hes] at hlegacy
    | matched hes _ _ _ => simp [hds, hes] at hlegacy
  | unreadableAddress hds hip =>
    cases hf' with
    | noRules hes => simp [hds, hes] at hlegacy
    | unreadableAddress _ hip' =>
      cases hip.symm.trans hip'
      rfl
    | matched _ hip' _ _ => cases hip.symm.trans hip'
  | matched hds hip hallowed hdenied =>
    cases hf' with
    | noRules hes => simp [hds, hes] at hlegacy
    | unreadableAddress _ hip' => cases hip.symm.trans hip'
    | matched _ hip' hallowed' hdenied' =>
      cases hip.symm.trans hip'
      rw [h.order, Bool.eq_iff_iff.2 (hallowed.trans ((Names.congr h.allowed).trans hallowed'.symm)),
        Bool.eq_iff_iff.2 (hdenied.trans ((Names.congr h.denied).trans hdenied'.symm))]

/-- To be allowed in addition, or denied no longer, keeps nobody out. -/
lemma isDenied_mono {order : Text} {allowed allowed' denied denied' : Bool}
    (hallowed : allowed = true → allowed' = true) (hdenied : denied' = true → denied = true)
    (h : isDenied order allowed denied = false) : isDenied order allowed' denied' = false := by
  rw [isDenied] at h ⊢
  cases allowed <;> cases allowed' <;> cases denied <;> cases denied' <;> simp_all

/-- Kinder host rules turn nobody away whom the others let in. -/
lemma Found.isDenial_of_kinder (h : Kinder ds es) {f f' : Finding} (hf : Found ds ip f)
    (hf' : Found es ip f') (hlets : f.isDenial = false) : f'.isDenial = false := by
  have hlegacy := h.legacy
  cases hf' with
  | noRules _ => rfl
  | unreadableAddress _ _ => rfl
  | matched hes hip' hallowed' hdenied' =>
    cases hf with
    | noRules hds => simp [hds, hes] at hlegacy
    | unreadableAddress _ hip => cases hip.symm.trans hip'
    | matched _ hip hallowed hdenied =>
      cases hip.symm.trans hip'
      rw [Finding.isDenial, ← h.order]
      apply isDenied_mono _ _ hlets
      · exact fun ha => hallowed'.2 ((hallowed.1 ha).mono h.allowed)
      · exact fun hd => hdenied.2 ((hdenied'.1 hd).mono h.denied)

section Insert

variable {kind : Kind} {before after : List Directive} {d : Directive} {line : Int} {r : Rule}

/-- The tokens of two sequences put together are those of the one and then those of the other. -/
lemma tokens_append (kind : Kind) (ds es : List Directive) :
    tokens kind (ds ++ es) = tokens kind ds ++ tokens kind es := by
  simp [tokens]

/-- One more directive takes no token away. -/
lemma tokens_subset_insert : tokens kind (before ++ after) ⊆ tokens kind (before ++ d :: after) := by
  rw [← List.singleton_append (x := d), tokens_append, tokens_append, tokens_append]
  intro host hhost
  simp only [List.mem_append] at hhost ⊢
  tauto

/-- A rule of another kind has no tokens of this one. -/
lemma tokens_insert_of_ne (h : r.kind ≠ kind) :
    tokens kind (before ++ .rule line r :: after) = tokens kind (before ++ after) := by
  have hnone : tokens kind [.rule line r] = [] := by simp [tokens, hosts, h]
  rw [← List.singleton_append, tokens_append, tokens_append, tokens_append, hnone, List.nil_append]

/-- A rule that is no Order does not change which order comes last. -/
lemma lastOrder_insert (h : r.kind ≠ .order) :
    lastOrder (before ++ .rule line r :: after) = lastOrder (before ++ after) := by
  have hword : (Directive.rule line r).word? .order Detail.order? = none := if_neg h
  simp [lastOrder, List.findSome?_append, hword]

/-- Where there are legacy rules, there are with one more directive. -/
lemma any_isLegacy_insert (h : (before ++ after).any Require.isLegacy = true) :
    (before ++ d :: after).any Require.isLegacy = true := by
  simp only [List.any_append, List.any_cons, Bool.or_eq_true] at h ⊢
  tauto

/-- With one more Allow rule, host rules are kinder. -/
lemma Kinder.insert_allow (hlegacy : (before ++ after).any Require.isLegacy = true)
    (hk : r.kind = .allowFrom) : Kinder (before ++ after) (before ++ .rule line r :: after) where
  order := (lastOrder_insert (by simp [hk])).symm
  allowed := tokens_subset_insert
  denied := by
    rw [tokens_insert_of_ne (by simp [hk])]
    exact List.Subset.refl _
  legacy := hlegacy.trans (any_isLegacy_insert hlegacy).symm

/-- With one Deny rule fewer, host rules are kinder. -/
lemma Kinder.remove_deny (hlegacy : (before ++ after).any Require.isLegacy = true)
    (hk : r.kind = .denyFrom) : Kinder (before ++ .rule line r :: after) (before ++ after) where
  order := lastOrder_insert (by simp [hk])
  allowed := by
    rw [tokens_insert_of_ne (by simp [hk])]
    exact List.Subset.refl _
  denied := tokens_subset_insert
  legacy := (any_isLegacy_insert hlegacy).trans hlegacy.symm

end Insert

/-- The verdict on what is found says whether the client is turned away. -/
lemma Finding.verdict_decision (f : Finding) :
    f.decision.verdict = if f.isDenial then .denied else .allowed := by
  rw [decision]
  split <;> rfl

/-- Whom kinder host rules turn away, the others turn away too. -/
lemma verdict_of_kinder (h : Kinder ds es) {source : Text} {s : Session} {d d' : Decision}
    (hd : (evaluate source ds s).result = .ok d) (hd' : (evaluate source es s).result = .ok d') :
    (d.verdict = .allowed → d'.verdict = .allowed) ∧ (d'.verdict = .denied → d.verdict = .denied) := by
  obtain ⟨f, hf, rfl, -⟩ := exists_find_of_result hd
  obtain ⟨f', hf', rfl, -⟩ := exists_find_of_result hd'
  have hlets := (found_of_find hf).isDenial_of_kinder h (found_of_find hf')
  rw [Finding.verdict_decision, Finding.verdict_decision]
  cases hdenial : f.isDenial with
  | true => simp
  | false => simp [hlets hdenial]

/-- The legacy verdict depends on the last order and the sets of tokens only. Where there are legacy rules, one
more Allow rule turns nobody away, and one more Deny rule lets nobody in. -/
theorem evaluate_extensional_monotone (source : Text) (s : Session) :
    (∀ ds es d d', SameRules ds es → (evaluate source ds s).result = .ok d →
      (evaluate source es s).result = .ok d' → evaluate source ds s = evaluate source es s) ∧
    ∀ before after line r d d', (before ++ after).any Require.isLegacy = true →
      (evaluate source (before ++ after) s).result = .ok d →
      (evaluate source (before ++ .rule line r :: after) s).result = .ok d' →
      (r.kind = .allowFrom → d.verdict = .allowed → d'.verdict = .allowed) ∧
      (r.kind = .denyFrom → d.verdict = .denied → d'.verdict = .denied) := by
  constructor
  · intro ds es d d' hsame hd hd'
    obtain ⟨f, hf, -, heq⟩ := exists_find_of_result hd
    obtain ⟨f', hf', -, heq'⟩ := exists_find_of_result hd'
    rw [heq, heq', (found_of_find hf).eq_of_sameRules hsame (found_of_find hf')]
  · intro before after line r d d' hlegacy hd hd'
    constructor
    · intro hk
      exact (verdict_of_kinder (.insert_allow hlegacy hk) hd hd').1
    · intro hk
      -- to add a `Deny` is to take one away, seen from the other end
      exact (verdict_of_kinder (.remove_deny hlegacy hk) hd' hd).2

/-- Host rules of which each has its hosts on one line. -/
def gatheredHosts : List Directive :=
  [.rule 1 { kind := .order, detail := .order AccessOrder.denyAllow },
    .rule 2 { kind := .allowFrom, value := some "10.0.0.0/8 192.168.0.1".toList },
    .rule 3 { kind := .denyFrom, value := some "all".toList }]

/-- The same host rules scattered over lines, one of them twice. -/
def scatteredHosts : List Directive :=
  [.rule 1 { kind := .allowFrom, value := some "192.168.0.1".toList },
    .rule 2 { kind := .denyFrom, value := some "\tall\u00a0".toList },
    .rule 3 { kind := .allowFrom, value := some "10.0.0.0/8".toList },
    .rule 4 { kind := .allowFrom, value := some "192.168.0.1".toList },
    .rule 5 { kind := .order, detail := .order AccessOrder.denyAllow }]

/-- Gathered or scattered, these are the same rules. -/
lemma sameRules_scatteredHosts : SameRules gatheredHosts scatteredHosts where
  order := rfl
  allowed := by
    have hgathered : tokens .allowFrom gatheredHosts = ["10.0.0.0/8".toList, "192.168.0.1".toList] := rfl
    have hscattered : tokens .allowFrom scatteredHosts =
      ["192.168.0.1".toList, "10.0.0.0/8".toList, "192.168.0.1".toList] := rfl
    intro host
    simp only [hgathered, hscattered, List.mem_cons]
    tauto
  denied := fun _ => Iff.rfl
  legacy := rfl

/-- A client whom the rules let in. -/
def guest : Session := { clientIp := some "10.0.0.1".toList }

/-- A client whom the rules turn away. -/
def stranger : Session := { clientIp := some "1.2.3.4".toList }

/-- A decision is that on what is found. -/
lemma result_of_find {ds : List Directive} {s : Session} {f : Finding} (h : find ds s.clientIp = .ok f)
    (source : Text) : (evaluate source ds s).result = .ok f.decision := by
  rw [evaluate, h]

/-- Gathered or scattered, these rules do the same. One more Allow rule does not turn the guest away, and one
more Deny rule does not let the stranger in. -/
theorem evaluate_scatteredHosts_eq :
    SameRules gatheredHosts scatteredHosts ∧
      evaluate [] gatheredHosts guest = evaluate [] scatteredHosts guest ∧
      (∃ d, (evaluate [] (.rule 0 { kind := .allowFrom, value := some "1.1.1.1".toList } :: gatheredHosts)
        guest).result = .ok d ∧ d.verdict = .allowed) ∧
      ∃ d, (evaluate [] (.rule 0 { kind := .denyFrom, value := some "1.1.1.1".toList } :: gatheredHosts)
        stranger).result = .ok d ∧ d.verdict = .denied := by
  have hguest : (evaluate [] gatheredHosts guest).result =
    .ok (Finding.matched guest.clientIp AccessOrder.denyAllow true true).decision := result_of_find rfl []
  have hscattered : (evaluate [] scatteredHosts guest).result =
    .ok (Finding.matched guest.clientIp AccessOrder.denyAllow true true).decision := result_of_find rfl []
  have hstranger : (evaluate [] gatheredHosts stranger).result =
    .ok (Finding.matched stranger.clientIp AccessOrder.denyAllow false true).decision :=
    result_of_find rfl []
  have hallow : (evaluate [] ([] ++ .rule 0 { kind := .allowFrom, value := some "1.1.1.1".toList } ::
      gatheredHosts) guest).result =
    .ok (Finding.matched guest.clientIp AccessOrder.denyAllow true true).decision := result_of_find rfl []
  have hdeny : (evaluate [] ([] ++ .rule 0 { kind := .denyFrom, value := some "1.1.1.1".toList } ::
      gatheredHosts) stranger).result =
    .ok (Finding.matched stranger.clientIp AccessOrder.denyAllow false true).decision :=
    result_of_find rfl []
  obtain ⟨hextensional, hmonotone⟩ := evaluate_extensional_monotone [] guest
  refine ⟨sameRules_scatteredHosts, hextensional _ _ _ _ sameRules_scatteredHosts hguest hscattered,
    ⟨_, hallow, ?_⟩, ⟨_, hdeny, ?_⟩⟩
  · exact (hmonotone [] gatheredHosts 0 _ _ _ rfl hguest hallow).1 rfl rfl
  · exact ((evaluate_extensional_monotone [] stranger).2 [] gatheredHosts 0 _ _ _ rfl hstranger hdeny).2
      rfl rfl

end Legacy

end HtGate
