import HtGate.Proofs.Collapsing
import HtGate.Proofs.Directive.Keyed
import HtGate.Proofs.Directive.Merging
import HtGate.Proofs.Weight
/-!
# One configuration laid over nothing

A directory walk lays even a single configuration over an empty one, and directives of that configuration
that share an override key replace one another. Repetitions of host lists add nothing to what is known
already, and repetitions of most other kinds are not looked at by access control or lifetimes. Four kinds of
repetitions make a difference: orders and switches for lifetimes, because the last one moves in front of what
stands between, lifetimes for a content type, because the first one counts, and blocks for files that match a
pattern, because all of them count. Where they make none, a configuration that is laid over nothing gives
the answers that it gives on its own.
-/

namespace HtGate

open Directive (Everywhere everywhere_nil)

namespace Overlay

/-- Whether nothing between the first rule of a kind and the last one may say otherwise than the last one. -/
def Steady (kind : Kind) (ds : List Directive) : Prop :=
  ∀ l, last? (.only kind) ds = some l → ∀ e b, [e, b, l].Sublist ds → has (.only kind) e = true →
    has (.only kind) b = false → ∀ r ∈ b.selectable, r.kind = kind → r.detail = l.detail

/-- Whether it makes no difference for access and lifetimes that the directives of a configuration replace
one another. -/
structure Unaffected (ds : List Directive) : Prop where
  /-- No two blocks are about the same files. -/
  files : ∀ pattern, Once (.files pattern) ds
  /-- The first lifetime for a content type is the last one. -/
  lifetimes : ∀ d ∈ firsts [] ds, ∀ type, d.overrideKey = some (.named .expiresByType type) →
    (latest ds d).detail = d.detail
  order : Steady .order ds
  expiresActive : Steady .expiresActive ds

section Settling

variable {β γ : Type} {ds : List Directive} (hfiles : ∀ pattern, Once (.files pattern) ds)

/-- The last directive for the key of a rule is a rule. -/
lemma exists_latest_rule (ds : List Directive) (line : Int) {r : Rule} {key : OverrideKey}
    (h : OverrideKey.ofRule r = some key) :
    ∃ line' r', latest ds (.rule line r) = .rule line' r' ∧ OverrideKey.ofRule r' = some key := by
  refine OverrideKey.exists_rule_of_ne_files ((overrideKey_latest ds (.rule line r)).trans h) ?_
  rintro pattern rfl
  exact OverrideKey.ofRule_ne_files r pattern h

include hfiles

/-- A directive whose key does not come once is a rule. -/
lemma exists_rule {d : Directive} {key : OverrideKey} (hkey : d.overrideKey = some key)
    (h : ¬Once key ds) : ∃ line r, d = .rule line r ∧ OverrideKey.ofRule r = some key := by
  refine OverrideKey.exists_rule_of_ne_files hkey ?_
  rintro pattern rfl
  exact h (hfiles pattern)

/-- Who takes up in turn what is looked at comes to the same after directives have replaced one another, if
a rule shows what the last rule for its key shows, and no rule adds anything to an earlier one with its
key. -/
lemma takeUp_settle {take : List β → γ} {look : Directive → List β}
    (happend : ∀ {xs ys}, take xs = take ys → ∀ zs, take (xs ++ zs) = take (ys ++ zs))
    (hlatest : ∀ line r line' r' key, .rule line r ∈ firsts [] ds →
      latest ds (.rule line r) = .rule line' r' → OverrideKey.ofRule r = some key →
      OverrideKey.ofRule r' = some key → look (.rule line' r') = look (.rule line r))
    (hrepeat : ∀ (before : List Directive) line r line' r' key, .rule line r ∈ before →
      OverrideKey.ofRule r = some key → OverrideKey.ofRule r' = some key →
      take (before.flatMap look ++ look (.rule line' r')) = take (before.flatMap look)) :
    take ((settle ds).flatMap look) = take (ds.flatMap look) := by
  have hsettle : (settle ds).flatMap look = (firsts [] ds).flatMap look := by
    refine flatMap_settle fun d hd => ?_
    cases hkey : d.overrideKey with
    | none => rw [latest_of_no_key hkey]
    | some key =>
      -- a directive that gives way to another one is a rule, because blocks come once
      by_cases honce : Once key ds
      · rw [latest_of_once honce ((firsts_sublist [] ds).subset hd) hkey]
      · obtain ⟨line, r, rfl, hr⟩ := exists_rule hfiles hkey honce
        obtain ⟨line', r', heq, hr'⟩ := exists_latest_rule ds line hr
        rw [heq]
        exact hlatest line r line' r' key hd heq hr hr'
  rw [hsettle]
  refine takeUp_firsts happend fun before d after heq hagain => ?_
  cases hkey : d.overrideKey with
  | none =>
    rw [repeats_of_no_key hkey] at hagain
    cases hagain
  | some key =>
    have hnot : ¬Once key ds := heq ▸ not_once_of_repeats hkey hagain
    rw [repeats_of_key hkey] at hagain
    obtain ⟨e, he, hekey⟩ := List.any_eq_true.1 hagain
    obtain ⟨line, r, rfl, hr⟩ := exists_rule hfiles (has_iff.1 hekey) hnot
    obtain ⟨line', r', rfl, hr'⟩ := exists_rule hfiles hkey hnot
    exact hrepeat before line r line' r' key he hr hr'

/-- Where rules that may be replaced show nothing, what is looked at is the same. -/
lemma flatMap_settle_of_silent {look : Directive → List β}
    (h : ∀ line r key, OverrideKey.ofRule r = some key → look (.rule line r) = []) :
    (settle ds).flatMap look = ds.flatMap look := by
  show id _ = id _
  refine takeUp_settle hfiles (fun h _ => congrArg (· ++ _) h) ?_ ?_
  · intro line r line' r' key _ _ hr hr'
    rw [h line r key hr, h line' r' key hr']
  · intro before line r line' r' key _ _ hr'
    rw [h line' r' key hr', List.append_nil]

end Settling

end Overlay

namespace Legacy

/-- Rules with the same key give the same host list, or none. -/
lemma hosts_congr {kind : Kind} (hk : kind = .allowFrom ∨ kind = .denyFrom) {r r' : Rule}
    {key : OverrideKey} (h : OverrideKey.ofRule r = some key) (h' : OverrideKey.ofRule r' = some key)
    (line line' : Int) : hosts kind (.rule line' r') = hosts kind (.rule line r) := by
  rw [hosts, hosts]
  by_cases hr : r.kind = kind
  · obtain ⟨hkind, hvalue⟩ := OverrideKey.hosts_congr h h' (hr ▸ hk)
    rw [hkind, hvalue]
  · have hr' : r'.kind ≠ kind := fun hr' =>
      hr ((OverrideKey.hosts_congr h' h (hr' ▸ hk)).1.trans hr')
    rw [if_neg hr, if_neg hr']

end Legacy

namespace Expires

/-- Rules with the same key are for the same content types. -/
lemma isFor_congr {r r' : Rule} {key : OverrideKey} (h : OverrideKey.ofRule r = some key)
    (h' : OverrideKey.ofRule r' = some key) (type : Text) : isFor type r' = isFor type r := by
  by_cases hr : r.kind = .expiresByType
  · obtain ⟨hkind, hname⟩ := OverrideKey.named_congr h h' (by rw [hr]; rfl)
    rw [isFor, isFor, hkind, hname]
  · have hr' : r'.kind ≠ .expiresByType := fun hr' =>
      hr ((OverrideKey.named_congr h' h (by rw [hr']; rfl)).1.trans hr')
    rw [isFor, isFor, beq_eq_false_iff_ne.2 hr, beq_eq_false_iff_ne.2 hr']
    rfl

end Expires

namespace Overlay

/-- Whether a rule stands for itself, and only what may be selected from a directive stands for it. -/
structure Faithful (stand : Directive → List Directive) : Prop where
  rule : ∀ line r, stand (.rule line r) = [.rule line r]
  selectable : ∀ {d line r}, .rule line r ∈ stand d → r ∈ d.selectable

/-- What a directive stands for in a session is faithful to it. -/
lemma faithful_pieces (modules : Modules) (s : Session) : Faithful (Selection.pieces modules s) :=
  ⟨Selection.pieces_rule, Selection.selectable_of_pieces⟩

/-- A directive that stands for itself is faithful to itself. -/
lemma faithful_singleton : Faithful fun d => [d] := by
  refine ⟨fun _ _ => rfl, fun {d line r} h => ?_⟩
  obtain rfl := List.mem_singleton.1 h
  exact List.mem_singleton.2 rfl

variable {ds : List Directive}

open Selection (failure?)

/-- The reason why a selection fails is the same. -/
lemma findSome?_failure?_settle (hfiles : ∀ pattern, Once (.files pattern) ds) (modules : Modules)
    (s : Session) :
    (settle ds).findSome? (failure? modules s) = ds.findSome? (failure? modules s) := by
  have hlook : (settle ds).flatMap (fun d => (failure? modules s d).toList) =
      ds.flatMap fun d => (failure? modules s d).toList := by
    refine flatMap_settle_of_silent hfiles fun line r key _ => ?_
    rw [Selection.failure?_rule]
    rfl
  simpa only [List.head?_flatMap, Option.head?_toList] using congrArg List.head? hlook

/-- What is about a kind is a rule of the kind. -/
lemma exists_rule_of_only {kind : Kind} {d : Directive} (h : has (.only kind) d = true) :
    ∃ line r, d = .rule line r ∧ r.kind = kind := by
  obtain ⟨line, r, rfl, hkey⟩ := OverrideKey.exists_rule_of_ne_files (has_iff.1 h) (by simp)
  exact ⟨line, r, rfl, OverrideKey.kind_of_only hkey⟩

section Standing

variable {stand : Directive → List Directive}

/-- The last word of what stands for directives is the last word of what stands for one of them. -/
lemma lastWord_flatMap {β : Type} (say : Directive → Option β) (ds : List Directive) :
    (ds.flatMap stand).reverse.findSome? say =
      ds.reverse.findSome? fun d => (stand d).reverse.findSome? say := by
  induction ds using List.reverseRecOn with
  | nil => rfl
  | append_singleton ds d ih =>
    rw [List.flatMap_append, List.flatMap_singleton, List.reverse_append, List.findSome?_append, ih,
      reverse_concat_findSome?]

variable (hstand : Faithful stand)

include hstand

/-- The directives that nothing replaces stay where they are. -/
lemma filter_free_settle (hfiles : ∀ pattern, Once (.files pattern) ds) :
    ((settle ds).flatMap stand).filter free = (ds.flatMap stand).filter free := by
  rw [List.filter_flatMap, List.filter_flatMap]
  refine flatMap_settle_of_silent hfiles fun line r key hr => ?_
  have hfree : free (.rule line r) = false := by
    rw [free, Directive.overrideKey, hr]
    rfl
  rw [hstand.rule, List.filter_cons_of_neg (by simp [hfree]), List.filter_nil]

/-- The lifetimes for all other content stay where they are. -/
lemma defaults_settle (hfiles : ∀ pattern, Once (.files pattern) ds) :
    ((settle ds).flatMap stand).flatMap (Expires.statedBy Expires.isDefault) =
      (ds.flatMap stand).flatMap (Expires.statedBy Expires.isDefault) := by
  rw [List.flatMap_assoc, List.flatMap_assoc]
  refine flatMap_settle_of_silent hfiles fun line r key hr => ?_
  have hnot : Expires.isDefault r = false := by
    refine beq_eq_false_iff_ne.2 fun hk => ?_
    simp [OverrideKey.ofRule, hk, OverrideKey.isNamed, OverrideKey.isSingle] at hr
  rw [hstand.rule, List.flatMap_singleton, Expires.statedBy, hnot]
  rfl

/-- Host lists weigh the same, since one that replaces another is the same list. -/
lemma weigh_hosts_settle (hfiles : ∀ pattern, Once (.files pattern) ds) {kind : Kind}
    (hk : kind = .allowFrom ∨ kind = .denyFrom) (ip : Int) :
    Legacy.weigh ip (((settle ds).flatMap stand).flatMap (Legacy.hosts kind)) =
      Legacy.weigh ip ((ds.flatMap stand).flatMap (Legacy.hosts kind)) := by
  rw [List.flatMap_assoc, List.flatMap_assoc]
  refine takeUp_settle hfiles Legacy.weigh_append ?_ ?_
  · intro line r line' r' key _ _ hr hr'
    simp only [hstand.rule, List.flatMap_singleton]
    exact Legacy.hosts_congr hk hr hr' line line'
  · intro before line r line' r' key hmem hr hr'
    refine Legacy.weigh_append_of_subset fun list hlist => ?_
    rw [hstand.rule, List.flatMap_singleton, Legacy.hosts_congr hk hr hr' line line'] at hlist
    exact List.mem_flatMap.2 ⟨_, hmem, by rwa [hstand.rule, List.flatMap_singleton]⟩

/-- The first lifetime for a content type stays the first one, where the configuration is unaffected. -/
lemma head?_lifetimes_settle (h : Unaffected ds) (type : Text) :
    (((settle ds).flatMap stand).flatMap (Expires.statedBy (Expires.isFor type))).head? =
      ((ds.flatMap stand).flatMap (Expires.statedBy (Expires.isFor type))).head? := by
  rw [List.flatMap_assoc, List.flatMap_assoc]
  refine takeUp_settle h.files (fun hhead zs => by rw [List.head?_append, hhead, ← List.head?_append])
    ?_ ?_
  · intro line r line' r' key hmem hlatest hr hr'
    simp only [hstand.rule, List.flatMap_singleton, Expires.statedBy,
      Expires.isFor_congr hr hr']
    cases hfor : Expires.isFor type r with
    | false => rfl
    | true =>
      rw [Expires.isFor, Bool.and_eq_true, beq_iff_eq] at hfor
      obtain ⟨name, hname⟩ : ∃ name, r.name = some name := by
        cases hn : r.name with
        | none => simp [hn] at hfor
        | some name => exact ⟨name, rfl⟩
      have hkey : (Directive.rule line r).overrideKey = some (.named .expiresByType name) := by
        simp [Directive.overrideKey, OverrideKey.ofRule, hfor.1, OverrideKey.isNamed, hname]
      have hdetail := h.lifetimes _ hmem name hkey
      rw [hlatest] at hdetail
      rw [Expires.stated, Expires.stated, show r'.detail = r.detail from hdetail]
  · intro before line r line' r' key hmem hr hr'
    cases hfor : Expires.isFor type r' with
    | false => simp [hstand.rule, Expires.statedBy, hfor]
    | true =>
      -- the earlier rule is for the same content types, so there is a lifetime already
      have hfor' := (Expires.isFor_congr hr hr' type).symm.trans hfor
      refine List.head?_append_of_ne_nil _ (List.ne_nil_of_mem (a := Expires.stated r) ?_)
      refine List.mem_flatMap.2 ⟨_, hmem, ?_⟩
      simp [hstand.rule, Expires.statedBy, hfor']

/-- What stands for a directive between the first rule of a steady kind and the last one says nothing of
the kind, or what the last one says. -/
lemma word?_between {β : Type} {kind : Kind} {read : Detail → Option β} (hsteady : Steady kind ds)
    {line : Int} {r : Rule} (hk : r.kind = kind) (hl : last? (.only kind) ds = some (.rule line r))
    {e c : Directive} (hec : [e, c, .rule line r].Sublist ds) (he : has (.only kind) e = true)
    (hc : has (.only kind) c = false) :
    (stand c).reverse.findSome? (·.word? kind read) = none ∨
      (stand c).reverse.findSome? (·.word? kind read) =
        (stand (.rule line r)).reverse.findSome? (·.word? kind read) := by
  cases hword : (stand c).reverse.findSome? (·.word? kind read) with
  | none => exact .inl rfl
  | some v =>
    -- a rule that may be selected from in between has this word, so it is the last word, too
    refine .inr ?_
    obtain ⟨x, hx, hv⟩ := List.exists_of_findSome?_eq_some hword
    cases x with
    | block line' head children => cases hv
    | rule line' r' =>
      have hk' : r'.kind = kind := by
        by_contra hne
        simp [Directive.word?, hne] at hv
      have hdetail := hsteady _ hl e c hec he hc r'
        (hstand.selectable (List.mem_reverse.1 hx)) hk'
      rw [← hv]
      simp [hstand.rule, Directive.word?, hk, hk', hdetail, Directive.detail]

/-- The last word of a kind that a directory has once. -/
lemma lastWord_stand_settle {β : Type} {kind : Kind} (hsingle : OverrideKey.isSingle kind = true)
    {read : Detail → Option β} (hread : ∀ line r, .rule line r ∈ ds → r.kind = kind →
      (read r.detail).isSome = true)
    (hfiles : ∀ pattern, Once (.files pattern) ds) (hsteady : Steady kind ds) :
    ((settle ds).flatMap stand).reverse.findSome? (·.word? kind read) =
      (ds.flatMap stand).reverse.findSome? (·.word? kind read) := by
  rw [lastWord_flatMap, lastWord_flatMap]
  refine lastWord_settle (.only kind) ?_ ?_ ?_
  · intro d hd hkey
    obtain ⟨line, r, rfl, hk⟩ := exists_rule_of_only hkey
    simpa [hstand.rule, Directive.word?, hk] using hread line r hd hk
  · intro d hd key hkey hne
    cases d with
    | rule line r =>
      refine .inr ?_
      have hk : r.kind ≠ kind := by
        rintro rfl
        exact hne (Option.some.inj (hkey.symm.trans (OverrideKey.ofRule_of_single hsingle)))
      simp [hstand.rule, Directive.word?, hk]
    | block line head children =>
      -- only rules share a key
      refine .inl (by_contra fun hnot => ?_)
      obtain ⟨line', r, hd, -⟩ := exists_rule hfiles hkey hnot
      cases hd
  · intro l hl e c hec he hc
    obtain ⟨line, r, rfl, hk⟩ := exists_rule_of_only (has_of_last? hl)
    exact word?_between hstand hsteady hk hl hec he hc

/-- What stands for an unaffected configuration weighs the same after its directives have replaced one
another. -/
lemma sameWeight_settle (hds : Everywhere Statement.Complete ds) (h : Unaffected ds) :
    SameWeight ((settle ds).flatMap stand) (ds.flatMap stand) where
  free := filter_free_settle hstand h.files
  order := by
    refine lastWord_stand_settle hstand rfl (fun line r hr hk => ?_) h.files h.order
    have hcarries := (hds.of_rule_mem hr).carries
    rw [Rule.Carries, hk] at hcarries
    obtain ⟨order, hdetail, -⟩ := hcarries
    rw [hdetail]
    rfl
  hosts _ hk ip := weigh_hosts_settle hstand h.files hk ip
  active := by
    refine lastWord_stand_settle hstand rfl (fun line r hr hk => ?_) h.files h.expiresActive
    have hcarries := (hds.of_rule_mem hr).carries
    rw [Rule.Carries, hk] at hcarries
    obtain ⟨active, seconds, hdetail⟩ := hcarries
    rw [hdetail]
    rfl
  lifetime type := head?_lifetimes_settle hstand h type
  default := defaults_settle hstand h.files

end Standing

end Overlay

/-- Whether two configurations give the same answers to every request: the same decision and the same
lifetime, or the same fault, and the same session. -/
structure SameAnswers (ds es : List Directive) : Prop where
  access : ∀ files modules s,
    (Access.check files modules ds s).result = (Access.check files modules es s).result ∧
      (Access.check files modules ds s).session = (Access.check files modules es s).session
  /-- The lifetime by the directives as they are. -/
  ownLifetime : ∀ now t, (Expires.apply now ds t).result = (Expires.apply now es t).result ∧
    (Expires.apply now ds t).session = (Expires.apply now es t).session
  /-- The lifetime by the directives that apply to the request. -/
  lifetime : ∀ modules s now t,
    (Selection.select modules s ds).map (fun as =>
        ((Expires.apply now as t).result, (Expires.apply now as t).session)) =
      (Selection.select modules s es).map fun as =>
        ((Expires.apply now as t).result, (Expires.apply now as t).session)

namespace SameAnswers

open Overlay (Faithful faithful_pieces faithful_singleton)
open Selection (failure?)

section Weight

variable {ds es : List Directive} (hds : Everywhere Statement.Complete ds)
  (hes : Everywhere Statement.Complete es)
  (hfailure : ∀ modules s, ds.findSome? (failure? modules s) = es.findSome? (failure? modules s))
  (hweight : ∀ stand, Faithful stand → SameWeight (ds.flatMap stand) (es.flatMap stand))

include hds hes hfailure hweight

/-- Both selections fail for the same reason, or there are two that weigh the same. -/
lemma select_cases (modules : Modules) (s : Session) :
    (∃ fault, Selection.select modules s ds = .error fault ∧
      Selection.select modules s es = .error fault) ∨
    ∃ as bs, Selection.select modules s ds = .ok as ∧ Selection.select modules s es = .ok bs ∧
      Everywhere Statement.Complete as ∧ Everywhere Statement.Complete bs ∧ SameWeight as bs := by
  have hd := Selection.select_eq modules s ds
  have he := Selection.select_eq modules s es
  rw [hfailure] at hd
  cases hf : es.findSome? (failure? modules s) with
  | some fault =>
    rw [hf] at hd he
    exact .inl ⟨fault, hd, he⟩
  | none =>
    rw [hf] at hd he
    exact .inr ⟨_, _, hd, he, Selection.everywhere_select hds hd,
      Selection.everywhere_select hes he, hweight _ (faithful_pieces modules s)⟩

/-- Complete configurations give the same answers if what is selected from them weighs the same. -/
lemma of_sameWeight : SameAnswers ds es := by
  have hselect := select_cases hds hes hfailure hweight
  refine ⟨?_, ?_, ?_⟩
  · intro files modules s
    rcases hselect modules s with ⟨fault, hd, he⟩ | ⟨as, bs, hd, he, has, hbs, hsame⟩
    · obtain ⟨hdresult, hdsession⟩ := Access.check_of_select_error Password.verify files hd
      obtain ⟨heresult, hesession⟩ := Access.check_of_select_error Password.verify files he
      exact ⟨hdresult.trans heresult.symm, hdsession.trans hesession.symm⟩
    · obtain ⟨hdresult, hdsession⟩ := Access.check_outcome Password.verify files hd
      obtain ⟨heresult, hesession⟩ := Access.check_outcome Password.verify files he
      rw [← hsame.course has hbs] at heresult hesession
      rw [← hsame.setup] at hesession
      exact ⟨hdresult.trans heresult.symm, hdsession.trans hesession.symm⟩
  · intro now t
    -- every directive stands for itself if nothing is selected
    have hsame := hweight _ faithful_singleton
    rw [List.flatMap_singleton', List.flatMap_singleton'] at hsame
    exact hsame.apply hds hes now t
  · intro modules s now t
    rcases hselect modules s with ⟨fault, hd, he⟩ | ⟨as, bs, hd, he, has, hbs, hsame⟩
    · rw [hd, he]
    · obtain ⟨hresult, hsession⟩ := hsame.apply has hbs now t
      rw [hd, he, Except.map, Except.map, hresult, hsession]

end Weight

end SameAnswers

namespace Overlay

variable {ds : List Directive} {kind : Text}

/-- Whether directives that share an override key are all of one kind. -/
def RepeatsOnly (kind : Text) (ds : List Directive) : Prop :=
  ds.Pairwise fun d e => ∀ key ∈ d.overrideKey, key ∈ e.overrideKey → d.kindName = kind

instance (kind : Text) (ds : List Directive) : Decidable (RepeatsOnly kind ds) :=
  inferInstanceAs (Decidable (ds.Pairwise _))

/-- The kinds of directives whose repetitions make a difference for access and lifetimes. -/
def decisiveKinds : List Text :=
  [Kind.order.name, Kind.expiresActive.name, Kind.expiresByType.name, BlockKind.filesMatch.name]

/-- The key of directives of another kind comes once. -/
lemma RepeatsOnly.once (h : RepeatsOnly kind ds) {key : OverrideKey}
    (hne : ∀ d, has key d = true → d.kindName ≠ kind) : Once key ds :=
  once_of_pairwise h fun d _ hshare hd he => hne d hd (hshare key (has_iff.1 hd) (has_iff.1 he))

/-- A kind that comes once is steady. -/
lemma steady_of_once {kind : Kind} (h : Once (.only kind) ds) : Steady kind ds := by
  intro l hl e b hebl he _
  have hpair : [e, l].Sublist ds := (((List.Sublist.refl [l]).cons b).cons_cons e).trans hebl
  have honce := h.of_sublist hpair
  simp [Once, he, has_of_last? hl] at honce

/-- Repetitions of one kind make no difference if the kind is not a decisive one. -/
lemma unaffected_of_repeatsOnly (h : RepeatsOnly kind ds) (hk : kind ∉ decisiveKinds) :
    Unaffected ds := by
  simp only [decisiveKinds, List.mem_cons, List.not_mem_nil, or_false, not_or] at hk
  obtain ⟨horder, hactive, hlifetime, hfiles⟩ := hk
  have hsingle {single : Kind} (hne : kind ≠ single.name) : Once (.only single) ds := by
    refine h.once fun d hd heq => ?_
    obtain ⟨line, r, rfl, hr⟩ := exists_rule_of_only hd
    exact hne (heq ▸ hr ▸ rfl)
  refine ⟨fun pattern => ?_, fun d hd type hkey => ?_, steady_of_once (hsingle horder),
    steady_of_once (hsingle hactive)⟩
  · refine h.once fun d hd heq => ?_
    cases d with
    | rule line r => exact OverrideKey.ofRule_ne_files r pattern (has_iff.1 hd)
    | block line head children =>
      rw [has_iff, Directive.overrideKey, Option.ite_none_right_eq_some] at hd
      exact hfiles (heq ▸ hd.1 ▸ rfl)
  · have honce : Once (.named .expiresByType type) ds := by
      refine h.once fun e he heq => ?_
      obtain ⟨line, r, rfl, hr⟩ := OverrideKey.exists_rule_of_ne_files (has_iff.1 he) (by simp)
      exact hlifetime (heq ▸ (OverrideKey.eq_of_named hr).1 ▸ rfl)
    rw [latest_of_once honce ((firsts_sublist [] ds).subset hd) hkey]

/-- An unaffected configuration of complete directives gives the same answers after its directives have
replaced one another. -/
lemma settle_sameAnswers (hds : Everywhere Statement.Complete ds) (h : Unaffected ds) :
    SameAnswers (settle ds) ds := by
  refine .of_sameWeight ?_ hds (findSome?_failure?_settle h.files)
    fun stand hstand => sameWeight_settle hstand hds h
  rw [← merge_nil]
  exact everywhere_merge everywhere_nil hds

/-- Without blocks, repetitions make a difference for the lifetimes of content types only. -/
lemma unaffected_of_rules (hrules : ∀ d ∈ ds, ∃ line r, d = .rule line r)
    (hlifetimes : ∀ d ∈ firsts [] ds, ∀ type, d.overrideKey = some (.named .expiresByType type) →
      (latest ds d).detail = d.detail) : Unaffected ds := by
  -- without blocks every rule of a kind has the kind's key, so that none stands outside it
  have hsteady {kind : Kind} (hsingle : OverrideKey.isSingle kind = true) : Steady kind ds := by
    intro l _ e b hebl _ hb r hr hk
    obtain ⟨line, r', rfl⟩ := hrules b (hebl.subset (by simp))
    obtain rfl : r = r' := List.mem_singleton.1 hr
    have hkey : has (.only kind) (.rule line r) = true :=
      has_iff.2 (hk ▸ OverrideKey.ofRule_of_single (hk ▸ hsingle))
    rw [hkey] at hb
    cases hb
  refine ⟨fun pattern => ?_, hlifetimes, hsteady rfl, hsteady rfl⟩
  have hnone : ds.filter (has (.files pattern)) = [] := by
    rw [List.filter_eq_nil_iff]
    intro d hd hkey
    obtain ⟨line, r, rfl⟩ := hrules d hd
    exact OverrideKey.ofRule_ne_files r pattern (has_iff.1 hkey)
  rw [Once, hnone]
  exact Nat.zero_le 1

/-- A request for a file from an address. -/
def fileSession : Session :=
  { clientIp := some "10.0.0.1".toList, filename := some ['x'], contentType := some ['a'] }

/-- Two verdicts about one request are different answers. -/
lemma not_sameAnswers_of_verdict {es : List Directive} (v w : Verdict)
    (hv : (Access.check {} none ds fileSession).result.map (·.verdict) = .ok v)
    (hw : (Access.check {} none es fileSession).result.map (·.verdict) = .ok w) (hne : v ≠ w) :
    ¬SameAnswers ds es := by
  intro h
  rw [(h.access {} none fileSession).1, hw] at hv
  exact hne (Except.ok.inj hv).symm

/-- Two lifetimes of one response are different answers. -/
lemma not_sameAnswers_of_lifetime {es : List Directive} (m n : Option Int)
    (hm : (Selection.select none fileSession ds).map (fun as => (Expires.apply 0 as fileSession).result) =
      .ok (.ok m))
    (hn : (Selection.select none fileSession es).map (fun as => (Expires.apply 0 as fileSession).result) =
      .ok (.ok n)) (hne : m ≠ n) : ¬SameAnswers ds es := by
  intro h
  have hsame := congrArg (Except.map Prod.fst) (h.lifetime none fileSession 0 fileSession)
  have hfst (r : Except Fault (List Directive)) :
      (r.map fun as =>
          ((Expires.apply 0 as fileSession).result, (Expires.apply 0 as fileSession).session)).map Prod.fst =
        r.map fun as => (Expires.apply 0 as fileSession).result := by
    cases r <;> rfl
  rw [hfst, hfst, hm, hn] at hsame
  exact hne (Except.ok.inj (Except.ok.inj hsame))

/-- The rule that says an order. -/
def orderRule (order : Text) : Rule := { kind := .order, detail := .order order }

/-- The rule that turns lifetimes on or off. -/
def switchRule (active : Bool) : Rule := { kind := .expiresActive, detail := .expires active 0 }

/-- The rule that says after how many days content expires. -/
def daysRule (kind : Kind) (name : Option Text) (words : Text) (days : Int) : Rule :=
  { kind, name, value := some words, detail := .expires false (days * 86400) }

/-- The head of a block for a module. -/
def moduleHead : BlockHead := { kind := .ifModule, name := some ['m'] }

/-- The head of a block for files. -/
def filesHead : BlockHead := { kind := .filesMatch, pattern := some ['x'] }

/-- An order that is said again after a block has said otherwise. -/
def movedOrder : Text :=
  "Order Allow,Deny\n<IfModule m>\nOrder Deny,Allow\n</IfModule>\nOrder Allow,Deny".toList

/-- How the text with the order is read. -/
lemma parse_movedOrder : parse movedOrder = .ok
    ⟨[.rule 1 (orderRule AccessOrder.allowDeny),
      .block 2 moduleHead [.rule 3 (orderRule AccessOrder.denyAllow)],
      .rule 5 (orderRule AccessOrder.allowDeny)], []⟩ := by
  rfl

/-- A switch that is set again after a block has set it otherwise. -/
def movedSwitch : Text :=
  "ExpiresActive On\n<IfModule m>\nExpiresActive Off\n</IfModule>\nExpiresActive On\n".toList ++
    "ExpiresDefault \"access plus 1 day\"".toList

/-- How the text with the switch is read. -/
lemma parse_movedSwitch : parse movedSwitch = .ok
    ⟨[.rule 1 (switchRule true), .block 2 moduleHead [.rule 3 (switchRule false)],
      .rule 5 (switchRule true),
      .rule 6 (daysRule .expiresDefault none "access plus 1 day".toList 1)], []⟩ := by
  rfl

/-- Two lifetimes for a content type. -/
def twoLifetimes : Text :=
  "ExpiresActive On\nExpiresByType a \"access plus 1 day\"\nExpiresByType a \"access plus 2 days\"".toList

/-- How the text with the lifetimes is read. -/
lemma parse_twoLifetimes : parse twoLifetimes = .ok
    ⟨[.rule 1 (switchRule true),
      .rule 2 (daysRule .expiresByType (some ['a']) "access plus 1 day".toList 1),
      .rule 3 (daysRule .expiresByType (some ['a']) "access plus 2 days".toList 2)], []⟩ := by
  rfl

/-- Two blocks for the same files. -/
def twoBlocks : Text :=
  "<FilesMatch x>\nRequire all granted\n</FilesMatch>\n".toList ++
    "<FilesMatch x>\nRequire all denied\n</FilesMatch>".toList

/-- How the text with the blocks is read. -/
lemma parse_twoBlocks : parse twoBlocks = .ok
    ⟨[.block 1 filesHead [.rule 2 { kind := .requireAllGranted }],
      .block 4 filesHead [.rule 5 { kind := .requireAllDenied }]], []⟩ := by
  rfl

/-- Repetitions of each decisive kind make a difference in some configuration. -/
lemma exists_not_sameAnswers (h : kind ∈ decisiveKinds) :
    ∃ content p, parse content = .ok p ∧ RepeatsOnly kind p.directives ∧
      ¬SameAnswers (merge [] p.directives) p.directives := by
  simp only [decisiveKinds, List.mem_cons, List.not_mem_nil, or_false] at h
  rcases h with rfl | rfl | rfl | rfl
  · -- the order in the block is the last one after the overriding
    exact ⟨_, _, parse_movedOrder, by decide +kernel,
      not_sameAnswers_of_verdict .allowed .denied (by decide +kernel) (by decide +kernel) (by decide)⟩
  · -- the switch in the block is the last one after the overriding
    exact ⟨_, _, parse_movedSwitch, by decide +kernel,
      not_sameAnswers_of_lifetime none (some 86400) (by decide +kernel) (by decide +kernel) (by decide)⟩
  · -- the second lifetime is the first one after the overriding
    exact ⟨_, _, parse_twoLifetimes, by decide +kernel,
      not_sameAnswers_of_lifetime (some 172800) (some 86400) (by decide +kernel) (by decide +kernel)
        (by decide)⟩
  · -- the first block, which grants access, is gone after the overriding
    exact ⟨_, _, parse_twoBlocks, by decide +kernel,
      not_sameAnswers_of_verdict .denied .allowed (by decide +kernel) (by decide +kernel) (by decide)⟩

end Overlay

open Overlay

/-- An unaffected configuration that is laid over nothing gives the same answers to every request as on its
own. So does one in which directives of one kind alone repeat each other, if the kind is not a decisive one.
For every decisive kind there is a configuration with repetitions of this kind alone that does not. -/
theorem merge_nil_sameAnswers {content : Text} {p : Parsed} (hp : parse content = .ok p) :
    (Unaffected p.directives → SameAnswers (merge [] p.directives) p.directives) ∧
    (∀ kind ∉ decisiveKinds, RepeatsOnly kind p.directives →
      SameAnswers (merge [] p.directives) p.directives) ∧
    ∀ kind ∈ decisiveKinds, ∃ content p, parse content = .ok p ∧ RepeatsOnly kind p.directives ∧
      ¬SameAnswers (merge [] p.directives) p.directives := by
  have hcomplete : Everywhere Statement.Complete p.directives :=
    (wellFormed_parse hp).imp fun _ => Statement.WellFormed.complete
  have hsame (h : Unaffected p.directives) : SameAnswers (merge [] p.directives) p.directives := by
    rw [merge_nil]
    exact settle_sameAnswers hcomplete h
  refine ⟨hsame, fun kind hk h => ?_, fun kind hk => exists_not_sameAnswers hk⟩
  exact hsame (unaffected_of_repeatsOnly h hk)

/-- An order that is said again after a host list, and a host list that is said again after an order. -/
def repetitiveDocument : Text :=
  "Order Deny,Allow\nDeny from a\nOrder Allow,Deny\nDeny from a\n".toList ++
    "ExpiresByType a \"access plus 1 day\"".toList

/-- A host list that is said again. -/
def deniedTwice : Text := "Deny from a\nDeny from a".toList

/-- Of the one configuration two directives of five are gone, and of the other one of two, and the answers are
the same. -/
theorem repetitiveDocument_sameAnswers :
    (∃ p, parse repetitiveDocument = .ok p ∧ p.directives.length = 5 ∧
      (merge [] p.directives).length = 3 ∧ SameAnswers (merge [] p.directives) p.directives) ∧
    ∃ p, parse deniedTwice = .ok p ∧ p.directives.length = 2 ∧
      (merge [] p.directives).length = 1 ∧ SameAnswers (merge [] p.directives) p.directives := by
  have hp : parse repetitiveDocument = .ok
      ⟨[.rule 1 (orderRule AccessOrder.denyAllow), .rule 2 { kind := .denyFrom, value := some ['a'] },
        .rule 3 (orderRule AccessOrder.allowDeny), .rule 4 { kind := .denyFrom, value := some ['a'] },
        .rule 5 (daysRule .expiresByType (some ['a']) "access plus 1 day".toList 1)], []⟩ := by
    rfl
  have hp' : parse deniedTwice = .ok
      ⟨[.rule 1 { kind := .denyFrom, value := some ['a'] },
        .rule 2 { kind := .denyFrom, value := some ['a'] }], []⟩ := by
    rfl
  refine ⟨⟨_, hp, rfl, rfl, (merge_nil_sameAnswers hp).1 (unaffected_of_rules ?_ ?_)⟩, _, hp', rfl, rfl,
    (merge_nil_sameAnswers hp').2.1 Kind.denyFrom.name (by decide) (by decide +kernel)⟩
  · simp
  · intro d hd type hkey
    simp only [firsts, repeats] at hd
    fin_cases hd
    · cases hkey
    · cases hkey
    · rfl

/-- The request that the configuration turns away on its own is let in after it is laid over nothing. -/
theorem movedOrder_merge_nil_allowed :
    ∃ p, parse movedOrder = .ok p ∧
      (Access.check {} none p.directives fileSession).result =
        .ok (.deny 403 "Order allow,deny: allow_matched=False, deny_matched=False".toList) ∧
      (Access.check {} none (merge [] p.directives) fileSession).result =
        .ok (.allow "Order deny,allow: allow_matched=False, deny_matched=False".toList) :=
  ⟨_, parse_movedOrder, by rfl, by rfl⟩

end HtGate
