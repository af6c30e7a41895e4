import HtGate.Proofs.Overriding
/-!
# What overriding leaves as it is

Directives of one configuration that share a key replace one another, so that one directive for each key is
left, in the place of the first. Whoever looks at the directives in turn may not notice. Repetitions that add
nothing to what came before can be left out. Whoever goes by the last word of a kind hears the same if
nothing between the first word and the last one says otherwise.
-/

namespace HtGate.Overlay

variable {β γ : Type} {ds : List Directive}

/-- Whether at most one directive of a list has an override key. -/
def Once (key : OverrideKey) (ds : List Directive) : Prop := (ds.filter (has key)).length ≤ 1

/-- A key comes once if no directive with the key may stand before another one. -/
lemma once_of_pairwise {key : OverrideKey} {R : Directive → Directive → Prop} (h : ds.Pairwise R)
    (hnot : ∀ d e, R d e → has key d = true → has key e = true → False) : Once key ds := by
  rw [Once]
  match hfilter : ds.filter (has key) with
  | [] => exact Nat.zero_le 1
  | [_] => exact Nat.le_refl 1
  | d :: e :: more =>
    have hpair : (d :: e :: more).Pairwise R := hfilter ▸ List.Pairwise.filter _ h
    have hhas : ∀ c ∈ d :: e :: more, has key c = true :=
      fun c hc => (List.mem_filter.1 (hfilter.symm ▸ hc)).2
    have hde : R d e := (List.pairwise_cons.1 hpair).1 e (.head _)
    exact (hnot d e hde (hhas d (.head _)) (hhas e (.tail _ (.head _)))).elim

/-- The last directive for a key is one of the list. -/
lemma latest_mem {d : Directive} (h : d ∈ ds) : latest ds d ∈ ds := by
  cases hkey : d.overrideKey with
  | none => rwa [latest_of_no_key hkey]
  | some key =>
    rw [latest_of_key hkey]
    cases hlast : last? key ds with
    | none => exact h
    | some l => exact mem_of_last? hlast

/-- What a list comes to is of the list. -/
lemma mem_of_mem_settle {d : Directive} (h : d ∈ settle ds) : d ∈ ds := by
  obtain ⟨e, he, rfl⟩ := List.mem_map.1 h
  exact latest_mem ((firsts_sublist [] ds).subset he)

/-- A key that comes again does not come once. -/
lemma not_once_concat {key : OverrideKey} {d : Directive} (hd : has key d = true)
    (h : ds.any (has key) = true) : ¬Once key (ds ++ [d]) := by
  obtain ⟨e, he, hkey⟩ := List.any_eq_true.1 h
  have hpos : 0 < (ds.filter (has key)).length :=
    List.length_pos_of_mem (List.mem_filter.2 ⟨he, hkey⟩)
  rw [Once, List.filter_append, List.length_append, List.filter_cons_of_pos hd]
  simp only [List.filter_nil, List.length_singleton]
  omega

/-- A key comes once in a part if it does in the whole. -/
lemma Once.of_sublist {key : OverrideKey} {es : List Directive} (h : Once key ds)
    (hes : es.Sublist ds) : Once key es :=
  (hes.filter _).length_le.trans h

/-- The key of a repetition does not come once. -/
lemma not_once_of_repeats {key : OverrideKey} {before after : List Directive} {d : Directive}
    (hd : d.overrideKey = some key) (h : repeats before d = true) :
    ¬Once key (before ++ d :: after) := by
  rw [repeats_of_key hd] at h
  intro honce
  refine not_once_concat (has_iff.2 hd) h (honce.of_sublist ?_)
  exact (List.singleton_sublist.2 (.head _)).append_left before

/-- A directive whose key comes once is the last one for its key. -/
lemma latest_of_once {key : OverrideKey} (h : Once key ds) {d : Directive} (hd : d ∈ ds)
    (hkey : d.overrideKey = some key) : latest ds d = d := by
  rw [latest_of_key hkey]
  cases hlast : last? key ds with
  | none => rfl
  | some l =>
    have hmem : d ∈ ds.filter (has key) := List.mem_filter.2 ⟨hd, has_iff.2 hkey⟩
    have hmem' : l ∈ ds.filter (has key) :=
      List.mem_filter.2 ⟨mem_of_last? hlast, has_of_last? hlast⟩
    rw [Once] at h
    match hfilter : ds.filter (has key), h with
    | [c], _ =>
      rw [hfilter, List.mem_singleton] at hmem hmem'
      rw [hmem, hmem']
      rfl
    | [], _ =>
      rw [hfilter] at hmem
      cases hmem

/-- What is looked at is the same as if only repetitions were left out, where the first directive for a key
shows what the last one shows. -/
lemma flatMap_settle {look : Directive → List β}
    (h : ∀ d ∈ firsts [] ds, look (latest ds d) = look d) :
    (settle ds).flatMap look = (firsts [] ds).flatMap look := by
  rw [settle, List.flatMap_map]
  rw [List.flatMap_def, List.flatMap_def, List.map_congr_left h]

/-- Who takes up in turn what is looked at comes to the same without the repetitions, if none of them adds
anything to what came before. -/
lemma takeUp_firsts {take : List β → γ} {look : Directive → List β}
    (happend : ∀ {xs ys}, take xs = take ys → ∀ zs, take (xs ++ zs) = take (ys ++ zs))
    (hrepeat : ∀ before d after, ds = before ++ d :: after → repeats before d = true →
      take (before.flatMap look ++ look d) = take (before.flatMap look)) :
    take ((firsts [] ds).flatMap look) = take (ds.flatMap look) := by
  -- from the end, because what repeats a directive stands behind it
  induction ds using List.reverseRecOn with
  | nil => rfl
  | append_singleton ds d ih =>
    have hds := ih fun before e after heq => hrepeat before e (after ++ [d]) (by simp [heq])
    rw [firsts_append, List.nil_append, List.flatMap_append, List.flatMap_append,
      List.flatMap_singleton, firsts]
    split
    · rename_i hagain
      rw [hrepeat ds d [] rfl hagain, firsts, List.flatMap_nil, List.append_nil]
      exact hds
    · rw [firsts, List.flatMap_singleton]
      exact happend hds _

/-- Words in front that agree with what is said make no difference. -/
lemma findSome?_append_of_agree {say : Directive → Option β} {v : β} {l m : List Directive}
    (h : ∀ c ∈ l, say c = none ∨ say c = some v) (hm : m.findSome? say = some v) :
    (l ++ m).findSome? say = some v := by
  induction l with
  | nil => exact hm
  | cons c l ih =>
    rw [List.cons_append, List.findSome?_cons]
    have hl := ih fun e he => h e (.tail _ he)
    rcases h c (.head _) with hc | hc <;> rw [hc]
    exact hl

/-- Directives in the place of others have the same word first if each says what the other says. -/
lemma findSome?_map_of_same {say : Directive → Option β} {f : Directive → Directive}
    {l : List Directive} (h : ∀ c ∈ l, say (f c) = say c) :
    (l.map f).findSome? say = l.findSome? say := by
  induction l with
  | nil => rfl
  | cons c l ih =>
    rw [List.map_cons, List.findSome?_cons, List.findSome?_cons, h c (.head _),
      ih fun e he => h e (.tail _ he)]

/-- The last word is that of the directive at the end, or else that of what is before it. -/
lemma reverse_concat_findSome? (say : Directive → Option β) (ds : List Directive) (d : Directive) :
    (ds ++ [d]).reverse.findSome? say = (say d).or (ds.reverse.findSome? say) := by
  rw [List.reverse_append, List.reverse_singleton, List.singleton_append, List.findSome?_cons]
  cases say d <;> rfl

section LastWord

variable {say : Directive → Option β} {key : OverrideKey}

/-- A directive that has a say of its own stands for itself, if the keys of others come once. -/
lemma latest_eq_of_say
    (hother : ∀ d ∈ ds, ∀ k, d.overrideKey = some k → k ≠ key → Once k ds ∨ say d = none)
    {c : Directive} (hc : c ∈ ds) (hkey : has key c = false) :
    latest ds c = c ∨ say (latest ds c) = none := by
  cases hck : c.overrideKey with
  | none => exact .inl (latest_of_no_key hck ds)
  | some k =>
    have hne : k ≠ key := by
      rintro rfl
      rw [has_iff.2 hck] at hkey
      cases hkey
    rcases hother (latest ds c) (latest_mem hc) k ((overrideKey_latest ds c).trans hck) hne with honce | hnone
    · exact .inl (latest_of_once honce hc hck)
    · exact .inr hnone

/-- The last directive for a key that has come before has the last word, if nothing since then says
otherwise. -/
lemma lastWord_concat {d : Directive} {v : β} (hd : has key d = true) (hv : say d = some v)
    (hany : ds.any (has key) = true)
    (hother : ∀ d ∈ ds, ∀ k, d.overrideKey = some k → k ≠ key → Once k ds ∨ say d = none)
    (hbetween : ∀ e c, [e, c].Sublist ds → has key e = true → has key c = false →
      say c = none ∨ say c = some v) :
    (settle (ds ++ [d])).reverse.findSome? say = some v := by
  have hlatest (c : Directive) :
      latest (ds ++ [d]) c = if has key c then d else latest ds c := by
    rw [latest_concat, has_iff.1 hd]
    rfl
  have hfirsts : firsts [] (ds ++ [d]) = firsts [] ds := by
    rw [firsts_append, List.nil_append, firsts, repeats_of_key (has_iff.1 hd), if_pos hany, firsts,
      List.append_nil]
  rw [← any_firsts] at hany
  -- the last directive stands where `e` was, and has the word unless what follows `e` has another
  obtain ⟨e, he, hkey⟩ := List.any_eq_true.1 hany
  obtain ⟨before, after, hsplit⟩ := List.append_of_mem he
  have hafter : (e :: after).Sublist ds :=
    (hsplit ▸ List.sublist_append_right before (e :: after)).trans (firsts_sublist [] ds)
  rw [settle, hfirsts, hsplit, List.map_append, List.map_cons, hlatest e, if_pos hkey,
    List.reverse_append, List.reverse_cons, List.append_assoc, List.singleton_append]
  refine findSome?_append_of_agree (fun c' hc' => ?_) (by rw [List.findSome?_cons, hv])
  obtain ⟨c, hc, rfl⟩ := List.mem_map.1 (List.mem_reverse.1 hc')
  rw [hlatest]
  cases hck : has key c with
  | true => exact .inr hv
  | false =>
    have hpair : [e, c].Sublist ds :=
      ((List.singleton_sublist.2 hc).cons_cons e).trans hafter
    rw [if_neg Bool.false_ne_true]
    rcases latest_eq_of_say hother (hpair.subset (by simp)) hck with heq | hnone
    · rw [heq]
      exact hbetween e c hpair hkey hck
    · exact .inl hnone

/-- A directive without the key has its say after what the directives before it settle to, where those
with another key have no say if the key comes again. -/
lemma lastWord_concat_of_other {d : Directive} (hd : has key d = false)
    (hother : ∀ c ∈ ds ++ [d], ∀ k, c.overrideKey = some k → k ≠ key →
      Once k (ds ++ [d]) ∨ say c = none) :
    (settle (ds ++ [d])).reverse.findSome? say =
      (say d).or ((settle ds).reverse.findSome? say) := by
  rw [settle_concat]
  cases hkey : d.overrideKey with
  | none => rw [add_of_no_key hkey, reverse_concat_findSome?]
  | some k =>
    have hne : k ≠ key := by
      rintro rfl
      rw [has_iff.2 hkey] at hd
      cases hd
    rw [add_of_key hkey]
    cases hany : ds.any (has k) with
    | false => rw [place_of_not_any ((any_settle k ds).trans hany), reverse_concat_findSome?]
    | true =>
      -- neither the directive nor the one that it replaces has a say
      have hmute {c : Directive} (hc : c ∈ ds ++ [d]) (hck : has k c = true) : say c = none :=
        (hother c hc k (has_iff.1 hck) hne).resolve_left (not_once_concat (has_iff.2 hkey) hany)
      have hplaced : ∀ c ∈ (settle ds).reverse, say (if has k c then d else c) = say c := by
        intro c hc
        have hmem : c ∈ ds ++ [d] :=
          List.mem_append_left _ (mem_of_mem_settle (List.mem_reverse.1 hc))
        cases hck : has k c with
        | true => rw [if_pos rfl, hmute (by simp) (has_iff.2 hkey), hmute hmem hck]
        | false => rfl
      rw [place_of_any (distinct_settle ds) ((any_settle k ds).trans hany),
        hmute (by simp) (has_iff.2 hkey), Option.none_or, ← List.map_reverse]
      exact findSome?_map_of_same hplaced

/-- The last word of a kind is the same, where directives with another key have no say if the key comes
again, and nothing between the first directive with the key and the last one says otherwise than that. -/
lemma lastWord_settle (key : OverrideKey) (hsay : ∀ d ∈ ds, has key d = true → (say d).isSome = true)
    (hother : ∀ d ∈ ds, ∀ k, d.overrideKey = some k → k ≠ key → Once k ds ∨ say d = none)
    (hlast : ∀ l, last? key ds = some l → ∀ e c, [e, c, l].Sublist ds → has key e = true →
      has key c = false → say c = none ∨ say c = say l) :
    (settle ds).reverse.findSome? say = ds.reverse.findSome? say := by
  induction ds using List.reverseRecOn with
  | nil => rfl
  | append_singleton ds d ih =>
    have hother' : ∀ c ∈ ds, ∀ k, c.overrideKey = some k → k ≠ key → Once k ds ∨ say c = none := by
      intro c hc k hck hne
      refine (hother c (by simp [hc]) k hck hne).imp_left fun h => ?_
      exact h.of_sublist (List.sublist_append_left _ _)
    rw [reverse_concat_findSome?]
    cases hd : has key d with
    | true =>
      obtain ⟨v, hv⟩ := Option.isSome_iff_exists.1 (hsay d (by simp) hd)
      rw [hv, Option.some_or]
      -- at its first time the directive comes last, later it takes the place of the first one
      cases hany : ds.any (has key) with
      | true =>
        refine lastWord_concat hd hv hany hother' fun e c hec he hc => ?_
        have hl : last? key (ds ++ [d]) = some d := by rw [last?_concat, if_pos hd]
        rw [← hv]
        exact hlast d hl e c (hec.append (List.Sublist.refl [d])) he hc
      | false =>
        rw [settle_concat, add_of_key (has_iff.1 hd),
          place_of_not_any ((any_settle key ds).trans hany), reverse_concat_findSome?, hv,
          Option.some_or]
    | false =>
      have hds : (settle ds).reverse.findSome? say = ds.reverse.findSome? say := by
        refine ih (fun c hc => hsay c (by simp [hc])) hother' fun l hl e c hec => ?_
        have hl' : last? key (ds ++ [d]) = some l := by
          rw [last?_concat, hd, if_neg Bool.false_ne_true, hl]
        exact hlast l hl' e c (hec.trans (List.sublist_append_left _ _))
      rw [lastWord_concat_of_other hd hother, hds]

end LastWord

end HtGate.Overlay
