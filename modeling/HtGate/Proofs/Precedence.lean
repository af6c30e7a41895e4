import HtGate.Proofs.SingleConfiguration
/-!
# What a deeper configuration overrides

A configuration that is laid over another one puts the last of its directives with a key in the place of the
first directive with that key below, and comes behind what is below otherwise. So for a kind that a directory
has once, its word is the last one unless something below stays that stands behind the first word of the kind
there: a second word of the kind, or a block that applies to the request and has one inside. Nothing else can
take precedence over it.
-/

namespace HtGate.Overlay

/-- The directives of a list, each that is the first with its key replaced by the last one with the key from
above, if there is one. -/
def covered (above before : List Directive) : List Directive → List Directive
  | [] => []
  | d :: more =>
    (if repeats before d then d else latest above d) :: covered above (before ++ [d]) more

/-- Whether no directive from above replaces a directive that stands behind others. -/
def stays (above before : List Directive) (d : Directive) : Bool :=
  repeats before d || !d.overrideKey.any fun key => above.any (has key)

/-- The directives of a list that no directive from above replaces. -/
def staying (above before : List Directive) : List Directive → List Directive
  | [] => []
  | d :: more =>
    if stays above before d then d :: staying above (before ++ [d]) more
    else staying above (before ++ [d]) more

/-- The directives behind the first one with a key that no directive from above replaces. -/
def outlasting (key : OverrideKey) (above below : List Directive) : List Directive :=
  match below.dropWhile fun d => !has key d with
  | [] => []
  | d :: after => staying above (below.takeWhile (fun d => !has key d) ++ [d]) after

/-- The directives that stay stand below in their order. -/
lemma staying_sublist (above before ds : List Directive) : (staying above before ds).Sublist ds := by
  induction ds generalizing before with
  | nil => exact List.Sublist.refl _
  | cons d ds ih =>
    rw [staying]
    split
    · exact (ih _).cons_cons d
    · exact (ih _).cons d

/-- A key comes nowhere in a list, or somewhere for the first time. -/
lemma any_cases (key : OverrideKey) (ds : List Directive) :
    ds.any (has key) = false ∨
      ∃ before d after, ds = before ++ d :: after ∧ before.any (has key) = false ∧ has key d = true := by
  induction ds with
  | nil => exact .inl rfl
  | cons d ds ih =>
    cases hd : has key d with
    | true => exact .inr ⟨[], d, ds, rfl, rfl, hd⟩
    | false =>
      rcases ih with hnone | ⟨before, e, after, rfl, hbefore, he⟩
      · exact .inl (by rw [List.any_cons, hd, hnone]; rfl)
      · exact .inr ⟨d :: before, e, after, rfl, by rw [List.any_cons, hd, hbefore]; rfl, he⟩

/-- Where a key is not below, nothing outlasts it. -/
lemma outlasting_of_not_any {key : OverrideKey} {below : List Directive}
    (h : below.any (has key) = false) (above : List Directive) : outlasting key above below = [] := by
  have hnone : below.dropWhile (fun d => !has key d) = [] := by
    rw [List.dropWhile_eq_nil_iff]
    simpa using h
  rw [outlasting, hnone]

/-- What outlasts a key is what stays behind the first directive with the key. -/
lemma outlasting_append {key : OverrideKey} {before : List Directive} {d : Directive}
    (hbefore : before.any (has key) = false) (hd : has key d = true) (above after : List Directive) :
    outlasting key above (before ++ d :: after) = staying above (before ++ [d]) after := by
  have hnot : ∀ e ∈ before, (!has key e) = true := by simpa using hbefore
  have hstop : ¬(!has key d) = true := by simp [hd]
  rw [outlasting, List.dropWhile_append_of_pos hnot, List.takeWhile_append_of_pos hnot,
    List.dropWhile_cons_of_neg (p := fun e => !has key e) hstop,
    List.takeWhile_cons_of_neg (p := fun e => !has key e) hstop, List.append_nil]

section Covered

variable {above before below : List Directive} {key : OverrideKey} {d : Directive}

/-- A list is covered in two parts, the second one behind the first. -/
lemma covered_append (above before ds es : List Directive) :
    covered above before (ds ++ es) =
      covered above before ds ++ covered above (before ++ ds) es := by
  induction ds generalizing before with
  | nil => simp [covered]
  | cons d ds ih => simp [covered, ih]

/-- A covered list has the keys that it had. -/
lemma any_covered (key : OverrideKey) (above before below : List Directive) :
    (covered above before below).any (has key) = below.any (has key) := by
  induction below generalizing before with
  | nil => rfl
  | cons d ds ih =>
    rw [covered, List.any_cons, List.any_cons, ih]
    split
    · rfl
    · rw [has_latest]

/-- Nothing from above covers nothing. -/
lemma covered_nil (before below : List Directive) : covered [] before below = below := by
  induction below generalizing before with
  | nil => rfl
  | cons d ds ih =>
    have hself : latest [] d = d := by
      rw [latest]
      split <;> rfl
    rw [covered, ih, hself, ite_self]

/-- A directive without a key replaces nothing. -/
lemma covered_concat_of_no_key (h : d.overrideKey = none) (above before below : List Directive) :
    covered (above ++ [d]) before below = covered above before below := by
  induction below generalizing before with
  | nil => rfl
  | cons e ds ih =>
    rw [covered, covered, ih, latest_concat, h]
    rfl

/-- Nor does one whose key nothing below has. -/
lemma covered_concat_of_not_any (h : d.overrideKey = some key) (hnone : below.any (has key) = false)
    (above before : List Directive) :
    covered (above ++ [d]) before below = covered above before below := by
  induction below generalizing before with
  | nil => rfl
  | cons e ds ih =>
    rw [List.any_cons, Bool.or_eq_false_iff] at hnone
    rw [covered, covered, ih hnone.2, latest_concat, h, Option.any_some, hnone.1,
      if_neg Bool.false_ne_true]

/-- One whose key comes before replaces nothing that follows. -/
lemma covered_concat_of_before (h : d.overrideKey = some key) (hbefore : before.any (has key) = true)
    (above below : List Directive) :
    covered (above ++ [d]) before below = covered above before below := by
  induction below generalizing before with
  | nil => rfl
  | cons e ds ih =>
    rw [covered, covered, ih (by simp [hbefore])]
    cases he : has key e with
    | true => rw [repeats_of_key (has_iff.1 he), hbefore, if_pos rfl, if_pos rfl]
    | false => rw [latest_concat, h, Option.any_some, he, if_neg Bool.false_ne_true]

/-- A directive that is put in the place of the first one with its key replaces that one. -/
lemma place_covered (h : d.overrideKey = some key) (hbefore : before.any (has key) = false)
    (hany : below.any (has key) = true) (above : List Directive) :
    place key d (covered above before below) = covered (above ++ [d]) before below := by
  induction below generalizing before with
  | nil => cases hany
  | cons e ds ih =>
    rw [covered, covered, place, ← has]
    cases he : has key e with
    | true =>
      -- the first one with the key: it is replaced on both sides, and later ones stay
      have hnot : repeats before e = false := by rw [repeats_of_key (has_iff.1 he), hbefore]
      rw [hnot, if_neg Bool.false_ne_true, if_neg Bool.false_ne_true, has_latest, he, if_pos rfl,
        latest_concat, h, Option.any_some, he, if_pos rfl,
        covered_concat_of_before h (by simp [he])]
    | false =>
      rw [List.any_cons, he, Bool.false_or] at hany
      have hsame : (if repeats before e then e else latest (above ++ [d]) e) =
          if repeats before e then e else latest above e := by
        rw [latest_concat, h, Option.any_some, he, if_neg Bool.false_ne_true]
      have hkey : has key (if repeats before e then e else latest above e) = false := by
        split
        · exact he
        · rw [has_latest, he]
      rw [hsame, hkey, if_neg Bool.false_ne_true, ih (by simp [hbefore, he]) hany]

/-- Where a key is in the first part of a list, a directive is put there. -/
lemma place_append_of_any {ds : List Directive} (h : ds.any (has key) = true) (es : List Directive) :
    place key d (ds ++ es) = place key d ds ++ es := by
  induction ds with
  | nil => cases h
  | cons e ds ih =>
    rw [List.cons_append, place, place, ← has]
    cases he : has key e with
    | true => rfl
    | false =>
      rw [List.any_cons, he, Bool.false_or] at h
      rw [if_neg Bool.false_ne_true, if_neg Bool.false_ne_true, ih h, List.cons_append]

/-- Where a key is not in the first part of a list, a directive is put in the second one. -/
lemma place_append_of_not_any {ds : List Directive} (h : ds.any (has key) = false)
    (es : List Directive) : place key d (ds ++ es) = ds ++ place key d es := by
  induction ds with
  | nil => rfl
  | cons e ds ih =>
    rw [List.any_cons, Bool.or_eq_false_iff] at h
    rw [List.cons_append, place, ← has, h.1, if_neg Bool.false_ne_true, ih h.2, List.cons_append]

/-- What is laid over other directives replaces the first of them with its keys and comes behind them
otherwise. -/
lemma merge_eq (below above : List Directive) :
    merge below above =
      covered above [] below ++ settle (above.filter fun d => !repeats below d) := by
  induction above using List.reverseRecOn with
  | nil =>
    rw [covered_nil, List.filter_nil]
    exact (List.append_nil below).symm
  | append_singleton above d ih =>
    have hmerge : merge below (above ++ [d]) = add (merge below above) d := by
      rw [merge, List.foldl_concat]
      rfl
    rw [hmerge, ih, List.filter_append]
    -- the last directive from above takes a place below, or one among those behind
    cases hkey : d.overrideKey with
    | none =>
      have hd : [d].filter (fun d => !repeats below d) = [d] := by
        simp [repeats_of_no_key hkey]
      rw [covered_concat_of_no_key hkey, hd, settle_concat, add_of_no_key hkey, add_of_no_key hkey,
        List.append_assoc]
    | some key =>
      rw [add_of_key hkey]
      cases hany : below.any (has key) with
      | true =>
        have hd : [d].filter (fun d => !repeats below d) = [] := by
          simp [repeats_of_key hkey, hany]
        rw [place_append_of_any ((any_covered key above [] below).trans hany),
          place_covered hkey rfl hany, hd, List.append_nil]
      | false =>
        have hd : [d].filter (fun d => !repeats below d) = [d] := by
          simp [repeats_of_key hkey, hany]
        rw [place_append_of_not_any ((any_covered key above [] below).trans hany),
          covered_concat_of_not_any hkey hany, hd, settle_concat, add_of_key hkey]

end Covered

/-- The last directive with a key is that of the second part of a list, or else that of the first. -/
lemma last?_append (key : OverrideKey) (ds es : List Directive) :
    last? key (ds ++ es) = (last? key es).or (last? key ds) := by
  rw [last?, List.reverse_append, List.find?_append]
  rfl

/-- There is no last directive with a key exactly if none has it. -/
lemma last?_eq_none_iff {key : OverrideKey} {ds : List Directive} :
    last? key ds = none ↔ ∀ d ∈ ds, has key d = false := by
  rw [last?, List.find?_eq_none]
  simp

/-- There is a last directive with a key if one has it. -/
lemma isSome_last? {key : OverrideKey} {ds : List Directive} (h : ds.any (has key) = true) :
    (last? key ds).isSome = true := by
  rw [Option.isSome_iff_ne_none, Ne, last?_eq_none_iff]
  intro hnone
  obtain ⟨d, hd, hkey⟩ := List.any_eq_true.1 h
  rw [hnone d hd] at hkey
  cases hkey

/-- The last directive with a key is the last of those that have it. -/
lemma last?_filter (key : OverrideKey) (ds : List Directive) :
    last? key (ds.filter (has key)) = last? key ds := by
  rw [last?, last?, ← List.filter_reverse, List.find?_filter]
  simp

/-- What directives with a key are left shows which one comes last. -/
lemma last?_filter_of_has {key : OverrideKey} {keep : Directive → Bool}
    (h : ∀ d, has key d = true → keep d = true) (ds : List Directive) :
    last? key (ds.filter keep) = last? key ds := by
  rw [← last?_filter key ds, ← last?_filter key (ds.filter keep), List.filter_filter]
  congr 1
  refine List.filter_congr fun d _ => ?_
  cases hd : has key d with
  | true => rw [h d hd]; rfl
  | false => rfl

/-- What a list comes to has the same last directive for each key. -/
lemma last?_settle (key : OverrideKey) (ds : List Directive) :
    last? key (settle ds) = last? key ds := by
  rw [← last?_filter, filter_settle]
  cases hlast : last? key ds with
  | none => rfl
  | some d => exact (last?_concat key [] d).trans (if_pos (has_of_last? hlast))

/-- Whether no rule of a kind can be selected from a block of a configuration. -/
def OnTop (kind : Kind) (ds : List Directive) : Prop :=
  ∀ line head children, .block line head children ∈ ds →
    ∀ r ∈ (Directive.block line head children).selectable, r.kind ≠ kind

section Selecting

variable {modules : Modules} {s : Session} {kind : Kind} {above below : List Directive}

/-- The last word of a kind among what directives stand for in a session. -/
def lastWord (modules : Modules) (s : Session) (kind : Kind) (ds : List Directive) :
    Option Directive :=
  last? (.only kind) (ds.flatMap (Selection.pieces modules s))

/-- The last word is that of the second part of a list, or else that of the first. -/
lemma lastWord_append (ds es : List Directive) :
    lastWord modules s kind (ds ++ es) =
      (lastWord modules s kind es).or (lastWord modules s kind ds) := by
  rw [lastWord, List.flatMap_append, last?_append]
  rfl

/-- The last word is that of what follows a directive, or else that of the directive. -/
lemma lastWord_cons (d : Directive) (ds : List Directive) :
    lastWord modules s kind (d :: ds) =
      (lastWord modules s kind ds).or (last? (.only kind) (Selection.pieces modules s d)) := by
  rw [lastWord, List.flatMap_cons, last?_append]
  rfl

/-- The word of a directive with the key is the directive. -/
lemma last?_pieces_of_has {d : Directive} (h : has (.only kind) d = true) :
    last? (.only kind) (Selection.pieces modules s d) = some d := by
  obtain ⟨line, r, rfl, -⟩ := exists_rule_of_only h
  rw [Selection.pieces_rule]
  exact (last?_concat _ [] _).trans (if_pos h)

/-- Other directives have no word if no block has one. -/
lemma last?_pieces_of_not_has (htop : OnTop kind above) {d : Directive} (hd : d ∈ above)
    (h : has (.only kind) d = false) :
    last? (.only kind) (Selection.pieces modules s d) = none := by
  rw [last?_eq_none_iff]
  intro e he
  cases d with
  | rule line r =>
    rw [Selection.pieces_rule, List.mem_singleton] at he
    rw [he, h]
  | block line head children =>
    refine Bool.eq_false_iff.2 fun hkey => ?_
    obtain ⟨line', r, rfl, hr⟩ := exists_rule_of_only hkey
    exact htop line head children hd r (Selection.selectable_of_pieces he) hr

/-- Where blocks have no word, the last word is the last directive. -/
lemma lastWord_of_onTop (htop : OnTop kind above) {ds : List Directive} (hds : ∀ d ∈ ds, d ∈ above) :
    lastWord modules s kind ds = last? (.only kind) ds := by
  induction ds using List.reverseRecOn with
  | nil => rfl
  | append_singleton ds d ih =>
    rw [lastWord_append, ih fun e he => hds e (by simp [he]), last?_concat, lastWord,
      List.flatMap_singleton]
    cases hd : has (.only kind) d with
    | true => rw [last?_pieces_of_has hd]; rfl
    | false => rw [last?_pieces_of_not_has htop (hds d (by simp)) hd]; rfl

/-- Behind a directive with the key the directives from above leave the words of what stays. -/
lemma lastWord_covered (htop : OnTop kind above) {before : List Directive}
    (hbefore : before.any (has (.only kind)) = true) (ds : List Directive) :
    lastWord modules s kind (covered above before ds) =
      lastWord modules s kind (staying above before ds) := by
  induction ds generalizing before with
  | nil => rfl
  | cons d ds ih =>
    have hwith : (before ++ [d]).any (has (.only kind)) = true := by simp [hbefore]
    have hmore := ih hwith
    rw [covered, staying, lastWord_cons, hmore, stays]
    cases hrepeats : repeats before d with
    | true => rw [Bool.true_or, if_pos rfl, if_pos rfl, lastWord_cons]
    | false =>
      rw [Bool.false_or, if_neg Bool.false_ne_true]
      cases hkey : d.overrideKey with
      | none => rw [latest_of_no_key hkey, Option.any_none, Bool.not_false, if_pos rfl, lastWord_cons]
      | some key =>
        rw [Option.any_some, latest_of_key hkey]
        cases hlast : last? key above with
        | none =>
          have hnone : above.any (has key) = false := by
            rw [last?_eq_none_iff] at hlast
            simpa using hlast
          rw [hnone, Bool.not_false, if_pos rfl, lastWord_cons]
          rfl
        | some e =>
          -- what replaces the directive has another key, because the directive is the first with its own
          have hany : above.any (has key) = true :=
            List.any_eq_true.2 ⟨e, mem_of_last? hlast, has_of_last? hlast⟩
          have hother : has (.only kind) e = false := by
            refine Bool.eq_false_iff.2 fun he => ?_
            have heq := (has_iff.1 (has_of_last? hlast)).symm.trans (has_iff.1 he)
            rw [repeats_of_key hkey, Option.some.inj heq, hbefore] at hrepeats
            cases hrepeats
          rw [hany, Bool.not_true, if_neg Bool.false_ne_true, Option.getD_some,
            last?_pieces_of_not_has htop (mem_of_last? hlast) hother, Option.or_none]

/-- The last word in what is laid over other directives is that of what outlasts, or else the last
directive from above. -/
lemma lastWord_merge (habove : above.any (has (.only kind)) = true) (htop : OnTop kind above)
    (below : List Directive) :
    lastWord modules s kind (merge below above) =
      (lastWord modules s kind (outlasting (.only kind) above below)).or (last? (.only kind) above) := by
  obtain ⟨l, hl⟩ := Option.isSome_iff_exists.1 (isSome_last? habove)
  have hrest : lastWord modules s kind (settle (above.filter fun d => !repeats below d)) =
      last? (.only kind) (above.filter fun d => !repeats below d) := by
    rw [lastWord_of_onTop htop fun d hd => (List.mem_filter.1 (mem_of_mem_settle hd)).1,
      last?_settle]
  rw [merge_eq, lastWord_append, hrest]
  rcases any_cases (.only kind) below with hnone | ⟨before, d, after, rfl, hbefore, hd⟩
  · -- nothing below has the key, so the last directive from above comes behind what is there
    rw [last?_filter_of_has fun d hd => by rw [repeats_of_key (has_iff.1 hd), hnone]; rfl, hl,
      outlasting_of_not_any hnone]
    rfl
  · have hnone : last? (.only kind) (above.filter fun e => !repeats (before ++ d :: after) e) =
        none := by
      rw [last?_eq_none_iff]
      intro e he
      refine Bool.eq_false_iff.2 fun hkey => ?_
      rw [List.mem_filter, repeats_of_key (has_iff.1 hkey)] at he
      simp [hd] at he
    have hlatest : latest above d = l := by
      rw [latest_of_key (has_iff.1 hd), hl, Option.getD_some]
    rw [hnone, Option.none_or, covered_append, lastWord_append, List.nil_append, covered,
      lastWord_cons, repeats_of_key (has_iff.1 hd), hbefore, if_neg Bool.false_ne_true, hlatest,
      last?_pieces_of_has (has_of_last? hl), lastWord_covered htop (by simp [hd]), hl,
      outlasting_append hbefore hd, Option.or_assoc]
    rfl

/-- Nothing outlasts a kind that comes once, and at the top. -/
lemma lastWord_outlasting_of_once (honce : Once (.only kind) below) (htop : OnTop kind below) :
    lastWord modules s kind (outlasting (.only kind) above below) = none := by
  rcases any_cases (.only kind) below with hnone | ⟨before, d, after, rfl, hbefore, hd⟩
  · rw [outlasting_of_not_any hnone]
    rfl
  · rw [outlasting_append hbefore hd]
    have hstays := staying_sublist above (before ++ [d]) after
    rw [lastWord_of_onTop htop (fun e he => by simp [hstays.subset he]), last?_eq_none_iff]
    intro e he
    refine Bool.eq_false_iff.2 fun hkey => ?_
    have hpair : [d, e].Sublist (before ++ d :: after) :=
      ((List.singleton_sublist.2 (hstays.subset he)).cons_cons d).trans
        (List.sublist_append_right before _)
    have htwo := honce.of_sublist hpair
    simp [Once, hd, hkey] at htwo

end Selecting

/-- What configurations that are laid over one another come to has a key once. -/
lemma once_mergeAll (key : OverrideKey) (layers : List (List Directive)) :
    Once key (mergeAll layers) := by
  rw [mergeAll_eq, merge_nil]
  exact once_of_pairwise (distinct_settle _) fun d e hdistinct hd he =>
    hdistinct key (has_iff.1 hd) (has_iff.1 he)

end HtGate.Overlay

namespace HtGate

open Overlay

/-- A kind that a directory has once, and that a configuration says at the top and in none of its blocks: after
the configuration is laid over others, its last word of the kind is in effect for a request, unless a
directive outlasts it that stands below behind the first one of the kind and stands for a word of the kind
in the session. Nothing does if the kind does not come at the top below, or if it comes there once and in no
block. It comes there at most once in what a walk lays over one another. -/
theorem last?_select_merge {modules : Modules} {s : Session} {kind : Kind} {below above sel : List Directive}
    (hsingle : OverrideKey.isSingle kind = true) (habove : ∃ line r, .rule line r ∈ above ∧ r.kind = kind)
    (htop : OnTop kind above) (hsel : Selection.select modules s (merge below above) = .ok sel) :
    last? (.only kind) sel =
      (lastWord modules s kind (outlasting (.only kind) above below)).or (last? (.only kind) above) ∧
    (below.any (has (.only kind)) = false → last? (.only kind) sel = last? (.only kind) above) ∧
    (Once (.only kind) below → OnTop kind below →
      last? (.only kind) sel = last? (.only kind) above) ∧
    ∀ layers, below = mergeAll layers → Once (.only kind) below := by
  have hany : above.any (has (.only kind)) = true := by
    obtain ⟨line, r, hr, rfl⟩ := habove
    exact List.any_eq_true.2 ⟨_, hr, has_iff.2 (OverrideKey.ofRule_of_single hsingle)⟩
  have hlast : last? (.only kind) sel =
      (lastWord modules s kind (outlasting (.only kind) above below)).or (last? (.only kind) above) := by
    rw [← lastWord_merge hany htop below, lastWord, Selection.eq_of_select hsel]
  refine ⟨hlast, fun hnone => ?_, fun honce hbelow => ?_, ?_⟩
  · rw [hlast, outlasting_of_not_any hnone]
    rfl
  · rw [hlast, lastWord_outlasting_of_once honce hbelow, Option.none_or]
  · rintro layers rfl
    exact once_mergeAll _ layers

/-- A host list and an order before a block for a module that says the same order. -/
def orderAround : Text :=
  "Deny from a\nOrder Deny,Allow\n<IfModule m>\nOrder Deny,Allow\n</IfModule>".toList

/-- How the first text is read. -/
lemma parse_orderAround : parse orderAround = .ok
    ⟨[.rule 1 { kind := .denyFrom, value := some ['a'] }, .rule 2 (orderRule AccessOrder.denyAllow),
      .block 3 moduleHead [.rule 4 (orderRule AccessOrder.denyAllow)]], []⟩ := by
  rfl

/-- An order the other way round, and the same host list. -/
def orderReversed : Text := "Order Allow,Deny\nDeny from a".toList

/-- How the second text is read. -/
lemma parse_orderReversed : parse orderReversed = .ok
    ⟨[.rule 1 (orderRule AccessOrder.allowDeny), .rule 2 { kind := .denyFrom, value := some ['a'] }], []⟩ := by
  rfl

/-- The second configuration has no blocks, and so its order is on top. -/
lemma onTop_orderReversed : OnTop .order
    [.rule 1 (orderRule AccessOrder.allowDeny), .rule 2 { kind := .denyFrom, value := some ['a'] }] := by
  intro line head children h
  simp at h

/-- Where the module is not there, the reversed order is in effect; what outlasts it is the block. -/
theorem last?_select_merge_orderReversed :
    ∃ below above sel, parse orderAround = .ok below ∧ parse orderReversed = .ok above ∧
      Selection.select (some []) fileSession (merge below.directives above.directives) = .ok sel ∧
      (outlasting (.only .order) above.directives below.directives).map Directive.line = [3] ∧
      last? (.only .order) sel = some (.rule 1 (orderRule AccessOrder.allowDeny)) := by
  have hsel : Selection.select (some []) fileSession (merge
      [.rule 1 { kind := .denyFrom, value := some ['a'] }, .rule 2 (orderRule AccessOrder.denyAllow),
        .block 3 moduleHead [.rule 4 (orderRule AccessOrder.denyAllow)]]
      [.rule 1 (orderRule AccessOrder.allowDeny), .rule 2 { kind := .denyFrom, value := some ['a'] }]) =
      .ok [.rule 2 { kind := .denyFrom, value := some ['a'] },
        .rule 1 (orderRule AccessOrder.allowDeny)] := rfl
  have hlast := (last?_select_merge rfl ⟨1, _, .head _, rfl⟩ onTop_orderReversed hsel).1
  exact ⟨_, _, _, parse_orderAround, parse_orderReversed, hsel, rfl, hlast⟩

/-- Where the module is there, the order of the block is in effect, and a request is let in that the upper
configuration turns away on its own. -/
theorem orderReversed_not_in_effect :
    ∃ below above sel, parse orderAround = .ok below ∧ parse orderReversed = .ok above ∧
      (∃ line r, .rule line r ∈ above.directives ∧ r.kind = .order) ∧ OnTop .order above.directives ∧
      Selection.select none fileSession (merge below.directives above.directives) = .ok sel ∧
      last? (.only .order) above.directives = some (.rule 1 (orderRule AccessOrder.allowDeny)) ∧
      last? (.only .order) sel = some (.rule 4 (orderRule AccessOrder.denyAllow)) ∧
      (Access.check {} none above.directives fileSession).result =
        .ok (.deny 403 "Order allow,deny: allow_matched=False, deny_matched=False".toList) ∧
      (Access.check {} none (merge below.directives above.directives) fileSession).result =
        .ok (.allow "Order deny,allow: allow_matched=False, deny_matched=False".toList) :=
  ⟨_, _, _, parse_orderAround, parse_orderReversed, ⟨1, _, .head _, rfl⟩, onTop_orderReversed, rfl, rfl,
    rfl, by rfl, by rfl⟩

end HtGate
