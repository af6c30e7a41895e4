import HtGate.Proofs.Walker
/-!
# What overriding comes to

Configurations that are laid over one another come to the list of all their directives in which every
directive that shares its override key with an earlier one is left out, and what remains for a key is the
last directive with that key. The invariant is about the list that is laid out so far: adding a directive to
what a list comes to is the same as adding it to the list. No two directives of the outcome share a key, so
what a walk finds for a key is what the deepest directory with that key says.
-/

namespace HtGate.Overlay

/-- Whether a directive has an override key. -/
def has (key : OverrideKey) (d : Directive) : Bool := d.overrideKey == some key

/-- Whether a directive shares its override key with one of those before it. -/
def repeats (before : List Directive) (d : Directive) : Bool :=
  d.overrideKey.any fun key => before.any (has key)

/-- The directives that share their override key with none before them. -/
def firsts (before : List Directive) : List Directive → List Directive
  | [] => []
  | d :: more =>
    if repeats before d then firsts (before ++ [d]) more else d :: firsts (before ++ [d]) more

/-- The last directive with an override key. -/
def last? (key : OverrideKey) (ds : List Directive) : Option Directive := ds.reverse.find? (has key)

/-- The last directive that shares the override key of a directive; a directive without a key is its own. -/
def latest (ds : List Directive) (d : Directive) : Directive :=
  match d.overrideKey with
  | none => d
  | some key => (last? key ds).getD d

/-- The directives of a list with the last one for each override key in the place of the first. -/
def settle (ds : List Directive) : List Directive := (firsts [] ds).map (latest ds)

/-- Whether no two directives of a list share an override key. -/
def Distinct (ds : List Directive) : Prop :=
  ds.Pairwise fun d e => ∀ key, d.overrideKey = some key → e.overrideKey ≠ some key

/-- A directive has the override key that it has, and no other. -/
lemma has_iff {key : OverrideKey} {d : Directive} : has key d = true ↔ d.overrideKey = some key := by
  simp [has]

/-- A directive with a key repeats what is before it exactly if that key is there. -/
lemma repeats_of_key {key : OverrideKey} {d : Directive} (h : d.overrideKey = some key)
    (before : List Directive) : repeats before d = before.any (has key) := by
  rw [repeats, h]
  rfl

/-- A directive without a key repeats nothing. -/
lemma repeats_of_no_key {d : Directive} (h : d.overrideKey = none) (before : List Directive) :
    repeats before d = false := by
  rw [repeats, h]
  rfl

/-- A directive with a key is put in its place. -/
lemma add_of_key {key : OverrideKey} {d : Directive} (h : d.overrideKey = some key)
    (below : List Directive) : add below d = place key d below := by
  rw [add, h]

/-- A directive without a key is added at the end. -/
lemma add_of_no_key {d : Directive} (h : d.overrideKey = none) (below : List Directive) :
    add below d = below ++ [d] := by
  rw [add, h]

/-- The last directive with a key is the one added at the end if that has the key. -/
lemma last?_concat (key : OverrideKey) (ds : List Directive) (d : Directive) :
    last? key (ds ++ [d]) = if has key d then some d else last? key ds := by
  rw [last?, List.reverse_append, List.reverse_singleton, List.singleton_append, List.find?_cons]
  cases has key d <;> rfl

/-- The last directive with a key has the key. -/
lemma has_of_last? {key : OverrideKey} {ds : List Directive} {d : Directive}
    (h : last? key ds = some d) : has key d = true :=
  List.find?_some h

/-- The last directive with a key is one of the list. -/
lemma mem_of_last? {key : OverrideKey} {ds : List Directive} {d : Directive}
    (h : last? key ds = some d) : d ∈ ds :=
  List.mem_reverse.1 (List.mem_of_find?_eq_some h)

/-- The latest of a directive with a key is the last one with that key, if there is one. -/
lemma latest_of_key {key : OverrideKey} {d : Directive} (h : d.overrideKey = some key)
    (ds : List Directive) : latest ds d = (last? key ds).getD d := by
  rw [latest, h]

/-- A directive without a key is its own latest. -/
lemma latest_of_no_key {d : Directive} (h : d.overrideKey = none) (ds : List Directive) :
    latest ds d = d := by
  rw [latest, h]

/-- The latest of a directive has the key of the directive. -/
lemma overrideKey_latest (ds : List Directive) (d : Directive) :
    (latest ds d).overrideKey = d.overrideKey := by
  cases hkey : d.overrideKey with
  | none => rw [latest_of_no_key hkey, hkey]
  | some key =>
    rw [latest_of_key hkey]
    cases hlast : last? key ds with
    | none => exact hkey
    | some e => exact has_iff.1 (has_of_last? hlast)

/-- The latest of a directive has exactly the keys that the directive has. -/
lemma has_latest (key : OverrideKey) (ds : List Directive) (d : Directive) :
    has key (latest ds d) = has key d := by
  rw [has, has, overrideKey_latest]

/-- The last directive for a key is the one that comes last. -/
lemma latest_concat (ds : List Directive) (d e : Directive) :
    latest (ds ++ [d]) e =
      if d.overrideKey.any (fun key => has key e) then d else latest ds e := by
  cases he : e.overrideKey with
  | none =>
    rw [latest_of_no_key he, latest_of_no_key he]
    cases hd : d.overrideKey <;> simp [has, he]
  | some key =>
    rw [latest_of_key he, latest_of_key he, last?_concat]
    cases hd : d.overrideKey with
    | none => simp [has, hd]
    | some key' =>
      rcases eq_or_ne key' key with rfl | hne
      · simp [has, hd, he]
      · simp [has, hd, he, hne, hne.symm]

/-- The first directives of two lists put together are those of the one, and those of the other behind it. -/
lemma firsts_append (before ds es : List Directive) :
    firsts before (ds ++ es) = firsts before ds ++ firsts (before ++ ds) es := by
  induction ds generalizing before with
  | nil => simp [firsts]
  | cons d ds ih =>
    rw [List.cons_append, firsts, firsts, ih]
    split <;> simp

/-- The first directives of a list stand in it in their order. -/
lemma firsts_sublist (before ds : List Directive) : (firsts before ds).Sublist ds := by
  induction ds generalizing before with
  | nil => exact List.Sublist.refl _
  | cons d ds ih =>
    rw [firsts]
    split
    · exact (ih _).cons d
    · exact (ih _).cons_cons d

/-- A first directive shares its key with none of those before the list. -/
lemma not_repeats_of_mem_firsts {before ds : List Directive} {d : Directive}
    (h : d ∈ firsts before ds) : repeats before d = false := by
  induction ds generalizing before with
  | nil => cases h
  | cons e ds ih =>
    have hmore (hd : d ∈ firsts (before ++ [e]) ds) : repeats before d = false := by
      have hlonger := ih hd
      cases hkey : d.overrideKey with
      | none => exact repeats_of_no_key hkey before
      | some key =>
        rw [repeats_of_key hkey, List.any_append, Bool.or_eq_false_iff] at hlonger
        rw [repeats_of_key hkey]
        exact hlonger.1
    rw [firsts] at h
    split at h
    · exact hmore h
    · rename_i hnot
      rcases List.mem_cons.1 h with rfl | h
      · exact Bool.eq_false_iff.2 hnot
      · exact hmore h

/-- No two of the first directives share a key. -/
lemma distinct_firsts (before ds : List Directive) : Distinct (firsts before ds) := by
  induction ds generalizing before with
  | nil => exact List.Pairwise.nil
  | cons d ds ih =>
    rw [firsts]
    split
    · exact ih _
    · refine List.pairwise_cons.2 ⟨?_, ih _⟩
      intro e he key hd hkey
      have hnot := not_repeats_of_mem_firsts he
      rw [repeats_of_key hkey, List.any_append, Bool.or_eq_false_iff] at hnot
      have hhas := has_iff.2 hd
      simp [hhas] at hnot

/-- The first directive with a key is not left out. -/
lemma any_firsts (key : OverrideKey) (ds : List Directive) :
    (firsts [] ds).any (has key) = ds.any (has key) := by
  induction ds using List.reverseRecOn with
  | nil => rfl
  | append_singleton ds d ih =>
    rw [firsts_append, List.nil_append, List.any_append, List.any_append, ih, firsts]
    split
    · rename_i hrepeats
      -- what is left out has the key of one that is there
      cases hd : has key d with
      | false => simp [firsts, hd]
      | true =>
        rw [repeats_of_key (has_iff.1 hd)] at hrepeats
        simp [hrepeats]
    · rfl

/-- Where the key is there, a directive is put in place of the one that has it. -/
lemma place_of_any {key : OverrideKey} {ds : List Directive} (hdistinct : Distinct ds)
    (h : ds.any (has key) = true) (d : Directive) :
    place key d ds = ds.map fun e => if has key e then d else e := by
  induction ds with
  | nil => cases h
  | cons e ds ih =>
    obtain ⟨hfirst, hmore⟩ := List.pairwise_cons.1 hdistinct
    rw [place, List.map_cons]
    cases he : has key e with
    | false =>
      rw [List.any_cons, he, Bool.false_or] at h
      rw [has] at he
      simp [he, ih hmore h]
    | true =>
      -- no other directive has the key, so the others stay
      have hothers : ∀ c ∈ ds, (if has key c then d else c) = id c := by
        intro c hc
        have hnot : has key c = false :=
          Bool.eq_false_iff.2 fun hkey => hfirst c hc key (has_iff.1 he) (has_iff.1 hkey)
        rw [hnot]
        rfl
      rw [List.map_congr_left hothers, List.map_id, if_pos rfl]
      exact if_pos he

/-- Where the key is not there, a directive is put at the end. -/
lemma place_of_not_any {key : OverrideKey} {ds : List Directive} (h : ds.any (has key) = false)
    (d : Directive) : place key d ds = ds ++ [d] := by
  induction ds with
  | nil => rfl
  | cons e ds ih =>
    rw [List.any_cons, Bool.or_eq_false_iff, has] at h
    rw [place, h.1, if_neg Bool.false_ne_true, ih h.2, List.cons_append]

/-- What a list comes to has each key once. -/
lemma distinct_settle (ds : List Directive) : Distinct (settle ds) := by
  refine List.pairwise_map.2 ((distinct_firsts [] ds).imp ?_)
  intro d e h
  rw [overrideKey_latest, overrideKey_latest]
  exact h

/-- What a list comes to has the keys of the list. -/
lemma any_settle (key : OverrideKey) (ds : List Directive) :
    (settle ds).any (has key) = ds.any (has key) := by
  rw [settle, List.any_map, ← any_firsts]
  congr 1
  funext d
  exact has_latest key ds d

/-- A directive that is added to a list is added to what the list comes to. -/
lemma settle_concat (ds : List Directive) (d : Directive) :
    settle (ds ++ [d]) = add (settle ds) d := by
  rw [settle, firsts_append, List.nil_append, List.map_append, firsts, firsts]
  cases hkey : d.overrideKey with
  | none =>
    have hsame : (firsts [] ds).map (latest (ds ++ [d])) = settle ds := by
      apply List.map_congr_left
      intro e _
      rw [latest_concat, hkey]
      rfl
    rw [repeats_of_no_key hkey, add_of_no_key hkey, hsame, if_neg Bool.false_ne_true,
      List.map_singleton, latest_of_no_key hkey]
  | some key =>
    have hlatest (e : Directive) :
        latest (ds ++ [d]) e = if has key (latest ds e) then d else latest ds e := by
      rw [latest_concat, hkey, has_latest]
      rfl
    rw [repeats_of_key hkey, add_of_key hkey]
    -- the directive replaces the first one with its key, or comes last
    cases hany : ds.any (has key) with
    | true =>
      rw [place_of_any (distinct_settle ds) ((any_settle key ds).trans hany), settle, List.map_map,
        if_pos rfl, List.map_nil, List.append_nil]
      exact List.map_congr_left fun e _ => hlatest e
    | false =>
      have hsame : (firsts [] ds).map (latest (ds ++ [d])) = settle ds := by
        apply List.map_congr_left
        intro e he
        have hnot : has key e = false := by
          rw [← any_firsts, List.any_eq_false] at hany
          exact Bool.eq_false_iff.2 (hany e he)
        rw [hlatest, has_latest, hnot]
        rfl
      have hself : latest (ds ++ [d]) d = d := by
        rw [hlatest, has_latest, has_iff.2 hkey]
        rfl
      rw [place_of_not_any ((any_settle key ds).trans hany), hsame, if_neg Bool.false_ne_true,
        List.map_singleton, hself]

/-- Laid over nothing, a configuration comes to what its directives come to. -/
lemma merge_nil (ds : List Directive) : merge [] ds = settle ds := by
  induction ds using List.reverseRecOn with
  | nil => rfl
  | append_singleton ds d ih => rw [settle_concat, ← ih, merge, List.foldl_concat]; rfl

/-- To lay configurations over one another is to lay all their directives over nothing. -/
lemma mergeAll_eq (layers : List (List Directive)) : mergeAll layers = merge [] layers.flatten := by
  rw [merge, List.foldl_flatten]
  rfl

/-- What a list comes to has for each key the last directive with that key. -/
lemma filter_settle (key : OverrideKey) (ds : List Directive) :
    (settle ds).filter (has key) = (last? key ds).toList := by
  cases hlast : last? key ds with
  | none =>
    rw [last?, List.find?_eq_none] at hlast
    have hany : (settle ds).any (has key) = false := by
      rw [any_settle, List.any_eq_false]
      exact fun d hd => hlast d (List.mem_reverse.2 hd)
    rw [List.any_eq_false] at hany
    exact List.filter_eq_nil_iff.2 hany
  | some d =>
    have hany : (firsts [] ds).any (has key) = true := by
      rw [any_firsts, List.any_eq_true]
      exact ⟨d, mem_of_last? hlast, has_of_last? hlast⟩
    obtain ⟨e, he, hkey⟩ := List.any_eq_true.1 hany
    have hd : d ∈ settle ds := by
      refine List.mem_map.2 ⟨e, he, ?_⟩
      rw [latest_of_key (has_iff.1 hkey), hlast]
      rfl
    -- since keys come once, nothing around the last directive for the key has it
    obtain ⟨before, after, hsettle⟩ := List.append_of_mem hd
    have hdistinct := distinct_settle ds
    rw [hsettle] at hdistinct ⊢
    obtain ⟨-, hafter, hbefore⟩ := List.pairwise_append.1 hdistinct
    have hdkey := has_iff.1 (has_of_last? hlast)
    have hnone : before.filter (has key) = [] := by
      rw [List.filter_eq_nil_iff]
      intro c hc hckey
      exact hbefore c hc d (.head _) key (has_iff.1 hckey) hdkey
    have hnone' : after.filter (has key) = [] := by
      rw [List.filter_eq_nil_iff]
      intro c hc hckey
      exact (List.pairwise_cons.1 hafter).1 c hc key hdkey (has_iff.1 hckey)
    rw [List.filter_append, hnone, List.filter_cons_of_pos (has_of_last? hlast), hnone']
    rfl

/-- The last directive with a key in several lists is the last one in the last list that has the key. -/
lemma last?_flatten (key : OverrideKey) (layers : List (List Directive)) :
    last? key layers.flatten = layers.reverse.findSome? (last? key) := by
  induction layers using List.reverseRecOn with
  | nil => rfl
  | append_singleton layers l ih =>
    have hlast : last? key (layers ++ [l]).flatten = (last? key l).or (last? key layers.flatten) := by
      rw [last?, List.flatten_append, List.flatten_singleton, List.reverse_append, List.find?_append]
      rfl
    rw [hlast, ih, List.reverse_append, List.reverse_singleton, List.singleton_append,
      List.findSome?_cons]
    cases last? key l <;> rfl

end HtGate.Overlay

namespace HtGate.Walker

/-- The directives of the configurations in directories, as far as there are any, in the order of the
directories. -/
def layers (w : Walker) (files : Files) : List Text → Except Fault (List (List Directive))
  | [] => .ok []
  | directory :: more =>
    let o := w.load files (Path.join directory w.filename)
    match o.result with
    | .error fault => .error fault
    | .ok none => layers o.walker files more
    | .ok (some p) => (layers o.walker files more).map (p.directives :: ·)

/-- What is gathered from directories is their configurations laid over what there is. -/
lemma gather_result (w : Walker) (files : Files) (merged : List Directive) (directories : List Text) :
    (w.gather files merged directories).result =
      (w.layers files directories).map (·.foldl Overlay.merge merged) := by
  induction directories generalizing w merged with
  | nil => rfl
  | cons directory more ih =>
    rw [gather, layers]
    cases (w.load files (Path.join directory w.filename)).result with
    | error fault => rfl
    | ok found =>
      cases found with
      | none => exact ih _ _
      | some p =>
        dsimp only
        rw [ih]
        cases layers _ files more <;> rfl

end HtGate.Walker

namespace HtGate

open Overlay

/-- Configurations that are laid over one another come to the list of their directives without those that
repeat the key of an earlier one, and with the last directive for each key. So does what a walk finds, from
the configurations of the directories on the way: no two of its directives share a key, and for a key there
is the last directive of the deepest configuration that has the key. -/
theorem walk_settles (w : Walker) (files : Files) (root target : Text) :
    (∀ layers : List (List Directive), mergeAll layers = settle layers.flatten) ∧
    ∀ M, (w.walk files root target).result = .ok M →
      ∃ layers, w.layers files (Path.chain files.workingDirectory root target) = .ok layers ∧
        M = settle layers.flatten ∧ Distinct M ∧
        ∀ key, M.filter (has key) = (layers.reverse.findSome? (last? key)).toList := by
  -- merging all layers is merging onto nothing, once, all that they hold
  have hmerge (layers : List (List Directive)) : mergeAll layers = settle layers.flatten := by
    rw [mergeAll_eq, merge_nil]
  refine ⟨hmerge, fun M hM => ?_⟩
  rw [Walker.walk, Walker.gather_result] at hM
  cases hlayers : w.layers files (Path.chain files.workingDirectory root target) with
  | error fault =>
    rw [hlayers] at hM
    cases hM
  | ok layers =>
    rw [hlayers] at hM
    cases hM
    refine ⟨layers, rfl, hmerge layers, ?_, fun key => ?_⟩
    · have hdistinct := distinct_settle layers.flatten
      rw [← hmerge] at hdistinct
      exact hdistinct
    · rw [← last?_flatten, ← filter_settle]
      exact congrArg (List.filter (has key)) (hmerge layers)

/-- A directory with a configuration, and a directory inside it with another. -/
def nestedSite : Files :=
  { entries := [(["site".toList], ⟨.directory, 0⟩),
      (["site".toList, ".htaccess".toList],
        ⟨.file (Utf8.encode "SetEnv A 1\nOptions x\nSetEnv A 2\nSetEnv B 3".toList), 0⟩),
      (["site".toList, "sub".toList], ⟨.directory, 0⟩),
      (["site".toList, "sub".toList, ".htaccess".toList],
        ⟨.file (Utf8.encode "SetEnv A 4\nSetEnv A 5".toList), 0⟩)] }

/-- The variable that both directories set, each of them twice, stands in the place where it is set first and
has the value that it is given last. -/
theorem walk_nestedSite_settles :
    ∃ M, (Walker.walk {} nestedSite "site".toList "site/sub".toList).result = .ok M ∧ Distinct M ∧
      M.map (fun d => (d.name, d.value)) =
        [(some ['A'], some ['5']), (none, some ['x']), (some ['B'], some ['3'])] ∧
      (M.filter (has (.named .setEnv ['A']))).map Directive.line = [2] := by
  have hM : (Walker.walk {} nestedSite "site".toList "site/sub".toList).result =
      .ok [.rule 2 { kind := .setEnv, name := some ['A'], value := some ['5'] },
        .rule 2 { kind := .options, value := some ['x'], detail := .options {} },
        .rule 4 { kind := .setEnv, name := some ['B'], value := some ['3'] }] := rfl
  obtain ⟨layers, hlayers, -, hdistinct, hkeys⟩ :=
    (walk_settles {} nestedSite "site".toList "site/sub".toList).2 _ hM
  cases hlayers
  refine ⟨_, hM, hdistinct, rfl, ?_⟩
  rw [hkeys]
  rfl

end HtGate
