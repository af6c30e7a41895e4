import HtGate.Directive.Overlay
import HtGate.Proofs.Directive.RoundTrip
/-!
# Writing and reading merged configurations

Configurations laid over one another hold directives of these configurations only, so that they are
well-formed, too. Their written form is read as an equivalent configuration if no statement is ambiguous,
with any indentation.
-/

namespace HtGate

open Directive (Everywhere everywhere_nil everywhere_cons everywhere_append everywhere_of_forall
  statements equivalent)

namespace Overlay

variable {p : Statement → Prop}

/-- What holds everywhere in a sequence and in a directive, holds with the directive in its place. -/
lemma everywhere_place (key : OverrideKey) {d : Directive} (hd : Everywhere p [d])
    {ds : List Directive} (h : Everywhere p ds) : Everywhere p (place key d ds) := by
  induction ds with
  | nil => exact hd
  | cons e ds ih =>
    obtain ⟨he, hds⟩ := everywhere_cons.1 h
    rw [place]
    split
    · exact everywhere_cons.2 ⟨hd, hds⟩
    · exact everywhere_cons.2 ⟨he, ih hds⟩

/-- What holds everywhere in a sequence and in a directive, holds after that is laid over it. -/
lemma everywhere_add {ds : List Directive} (h : Everywhere p ds) {d : Directive}
    (hd : Everywhere p [d]) : Everywhere p (add ds d) := by
  rw [add]
  split
  · exact everywhere_place _ hd h
  · exact everywhere_append.2 ⟨h, hd⟩

/-- What holds everywhere in two sequences, holds after the one is laid over the other. -/
lemma everywhere_merge {below above : List Directive} (hbelow : Everywhere p below)
    (habove : Everywhere p above) : Everywhere p (merge below above) := by
  induction above generalizing below with
  | nil => exact hbelow
  | cons d above ih =>
    obtain ⟨hd, hmore⟩ := everywhere_cons.1 habove
    exact ih (everywhere_add hbelow hd) hmore

/-- What holds everywhere in all layers, holds after they are laid over one another. -/
lemma everywhere_mergeAll {layers : List (List Directive)} (h : ∀ l ∈ layers, Everywhere p l) :
    Everywhere p (mergeAll layers) := by
  induction layers using List.reverseRecOn with
  | nil => exact everywhere_nil
  | append_singleton layers l ih =>
    rw [mergeAll, List.foldl_concat]
    exact everywhere_merge (ih fun m hm => h m (by simp [hm])) (h l (by simp))

end Overlay

namespace Rule

/-- The texts of a rule that are written as words. -/
def words (r : Rule) : List Text :=
  match r.kind, r.detail with
  | .redirect, _ => r.name.toList
  | .redirectMatch, .redirect _ pattern => pattern.toList
  | .setEnvIf, .envIf subject pattern => [subject, pattern]
  | .browserMatch, .envIf _ pattern => [pattern]
  | kind, _ => if (Printer.leading? kind).isSome then r.name.toList else []

/-- What keeps the line of a rule from being read as another rule. -/
structure Unambiguous (r : Rule) : Prop where
  /-- A value of one word holds no blank, and no quote together with whitespace. -/
  value : r.kind ∈ Kind.valueWordKinds →
    ∀ v ∈ r.value, (∀ c ∈ v, Text.isBlank c = false) ∧ v.IsPlain
  /-- No word holds a quote together with whitespace. -/
  words : ∀ t ∈ r.words, t.IsPlain
  /-- A target without a status in front of it is no numeral. -/
  target : ∀ pattern, r.detail = .redirect 302 pattern → ∀ t ∈ r.words, Text.isDigits t = false
  /-- A content type holds no blank. -/
  contentType : r.kind = .expiresByType → ∀ t ∈ r.name, ∀ c ∈ t, Text.isBlank c = false
  /-- An assignment has no whitespace around it and does not stand between quotes. -/
  assignment : r.kind = .setEnvIf ∨ r.kind = .browserMatch →
    let t := assigned (r.name.getD []) (r.value.getD [])
    Text.trim t = t ∧ ¬(t.head? = some '"' ∧ t.getLast? = some '"')

namespace Unambiguous

/-- An unambiguous value of one word stays one. -/
lemma staysWord {t : Text} (hblank : ∀ c ∈ t, Text.isBlank c = false) (hplain : t.IsPlain) :
    t.StaysWord := by
  rw [Text.StaysWord]
  split
  · exact hblank
  · rename_i htrim
    intro hq
    refine htrim (Text.trim_eq_self_iff.2 ?_)
    rcases eq_or_ne t [] with rfl | hne
    · exact .inl rfl
    · exact .inr ⟨Text.startsSolid_of_all hne (hplain hq), Text.endsSolid_of_all hne (hplain hq)⟩

/-- An unambiguous target stays one. -/
lemma staysTarget {t : Text} {status : Int} (hplain : t.IsPlain)
    (hdigits : status = 302 → Text.isDigits t = false) : t.StaysTarget status := by
  refine ⟨hplain, fun h => ?_⟩
  rw [RuleReader.status?, RuleReader.digits?, hdigits h]
  rfl

/-- A well-formed unambiguous rule is stable. -/
lemma stable {r : Rule} (h : r.Unambiguous) (hw : r.WellFormed) : r.Stable := by
  have assigns {t : Text}
      (ht : Text.trim t = t ∧ ¬(t.head? = some '"' ∧ t.getLast? = some '"')) : t.StaysValue :=
    ⟨ht.1, fun hq => ht.2 hq.2⟩
  cases hw with
  | valueWord hk hv =>
    have hword := fun v hv => staysWord (h.value hk v hv).1 (h.value hk v hv).2
    simp only [Kind.valueWordKinds, List.mem_cons, List.not_mem_nil, or_false] at hk
    rcases hk with rfl | rfl | rfl <;> exact hword
  | redirect | redirectMatch =>
    intro t ht
    have hmem := Option.mem_toList.2 ht
    exact staysTarget (h.words t hmem) fun hs => h.target _ (by rw [hs]) t hmem
  | expiresByType => exact h.contentType rfl
  | setEnvIf =>
    exact ⟨h.words _ (by simp [Rule.words]), h.words _ (by simp [Rule.words]),
      assigns (h.assignment (.inl rfl))⟩
  | browserMatch =>
    exact ⟨h.words _ (by simp [Rule.words]), assigns (h.assignment (.inr rfl))⟩
  | nameValue hk =>
    simp only [Kind.nameValueKinds, List.mem_cons, List.not_mem_nil, or_false] at hk
    rcases hk with rfl | rfl | rfl <;> exact fun t ht => h.words t (Option.mem_toList.2 ht)
  | nameList hk =>
    simp only [Kind.nameListKinds, List.mem_cons, List.not_mem_nil, or_false] at hk
    rcases hk with rfl | rfl | rfl | rfl <;> exact fun t ht => h.words t (Option.mem_toList.2 ht)
  | header | headerUnset | requestHeaderSet | requestHeaderUnset | nameFlag =>
    exact fun t ht => h.words t (Option.mem_toList.2 ht)
  | valueRest hk =>
    -- the other kinds are stable whatever they hold
    simp only [Kind.valueRestKinds, List.mem_cons, List.not_mem_nil, or_false] at hk
    rcases hk with rfl | rfl | rfl | rfl | rfl | rfl | rfl | rfl | rfl <;> rintro t ⟨⟩
  | bare hk =>
    simp only [Kind.bareKinds, List.mem_cons, List.not_mem_nil, or_false] at hk
    rcases hk with rfl | rfl | rfl <;> rintro t ⟨⟩
  | guardSwitch hs => rcases hs with rfl | rfl <;> rintro t ⟨⟩
  | order | errorDocument | expiresActive | expiresDefault | allowedAttempts | window
  | throttleDuration | guardAction | options => rintro t ⟨⟩

end Unambiguous

end Rule

namespace BlockHead

/-- What keeps the opening tag of a block from being read as another: the name of a module that is not
negated does not look like a negation. -/
def Unambiguous (head : BlockHead) : Prop :=
  head.kind = .ifModule → head.negated = false → ∀ t ∈ head.name, t.head? ≠ some '!'

/-- An unambiguous head is stable. -/
lemma Unambiguous.stable {head : BlockHead} (h : head.Unambiguous) : head.Stable :=
  fun hk hn t ht hq => absurd hq (h hk hn t ht)

end BlockHead

namespace Statement

/-- What keeps the line of a statement from being read as another statement. -/
def Unambiguous : Statement → Prop
  | rule r => r.Unambiguous
  | opening head => head.Unambiguous

/-- A well-formed unambiguous statement is stable. -/
lemma Unambiguous.stable {x : Statement} (h : x.Unambiguous) (hw : x.WellFormed) : x.Stable := by
  cases x with
  | rule r => exact Rule.Unambiguous.stable h hw
  | opening head => exact BlockHead.Unambiguous.stable h

end Statement

/-- Every statement of configurations that were read is well-formed. -/
lemma wellFormed_layers {contents : List Text} {layers : List Parsed}
    (h : List.Forall₂ (fun content p => parse content = .ok p) contents layers) :
    ∀ p ∈ layers, Everywhere Statement.WellFormed p.directives := by
  induction h with
  | nil => exact List.forall_mem_nil _
  | cons hp _ ih => exact List.forall_mem_cons.2 ⟨wellFormed_parse hp, ih⟩

/-- Configurations that were read and are laid over one another have a written form, if no statement is
ambiguous, and that is read as an equivalent configuration. Only unknown features are reported. -/
theorem parse_print_mergeAll {indent : Text} (hindent : Printer.IsIndent indent)
    {contents : List Text} {layers : List Parsed}
    (hread : List.Forall₂ (fun content p => parse content = .ok p) contents layers)
    (h : Everywhere Statement.Unambiguous (Overlay.mergeAll (layers.map (·.directives)))) :
    ∃ text p, Printer.print indent (Overlay.mergeAll (layers.map (·.directives))) = .ok text ∧
      parse text = .ok p ∧
      equivalent p.directives (Overlay.mergeAll (layers.map (·.directives))) = true ∧
      p.diagnostics.map (·.problem) =
        (statements (Overlay.mergeAll (layers.map (·.directives)))).flatMap
          fun e => e.2.problems := by
  have hw : Everywhere Statement.WellFormed (Overlay.mergeAll (layers.map (·.directives))) := by
    refine Overlay.everywhere_mergeAll fun l hl => ?_
    obtain ⟨p, hp, rfl⟩ := List.mem_map.1 hl
    exact wellFormed_layers hread p hp
  exact parse_print_of_stable hindent hw fun e he => (h e he).stable (hw e he)

/-- Two configurations, one with a value between quotes and one with a block. -/
def envAndModule : List Text :=
  ["SetEnv A \"b c\"".toList, "<IfModule m>\nOptions x\n</IfModule>".toList]

/-- What these configurations are read as. -/
def envAndModuleParsed : List Parsed :=
  [⟨[.rule 1 { kind := .setEnv, name := some ['A'], value := some "b c".toList }], []⟩,
    ⟨[.block 1 { kind := .ifModule, name := some ['m'] }
        [.rule 2 { kind := .options, value := some ['x'], detail := .options {} }]],
      [.diagnosed ⟨2, .unknownOption ['x']⟩]⟩]

/-- These configurations, laid over one another, survive writing with a tab for each depth and reading,
with a report of the feature that is not known. -/
theorem parse_print_envAndModule :
    ∃ text p,
      Printer.print ['\t'] (Overlay.mergeAll (envAndModuleParsed.map (·.directives))) = .ok text ∧
      parse text = .ok p ∧
      equivalent p.directives (Overlay.mergeAll (envAndModuleParsed.map (·.directives))) = true ∧
      p.diagnostics.map (·.problem) = [.unknownOption ['x']] := by
  have hindent : Printer.IsIndent ['\t'] := by simp [Printer.IsIndent, Text.isBlank]
  have hread : List.Forall₂ (fun content p => parse content = .ok p) envAndModule
      envAndModuleParsed := .cons rfl (.cons rfl .nil)
  refine parse_print_mergeAll hindent hread ?_
  have henv : Rule.Unambiguous { kind := .setEnv, name := some ['A'], value := some "b c".toList } :=
    { value := fun hk => absurd hk (by decide)
      words := by decide
      target := by rintro pattern ⟨⟩
      contentType := fun hk => absurd hk (by decide)
      assignment := fun hk => absurd hk (by decide) }
  have hmodule : BlockHead.Unambiguous { kind := .ifModule, name := some ['m'] } := by
    rintro - - t ⟨⟩
    decide
  have hoptions : Rule.Unambiguous
      { kind := .options, value := some ['x'], detail := .options {} } :=
    { value := fun hk => absurd hk (by decide)
      words := by decide
      target := by rintro pattern ⟨⟩
      contentType := fun hk => absurd hk (by decide)
      assignment := fun hk => absurd hk (by decide) }
  exact Directive.everywhere_rule.2 ⟨henv, Directive.everywhere_block.2
    ⟨hmodule, Directive.everywhere_rule.2 ⟨hoptions, everywhere_nil⟩, everywhere_nil⟩⟩

end HtGate
