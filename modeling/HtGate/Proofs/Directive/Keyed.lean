import HtGate.Directive.Overlay
import Mathlib.Tactic.Lemma
/-!
# What a rule is about

A rule comes by its override key in one of six ways, each for rules of certain kinds. So the key of a rule
says of which kind it is and which name or host list it has, and rules with the same key agree on that. No
rule is about files, and nothing but rules is about anything else.
-/

namespace HtGate.OverrideKey

/-- How a rule comes by its override key. -/
inductive Keyed (r : Rule) : OverrideKey → Prop
  | named {name : Text} : isNamed r.kind = true → r.name = some name → Keyed r (.named r.kind name)
  | only : isSingle r.kind = true → Keyed r (.only r.kind)
  | status {code : Int} : r.kind = .errorDocument → r.detail = .errorDocument code →
    Keyed r (.status code)
  | hosts : r.kind = .allowFrom ∨ r.kind = .denyFrom → Keyed r (.hosts r.kind r.value)
  | paths {status : Int} {pattern : Option Text} : r.kind = .redirectMatch →
    r.detail = .redirect status pattern → Keyed r (.paths pattern)
  | conditional {subject pattern : Text} : r.kind = .setEnvIf ∨ r.kind = .browserMatch →
    r.detail = .envIf subject pattern → Keyed r (OverrideKey.variable r.kind r.name pattern)

variable {r r' : Rule} {key : OverrideKey}

/-- A rule has a key exactly if it comes by it in one of these ways. -/
lemma ofRule_eq_some_iff : ofRule r = some key ↔ Keyed r key := by
  constructor
  · intro h
    -- first the rules with a name in their key, then those that stand alone, then the rest by kind
    rw [ofRule] at h
    split at h
    · rename_i hnamed
      obtain ⟨name, hname, rfl⟩ := Option.map_eq_some_iff.1 h
      exact .named hnamed hname
    · split at h
      · rename_i hsingle
        cases h
        exact .only hsingle
      · split at h
        · rename_i hk hdetail
          cases h
          exact .status hk hdetail
        · rename_i hk
          cases h
          exact hk ▸ .hosts (.inl hk)
        · rename_i hk
          cases h
          exact hk ▸ .hosts (.inr hk)
        · rename_i hk hdetail
          cases h
          exact .paths hk hdetail
        · rename_i hk hdetail
          cases h
          exact hk ▸ .conditional (.inl hk) hdetail
        · rename_i hk hdetail
          cases h
          exact hk ▸ .conditional (.inr hk) hdetail
        · cases h
  · intro h
    cases h with
    | named hnamed hname => simp [ofRule, hnamed, hname]
    | only hsingle =>
      rw [ofRule, if_pos hsingle]
      cases hk : r.kind <;> simp_all [isNamed, isSingle]
    | status hk hdetail | paths hk hdetail => simp [ofRule, hk, hdetail, isNamed, isSingle]
    | hosts hk => rcases hk with hk | hk <;> simp [ofRule, hk, isNamed, isSingle]
    | conditional hk hdetail =>
      rcases hk with hk | hk <;> simp [ofRule, hk, hdetail, isNamed, isSingle]

/-- A rule of a kind that a directory has once is about that kind. -/
lemma ofRule_of_single (h : isSingle r.kind = true) : ofRule r = some (.only r.kind) :=
  ofRule_eq_some_iff.2 (.only h)

/-- What is about a kind is of the kind. -/
lemma kind_of_only {kind : Kind} (h : ofRule r = some (.only kind)) : r.kind = kind := by
  cases ofRule_eq_some_iff.1 h
  rfl

/-- What is about a thing with a name is of the kind and has the name. -/
lemma eq_of_named {kind : Kind} {name : Text} (h : ofRule r = some (.named kind name)) :
    r.kind = kind ∧ r.name = some name := by
  cases ofRule_eq_some_iff.1 h with
  | named _ hname => exact ⟨rfl, hname⟩

/-- What is about hosts is of the kind and has the host list as its value. -/
lemma eq_of_hosts {kind : Kind} {value : Option Text} (h : ofRule r = some (.hosts kind value)) :
    r.kind = kind ∧ r.value = value := by
  cases ofRule_eq_some_iff.1 h
  exact ⟨rfl, rfl⟩

/-- No rule is about the files that match a pattern. -/
lemma ofRule_ne_files (r : Rule) (pattern : Option Text) : ofRule r ≠ some (.files pattern) := by
  intro h
  cases ofRule_eq_some_iff.1 h

/-- What is not about files is a rule. -/
lemma exists_rule_of_ne_files {d : Directive} (h : d.overrideKey = some key)
    (hne : ∀ pattern, key ≠ .files pattern) : ∃ line r, d = .rule line r ∧ ofRule r = some key := by
  cases d with
  | rule line r => exact ⟨line, r, rfl, h⟩
  | block line head children =>
    rw [Directive.overrideKey, Option.ite_none_right_eq_some] at h
    exact absurd (Option.some.inj h.2).symm (hne head.pattern)

/-- Rules with the same key are of the same kind and have the same name, if the kind is told apart by
names. -/
lemma named_congr (h : ofRule r = some key) (h' : ofRule r' = some key) (hk : isNamed r.kind = true) :
    r'.kind = r.kind ∧ r'.name = r.name := by
  rw [ofRule, if_pos hk] at h
  obtain ⟨name, hname, rfl⟩ := Option.map_eq_some_iff.1 h
  rw [hname]
  exact eq_of_named h'

/-- Host lists with the same key are of the same kind and the same. -/
lemma hosts_congr (h : ofRule r = some key) (h' : ofRule r' = some key)
    (hk : r.kind = .allowFrom ∨ r.kind = .denyFrom) : r'.kind = r.kind ∧ r'.value = r.value := by
  have hkey : ofRule r = some (.hosts r.kind r.value) := ofRule_eq_some_iff.2 (.hosts hk)
  rw [hkey] at h
  exact eq_of_hosts (h'.trans h.symm)

end HtGate.OverrideKey
