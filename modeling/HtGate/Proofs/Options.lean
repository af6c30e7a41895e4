import HtGate.Cli.Options
import Mathlib.Tactic.Lemma
/-!
# One source

A command line that is read names one thing to evaluate. The invariant is about a reading in progress: an
option that names what is evaluated is set only if it was noted, and all that were noted are the same.
-/

namespace HtGate.Cli

/-- What an option that names what is evaluated is set to. -/
def Options.source? (o : Options) : Setting → Option Text
  | .config => o.config
  | .configDir => o.configDir
  | .docRoot => o.docRoot
  | _ => none

namespace Progress

/-- Whether a reading so far names one thing to evaluate. -/
structure OneSource (r : Progress) : Prop where
  noted : ∀ setting, r.options.source? setting ≠ none → setting ∈ r.sources
  same : ∀ a ∈ r.sources, ∀ b ∈ r.sources, a = b

variable {r r' : Progress} {o o' : Options}

/-- Setting an option sets no other one, and none at all that names what is evaluated if it does not. -/
lemma source?_of_store {setting : Setting} {value : Text} (h : store o setting value = .ok o')
    (other : Setting) :
    o'.source? other = o.source? other ∨ other = setting ∧ setting.isSource = true := by
  cases setting with
  | config | configDir | docRoot =>
    cases h
    cases other <;> simp [Options.source?, Setting.isSource]
  | format =>
    rw [store] at h
    split at h
    · cases h
      cases other <;> simp [Options.source?]
    · cases h
  | _ =>
    cases h
    cases other <;> simp [Options.source?]

/-- An option with a value keeps the reading to one source. -/
lemma OneSource.set (hr : r.OneSource) {setting : Setting} {spelling value : Text}
    (h : r.set setting spelling value = .ok r') : r'.OneSource := by
  rw [Progress.set] at h
  split at h
  · cases h
  · rename_i options hstore
    have hother := source?_of_store hstore
    split at h
    · -- a setting that names no source leaves the sources alone
      rename_i hnot
      cases h
      refine ⟨fun other hsome => ?_, hr.same⟩
      rcases hother other with heq | ⟨-, hsource⟩
      · exact hr.noted other (heq ▸ hsome)
      · simp [hsource] at hnot
    · split at h
      · cases h
      · -- one that names a source is the same as all before it
        rename_i hconflict
        cases h
        have hall : ∀ a ∈ r.sources, a = setting := by simpa using hconflict
        refine ⟨fun other hsome => ?_, ?_⟩
        · rcases hother other with heq | ⟨rfl, -⟩
          · exact .tail _ (hr.noted other (heq ▸ hsome))
          · exact .head _
        · have hset : ∀ a ∈ setting :: r.sources, a = setting := by simpa using hall
          exact fun a ha b hb => (hset a ha).trans (hset b hb).symm

/-- Options without values keep the reading to one source. -/
lemma OneSource.switch (hr : r.OneSource) {flags : List Flag} (h : r.switch flags = .ok r') :
    r'.OneSource := by
  induction flags generalizing r with
  | nil =>
    cases h
    exact hr
  | cons flag more ih =>
    cases flag with
    | set setting => exact ih hr h
    | help => cases h
    | tree =>
      refine ih (r := { r with options := { r.options with tree := true } })
        ⟨fun setting hsome => ?_, hr.same⟩ h
      exact hr.noted setting (by cases setting <;> exact hsome)
    | verbose =>
      refine ih (r := { r with options := { r.options with verbose := true } })
        ⟨fun setting hsome => ?_, hr.same⟩ h
      exact hr.noted setting (by cases setting <;> exact hsome)

/-- A word that is no option keeps the reading to one source. -/
lemma OneSource.addExtra? (hr : r.OneSource) (word : Option Text) : (r.addExtra? word).OneSource := by
  cases word <;> exact ⟨hr.noted, hr.same⟩

/-- An option with a value is taken up after the options without one that are written with it. -/
lemma OneSource.switch_set (hr : r.OneSource) {flags : List Flag} {setting : Setting}
    {spelling value : Text}
    (h : ((r.switch flags).bind fun r => r.set setting spelling value) = .ok r') : r'.OneSource := by
  cases hswitch : r.switch flags with
  | error stop =>
    rw [hswitch] at h
    cases h
  | ok t =>
    rw [hswitch] at h
    exact (hr.switch hswitch).set h

/-- Taking up words keeps what names the one thing to evaluate. -/
lemma OneSource.run (hr : r.OneSource) {words : List Word} (h : r.run words = .ok r') :
    r'.OneSource := by
  revert hr h
  fun_induction Progress.run r words with
  | case1 r =>
    intro hr h
    cases h
    exact hr
  | case2 r word more ih => exact fun hr h => ih ⟨hr.noted, hr.same⟩ h
  | case3 r word more ih => exact fun hr h => ih ⟨hr.noted, hr.same⟩ h
  | case4 r more ih => exact fun hr h => ih ⟨hr.noted, hr.same⟩ h
  | case7 r flag spelling attached actions hactions more hsetting t hswitch ih =>
    exact fun hr h => ih ((hr.switch hswitch).addExtra? actions.extra) h
  | case9 r flag spelling attached actions hactions setting name value more hsetting t hset ih =>
    exact fun hr h => ih (hr.switch_set hset) h
  | case11 r flag spelling attached actions hactions setting name value more hsetting t hset ih =>
    exact fun hr h => ih (hr.switch_set hset) h
  | _ =>
    intro _ h
    cases h

end Progress

/-- A command line that names a configuration names no directory. -/
lemma Options.dirs_of_read {arguments : List Text} {o : Options} (h : Options.read arguments = .ok o)
    {path : Text} (hconfig : o.config = some path) : o.configDir = none ∧ o.docRoot = none := by
  rw [Options.read] at h
  split at h
  · cases h
  · rename_i r hrun
    cases hwords : Word.ofTexts arguments with
    | error stop =>
      rw [hwords] at hrun
      cases hrun
    | ok words =>
      rw [hwords] at hrun
      -- the run keeps the invariant that the options it has noted come from one source
      have hone : r.OneSource := by
        refine Progress.OneSource.run (r := {}) ⟨fun setting hsome => ?_, nofun⟩ hrun
        cases setting <;> exact absurd rfl hsome
      split at h
      · cases h
      · split at h <;> cases h
        have hnoted : .config ∈ r.sources :=
          hone.noted .config (by rw [Options.source?, hconfig]; exact Option.some_ne_none path)
        have hother (setting : Setting) (hne : setting ≠ .config) :
            r.options.source? setting = none :=
          Classical.byContradiction fun hsome =>
            hne (hone.same _ (hone.noted setting hsome) _ hnoted)
        exact ⟨hother .configDir (by decide), hother .docRoot (by decide)⟩

end HtGate.Cli
