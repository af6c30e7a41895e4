import HtGate.Access.Selection
import HtGate.Proofs.Directive.Bearing
/-!
# Sequences that are alike

Two sequences are alike if the one is the other up to line numbers, with rules replaced by rules that are
the same to evaluations, and without rules that are passed over. A faithful sequence is read back as one
that is like it. What applies to a request of two sequences that are alike, is alike.
-/

namespace HtGate

namespace Directive

open Rule (SameBearing)

/-- Whether the second sequence is like the first to evaluations. -/
inductive Alike : List Directive → List Directive → Prop where
  | nil : Alike [] []
  | rule {line line' r r' ds es} :
    SameBearing (some r) (some r') → Alike ds es →
    Alike (.rule line r :: ds) (.rule line' r' :: es)
  | lost {line r ds es} :
    SameBearing (some r) none → Alike ds es → Alike (.rule line r :: ds) es
  | block {line line' head children children' ds es} :
    Alike children children' → Alike ds es →
    Alike (.block line head children :: ds) (.block line' head children' :: es)

/-- A faithful sequence is read back as one that is like it. -/
theorem ReadBack.alike {ds es : List Directive} {ps : List Problem} (h : ReadBack ds es ps)
    (hf : Everywhere Statement.Faithful ds) : Alike ds es := by
  induction h with
  | nil => exact .nil
  | rule hprint hread _ ih =>
    obtain ⟨hr, hds⟩ := everywhere_rule.1 hf
    exact .rule (hr _ _ hprint hread) (ih hds)
  | lost hprint hread _ ih =>
    obtain ⟨hr, hds⟩ := everywhere_rule.1 hf
    exact .lost (hr _ _ hprint hread) (ih hds)
  | block _ _ ihc ih =>
    obtain ⟨-, hchildren, hds⟩ := everywhere_block.1 hf
    exact .block (ihc hchildren) (ih hds)

namespace Alike

variable {ds es : List Directive}

/-- Sequences put together are alike if their parts are. -/
lemma append {as bs : List Directive} (h : Alike ds es) (h' : Alike as bs) :
    Alike (ds ++ as) (es ++ bs) := by
  induction h with
  | nil => exact h'
  | rule hr _ ih => exact .rule hr ih
  | lost hr _ ih => exact .lost hr ih
  | block hc _ _ ih => exact .block hc ih

/-- What takes up directives one after another, and of these only the rules that are looked at as a
whole, comes to the same for sequences that are alike. -/
theorem foldlM_eq {β ε : Type} {f : β → Directive → Except ε β}
    (hline : ∀ b line r, f b (.rule line r) = f b (.rule 0 r))
    (hother : ∀ b r, r.kind.weighs = false → f b (.rule 0 r) = .ok b)
    (hblock : ∀ b line head children, f b (.block line head children) = .ok b)
    (h : Alike ds es) (b : β) : ds.foldlM f b = es.foldlM f b := by
  -- of a rule nothing counts but what is weighed of it
  have hrule (b : β) (line : Int) (r : Rule) :
      f b (.rule line r) = r.weighed?.elim (.ok b) fun r => f b (.rule 0 r) := by
    rw [Rule.elim_weighed? (hother b r), hline]
  induction h generalizing b with
  | nil => rfl
  | @rule line line' r r' ds es hr _ ih =>
    have hweighed : r.weighed? = r'.weighed? := hr.weighed
    have hfirst : f b (.rule line r) = f b (.rule line' r') := by
      rw [hrule b line, hrule b line', hweighed]
    rw [List.foldlM_cons, List.foldlM_cons, hfirst]
    exact congrArg (f b (.rule line' r') >>= ·) (funext ih)
  | @lost line r ds es hr _ ih =>
    have hweighed : r.weighed? = none := hr.weighed
    rw [List.foldlM_cons, hrule, hweighed, ← ih]
    rfl
  | block _ _ _ ih =>
    rw [List.foldlM_cons, List.foldlM_cons, hblock, hblock]
    exact ih b

end Alike

end Directive

namespace Selection

variable {modules : Modules} {s : Session}

/-- A selection is made directive by directive. -/
lemma select_cons_iff {d : Directive} {ds a : List Directive} :
    select modules s (d :: ds) = .ok a ↔
      ∃ first more, ofDirective modules s d = .ok first ∧ select modules s ds = .ok more ∧
        a = first ++ more := by
  rw [select]
  cases ofDirective modules s d with
  | error fault => simp
  | ok first => cases select modules s ds <;> simp [eq_comm]

/-- What applies to a request of two sequences that are alike, is alike. -/
theorem select_alike {ds es a b : List Directive} (h : Directive.Alike ds es)
    (ha : select modules s ds = .ok a) (hb : select modules s es = .ok b) :
    Directive.Alike a b := by
  induction h generalizing a b with
  | nil =>
    cases ha
    cases hb
    exact .nil
  | rule hr _ ih =>
    obtain ⟨first, more, hfirst, hmore, rfl⟩ := select_cons_iff.1 ha
    obtain ⟨first', more', hfirst', hmore', rfl⟩ := select_cons_iff.1 hb
    cases hfirst
    cases hfirst'
    exact .rule hr (ih hmore hmore')
  | lost hr _ ih =>
    obtain ⟨first, more, hfirst, hmore, rfl⟩ := select_cons_iff.1 ha
    cases hfirst
    exact .lost hr (ih hmore hb)
  | @block line line' head children children' ds es hc _ ihc ih =>
    obtain ⟨first, more, hfirst, hmore, rfl⟩ := select_cons_iff.1 ha
    obtain ⟨first', more', hfirst', hmore', rfl⟩ := select_cons_iff.1 hb
    refine Directive.Alike.append ?_ (ih hmore hmore')
    rw [ofDirective] at hfirst hfirst'
    -- the head alone decides whether the block stays, is opened or is left out
    cases hrequire : head.kind.isRequire with
    | true =>
      rw [if_pos hrequire] at hfirst hfirst'
      cases hfirst
      cases hfirst'
      exact .block hc .nil
    | false =>
      rw [if_neg (by simp [hrequire])] at hfirst hfirst'
      cases happlies : Condition.applies modules s head with
      | error fault =>
        rw [happlies] at hfirst
        cases hfirst
      | ok holds =>
        rw [happlies] at hfirst hfirst'
        cases holds with
        | true => exact ihc hfirst hfirst'
        | false =>
          cases hfirst
          cases hfirst'
          exact .nil

end Selection

end HtGate
