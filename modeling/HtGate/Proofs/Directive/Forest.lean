import HtGate.Directive.Basic
import Mathlib.Tactic.Lemma
/-!
# Forests of directives

A sequence of directives as the statements it is made of, at all depths, in the order in which they are
written: the rules and the heads of the blocks. Inductions over sequences go rule by rule and block by
block, with a hypothesis for what is inside a block and one for what follows it.
-/

namespace HtGate

/-- What a line of a configuration states: a rule, or that a block begins. -/
inductive Statement where
  | rule (r : Rule)
  | opening (head : BlockHead)
  deriving DecidableEq, Repr

namespace Directive

/-- Induction over a sequence of directives and the sequences inside its blocks. -/
@[elab_as_elim]
theorem forest_induction {motive : List Directive → Prop} (nil : motive [])
    (rule : ∀ line r ds, motive ds → motive (.rule line r :: ds))
    (block : ∀ line head children ds, motive children → motive ds →
      motive (.block line head children :: ds)) (ds : List Directive) : motive ds :=
  Directive.rec_1 (motive_1 := fun d => ∀ ds, motive ds → motive (d :: ds)) (motive_2 := motive)
    (fun line r ds hds => rule line r ds hds)
    (fun line head children hchildren ds hds => block line head children ds hchildren hds)
    nil (fun _ ds hd hds => hd ds hds) ds

/-- Induction over a sequence and the sequences inside its blocks, with Require nodes apart from conditional
blocks. -/
@[elab_as_elim]
theorem node_induction {motive : List Directive → Prop} (nil : motive [])
    (rule : ∀ line r ds, motive ds → motive (.rule line r :: ds))
    (node : ∀ line head children ds, head.kind.isRequire = true → motive children → motive ds →
      motive (.block line head children :: ds))
    (condition : ∀ line head children ds, head.kind.isRequire = false → motive children → motive ds →
      motive (.block line head children :: ds)) (ds : List Directive) : motive ds := by
  induction ds using forest_induction with
  | nil => exact nil
  | rule line r ds ih => exact rule line r ds ih
  | block line head children ds ihc ih =>
    cases hr : head.kind.isRequire with
    | true => exact node line head children ds hr ihc ih
    | false => exact condition line head children ds hr ihc ih

mutual

/-- The statements of a directive with the numbers of their lines. -/
def statementsOf : Directive → List (Int × Statement)
  | rule line r => [(line, .rule r)]
  | block line head children => (line, .opening head) :: statements children

/-- The statements of a sequence with the numbers of their lines. -/
def statements : List Directive → List (Int × Statement)
  | [] => []
  | d :: ds => statementsOf d ++ statements ds

end

/-- The statements of two sequences put together are those of the one and then those of the other. -/
@[simp]
lemma statements_append (ds es : List Directive) :
    statements (ds ++ es) = statements ds ++ statements es := by
  induction ds with
  | nil => rfl
  | cons d ds ih => rw [List.cons_append, statements, statements, ih, List.append_assoc]

/-- The statements of one directive are its own. -/
@[simp]
lemma statements_singleton (d : Directive) : statements [d] = statementsOf d := by
  rw [statements, statements, List.append_nil]

/-- A sequence is the same as another exactly if it is equal to it. -/
lemma sameAll_iff {ds es : List Directive} : sameAll ds es = true ↔ ds = es := by
  induction ds using forest_induction generalizing es with
  | nil => cases es <;> simp [sameAll]
  | rule line r ds ih =>
    cases es with
    | nil => simp [sameAll]
    | cons e es => cases e <;> simp [sameAll, same, ih]
  | block line head children ds ihc ih =>
    cases es with
    | nil => simp [sameAll]
    | cons e es => cases e <;> simp [sameAll, same, ih, ihc, and_assoc]

/-- Two sequences are equivalent exactly if they are equal without their line numbers. -/
lemma equivalent_iff {ds es : List Directive} :
    equivalent ds es = true ↔ withoutLinesAll ds = withoutLinesAll es :=
  sameAll_iff

/-- The statements of a sequence without line numbers. -/
lemma statements_withoutLinesAll (ds : List Directive) :
    (statements (withoutLinesAll ds)).map (·.2) = (statements ds).map (·.2) := by
  induction ds using forest_induction with
  | nil => rfl
  | rule line r ds ih => simp [withoutLinesAll, withoutLines, statements, statementsOf, ih]
  | block line head children ds ihc ih =>
    simp [withoutLinesAll, withoutLines, statements, statementsOf, ih, ihc]

/-- Equivalent sequences state the same. -/
lemma statements_of_equivalent {ds es : List Directive} (h : equivalent ds es = true) :
    (statements ds).map (·.2) = (statements es).map (·.2) := by
  rw [← statements_withoutLinesAll ds, equivalent_iff.1 h, statements_withoutLinesAll]

/-- Whether every statement of a sequence, at every depth, has a property. -/
def Everywhere (p : Statement → Prop) (ds : List Directive) : Prop :=
  ∀ e ∈ statements ds, p e.2

section Everywhere

variable {p q : Statement → Prop}

/-- What holds of statements holds everywhere in an empty sequence. -/
lemma everywhere_nil : Everywhere p [] := by
  simp [Everywhere, statements]

/-- It holds everywhere behind a rule and of the rule. -/
lemma everywhere_rule {line : Int} {r : Rule} {ds : List Directive} :
    Everywhere p (.rule line r :: ds) ↔ p (.rule r) ∧ Everywhere p ds := by
  simp [Everywhere, statements, statementsOf]

/-- It holds of the head of a block, everywhere inside the block and everywhere behind it. -/
lemma everywhere_block {line : Int} {head : BlockHead} {children ds : List Directive} :
    Everywhere p (.block line head children :: ds) ↔
      p (.opening head) ∧ Everywhere p children ∧ Everywhere p ds := by
  simp only [Everywhere, statements, statementsOf, List.cons_append, List.mem_cons,
    List.mem_append, forall_eq, or_imp, forall_and]

/-- It holds everywhere in two sequences put together if it does in each. -/
lemma everywhere_append {ds es : List Directive} :
    Everywhere p (ds ++ es) ↔ Everywhere p ds ∧ Everywhere p es := by
  simp only [Everywhere, statements_append, List.mem_append, or_imp, forall_and]

/-- It holds everywhere in a first directive and everywhere behind it. -/
lemma everywhere_cons {d : Directive} {ds : List Directive} :
    Everywhere p (d :: ds) ↔ Everywhere p [d] ∧ Everywhere p ds :=
  (everywhere_append : Everywhere p ([d] ++ ds) ↔ _)

/-- What holds everywhere, holds for every property that it implies. -/
lemma Everywhere.imp {ds : List Directive} (h : Everywhere p ds) (himp : ∀ x, p x → q x) :
    Everywhere q ds :=
  fun e he => himp e.2 (h e he)

/-- A property holds everywhere in a sequence if it does in each of its directives. -/
lemma everywhere_of_forall {ds : List Directive} (h : ∀ d ∈ ds, Everywhere p [d]) :
    Everywhere p ds := by
  induction ds with
  | nil => exact everywhere_nil
  | cons d ds ih => exact everywhere_cons.2 ⟨h d (by simp), ih fun e he => h e (by simp [he])⟩

/-- What holds everywhere in a sequence, holds everywhere in each of its directives. -/
lemma Everywhere.of_mem {ds : List Directive} (h : Everywhere p ds) {d : Directive} (hd : d ∈ ds) :
    Everywhere p [d] := by
  obtain ⟨before, after, rfl⟩ := List.append_of_mem hd
  exact (everywhere_cons.1 (everywhere_append.1 h).2).1

end Everywhere

end Directive

end HtGate
