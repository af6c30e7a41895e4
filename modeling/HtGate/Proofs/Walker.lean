import HtGate.Proofs.Directive.Merging
import HtGate.Walker
/-!
# What a walk gathers

A walker keeps only configurations that it has read at some time. The invariant is kept by every step of a
walk, so that a walk of a walker that has it gathers configurations that were read, laid over one
another, and every statement of what it gathers stands on some line.
-/

namespace HtGate.Walker

open Directive (Everywhere)

/-- Whether a configuration was read from some text. -/
def IsRead (p : Parsed) : Prop := ∃ content, parse content = .ok p

/-- Whether a walker keeps only what was read. -/
def Genuine (w : Walker) : Prop := ∀ e ∈ w.kept, IsRead e.2.parsed

/-- A walker that keeps nothing keeps only what was read. -/
lemma genuine_of_kept_nil {w : Walker} (h : w.kept = []) : w.Genuine := by
  intro e he
  rw [h] at he
  cases he

variable {w : Walker} {files : Files} {path : Text}

/-- To keep a configuration that was read leaves a genuine walker. -/
lemma Genuine.keep (h : w.Genuine) (path : Text) {k : Kept} (hk : IsRead k.parsed) :
    (w.keep path k).Genuine := by
  intro e he
  rcases List.mem_append.1 he with he | he
  · exact h e (List.mem_filter.1 he).1
  · cases List.mem_singleton.1 he
    exact hk

/-- A configuration that is kept and fresh was read. -/
lemma Genuine.fresh? (h : w.Genuine) {modified : Int} {p : Parsed}
    (hp : w.fresh? path modified = some p) : IsRead p := by
  rw [Walker.fresh?] at hp
  split at hp
  · rename_i k hkept
    split at hp
    · cases hp
      obtain ⟨e, hfind, rfl⟩ := Option.map_eq_some_iff.1 hkept
      exact h e (List.mem_of_find?_eq_some hfind)
    · cases hp
  · cases hp

/-- What is read anew was read, and so is what is kept afterwards. -/
lemma Genuine.readAnew (h : w.Genuine) (files : Files) (path : Text) (modified : Int) :
    (w.readAnew files path modified).walker.Genuine ∧
      ∀ p, (w.readAnew files path modified).result = .ok (some p) → IsRead p := by
  rw [Walker.readAnew]
  cases Config.load w.limit files path with
  | error fault => exact ⟨h, nofun⟩
  | ok config =>
    dsimp only
    cases hparse : parse config.content with
    | error failure => exact ⟨h, nofun⟩
    | ok parsed =>
      have hread : IsRead parsed := ⟨config.content, hparse⟩
      refine ⟨h.keep path hread, fun p hp => ?_⟩
      cases hp
      exact hread

/-- What is loaded was read, and so is what is kept afterwards. -/
lemma Genuine.load (h : w.Genuine) (files : Files) (path : Text) :
    (w.load files path).walker.Genuine ∧
      ∀ p, (w.load files path).result = .ok (some p) → IsRead p := by
  rw [Walker.load]
  split
  · exact ⟨h, nofun⟩
  · exact ⟨h, nofun⟩
  · rename_i entry _
    cases hfresh : w.fresh? path entry.modified with
    | some parsed =>
      refine ⟨h, fun p hp => ?_⟩
      cases hp
      exact h.fresh? hfresh
    | none => exact h.readAnew files path entry.modified

/-- The directories that are left lay configurations that were read over what there is. -/
theorem Genuine.gather (h : w.Genuine) {merged M : List Directive} {directories : List Text}
    (hM : (w.gather files merged directories).result = .ok M) :
    ∃ layers : List Parsed, (∀ p ∈ layers, IsRead p) ∧
      M = (layers.map (·.directives)).foldl Overlay.merge merged := by
  -- a directory without a file adds no layer, and the walker stays genuine either way
  induction directories generalizing w merged with
  | nil =>
    cases hM
    exact ⟨[], List.forall_mem_nil _, rfl⟩
  | cons directory more ih =>
    obtain ⟨hwalker, hread⟩ := h.load files (Path.join directory w.filename)
    rw [Walker.gather] at hM
    cases hload : (w.load files (Path.join directory w.filename)).result with
    | error fault => simp [hload] at hM
    | ok found =>
      simp only [hload] at hM
      cases found with
      | none => exact ih hwalker hM
      | some p =>
        obtain ⟨layers, hlayers, rfl⟩ := ih hwalker hM
        exact ⟨p :: layers, List.forall_mem_cons.2 ⟨hread p hload, hlayers⟩, rfl⟩

/-- A walk gathers configurations that were read, laid over one another. -/
theorem Genuine.walk (h : w.Genuine) {root target : Text} {M : List Directive}
    (hM : (w.walk files root target).result = .ok M) :
    ∃ layers : List Parsed, (∀ p ∈ layers, IsRead p) ∧
      M = Overlay.mergeAll (layers.map (·.directives)) :=
  h.gather hM

/-- Every statement that a walk gathers is what some line states. -/
theorem Genuine.isRead_walk (h : w.Genuine) {root target : Text} {M : List Directive}
    (hM : (w.walk files root target).result = .ok M) : Everywhere Statement.IsRead M := by
  obtain ⟨layers, hlayers, rfl⟩ := h.walk hM
  refine Overlay.everywhere_mergeAll fun l hl => ?_
  obtain ⟨p, hp, rfl⟩ := List.mem_map.1 hl
  obtain ⟨content, hread⟩ := hlayers p hp
  exact isRead_parse hread

end HtGate.Walker
