import HtGate.Files.Basic
import Mathlib.Tactic.Lemma
import Mathlib.Tactic.SplitIfs
/-!
# What paths lead to

Names are followed one after the other, so that a path that leads somewhere leads to the place that it names
lexically. To put something somewhere or to remove it leaves the working directory as it is, and a file that
was written where a path leads is found there.
-/

namespace HtGate.Files

variable {files : Files} {path : Text}

/-- To enter a name from a place leads to the place that the name leads to lexically. -/
lemma enter_eq {place next : Place} {name : Text} (h : files.enter path place name = .ok next) :
    next = Path.follow place name := by
  simp only [enter] at h
  split at h
  · cases h
  · split at h <;> cases h
    rfl

/-- Names that lead to a place lead to where they would lead if there were nothing. -/
lemma walkNames_eq {place p : Place} {names : List Text}
    (h : files.walkNames path place names = .ok p) : p = names.foldl Path.follow place := by
  induction names generalizing place with
  | nil =>
    cases h
    rfl
  | cons name more ih =>
    cases more with
    | nil =>
      rw [walkNames] at h
      split at h <;> cases h
      rfl
    | cons name' more =>
      rw [walkNames] at h
      · split at h
        · cases h
        · rename_i next hnext
          rw [ih h, enter_eq hnext]
          rfl
      · exact List.cons_ne_nil _ _

/-- A path that leads to a place leads to the one that its absolute form names. -/
lemma locate_eq {place : Place} (h : files.locate path = .ok place) :
    place = (Path.absolute files.workingDirectory path).parts := by
  rw [locate] at h
  split_ifs at h with _ _ _ habsolute
  all_goals rw [walkNames_eq h, Path.absolute]
  · rw [if_pos habsolute]
  · rw [if_neg habsolute]

/-- What a path leads to is at the place that its absolute form names. -/
lemma entryAt_of_find {entry : Entry} (h : files.find path = .ok entry) :
    files.entryAt (Path.absolute files.workingDirectory path).parts = some entry := by
  rw [find] at h
  split at h
  · cases h
  · rename_i place hplace
    rw [← locate_eq hplace]
    split at h
    · cases h
    · rename_i found hfound
      rw [hfound]
      split at h
      · cases h
        rfl
      · split at h <;> cases h
        rfl

/-- To make directories leaves the working directory as it is. -/
lemma workingDirectory_putDirectories (files : Files) (place : Place) (names : List Text) :
    (files.putDirectories place names).workingDirectory = files.workingDirectory := by
  induction names generalizing files place with
  | nil => rfl
  | cons name more ih =>
    rw [putDirectories, ih]
    split <;> rfl

/-- To install an entry leaves the working directory as it is. -/
@[simp]
lemma workingDirectory_install (files : Files) (place : Place) (entry : Entry) :
    (files.install place entry).workingDirectory = files.workingDirectory :=
  workingDirectory_putDirectories files [] place.dropLast

section Writing

variable {place : Place} {entry : Entry}

/-- What is put at a place is there, unless the place leads to the working directory. -/
lemma entryAt_put_self (h : files.isDirectoryAt place = false) :
    (files.put place entry).entryAt place = some entry := by
  have hnot : place.isPrefixOf files.workingDirectory = false := by
    refine Bool.eq_false_iff.2 fun hprefix => ?_
    rw [isDirectoryAt, entryAt, if_pos hprefix] at h
    cases h
  have hnone : (files.entries.filter (·.1 != place)).find? (·.1 == place) = none := by
    rw [List.find?_eq_none]
    intro e he
    simpa using (List.mem_filter.1 he).2
  rw [entryAt, put, hnot, if_neg Bool.false_ne_true, List.find?_append, hnone, Option.none_or,
    List.find?_cons_of_pos (by simp)]
  rfl

/-- What is at other places stays. -/
lemma entryAt_put_of_ne {other : Place} (h : other ≠ place) :
    (files.put place entry).entryAt other = files.entryAt other := by
  have hne : (place == other) = false := by simpa using h.symm
  rw [entryAt, entryAt, put, List.find?_append, List.find?_filter,
    List.find?_cons_of_neg (by simp [hne]), List.find?_nil, Option.or_none]
  congr 4
  funext e
  by_cases he : e.1 = other
  · simp [he, h]
  · simp [he]

/-- A way that leads through directories does not lead through a place where there is none. -/
lemma enter_put (h : files.isDirectoryAt place = false) {current next : Place} {name : Text}
    (henter : files.enter path current name = .ok next) :
    (files.put place entry).enter path current name = .ok next := by
  simp only [enter] at henter ⊢
  -- what is entered is a directory, and what is written is not
  have hne : Path.follow current name ≠ place := by
    rintro rfl
    split at henter
    · cases henter
    · split at henter
      · cases henter
      · cases henter
      · rename_i hentry
        rw [isDirectoryAt, hentry] at h
        cases h
  rw [entryAt_put_of_ne hne]
  exact henter

/-- Names lead where they led, if what is put somewhere is not put in place of a directory. -/
lemma walkNames_put (h : files.isDirectoryAt place = false) {current found : Place} {names : List Text}
    (hwalk : files.walkNames path current names = .ok found) :
    (files.put place entry).walkNames path current names = .ok found := by
  -- each name but the last enters a directory, which is not the place that is written
  induction names generalizing current with
  | nil => exact hwalk
  | cons name more ih =>
    cases more with
    | nil => exact hwalk
    | cons name' more =>
      rw [walkNames] at hwalk ⊢
      · cases henter : files.enter path current name with
        | error fault =>
          rw [henter] at hwalk
          cases hwalk
        | ok next =>
          rw [henter] at hwalk
          rw [enter_put h henter]
          exact ih hwalk
      · exact List.cons_ne_nil _ _
      · exact List.cons_ne_nil _ _

/-- A path leads to where it led before something was put there. -/
lemma locate_put (h : files.isDirectoryAt place = false) (hlocate : files.locate path = .ok place) :
    (files.put place entry).locate path = .ok place := by
  rw [locate] at hlocate ⊢
  split_ifs at hlocate ⊢
  all_goals exact walkNames_put h hlocate

/-- A file that was written where a path leads is found there. -/
lemma read_of_write {files' : Files} {bytes : Bytes} (h : files.write path bytes = .ok files') :
    files'.read path = .ok bytes := by
  rw [write] at h
  cases hlocate : files.locate path with
  | error fault =>
    rw [hlocate] at h
    cases h
  | ok place =>
    rw [hlocate] at h
    dsimp only at h
    split_ifs at h with hrefused
    cases h
    rw [Bool.not_eq_true, Bool.or_eq_false_iff] at hrefused
    rw [read, find, locate_put hrefused.2 hlocate]
    dsimp only
    rw [entryAt_put_self hrefused.2]
    dsimp only
    rw [hrefused.1]
    rfl

end Writing

end HtGate.Files
