import HtGate.Proofs.Files
import HtGate.Proofs.Overriding
/-!
# What is kept is as good as new

A walker that keeps configurations answers as one that has kept nothing, whatever is written, removed, loaded
and walked in between, as long as nothing at any place ever gives way to something else that was changed last
at the same time. The invariant is that a configuration that is kept was read from the file at its path in
some state that the files have been in. Then the file was changed last at the time that is kept, and if it is
found with that time again, it is the same.
-/

namespace HtGate

/-- Whether what is at a place in one of several states of the files is known by its time of last change. -/
def Files.Unambiguous (states : List Files) : Prop :=
  ∀ f ∈ states, ∀ g ∈ states, ∀ place e e', f.entryAt place = some e → g.entryAt place = some e' →
    e.modified = e'.modified → e.content = e'.content

/-- States of files with the same working directory are unambiguous if the entries that were put in are. -/
lemma Files.unambiguous_of_entries {states : List Files} {directory : Place}
    (hplace : ∀ f ∈ states, f.workingDirectory = directory)
    (hentries : ∀ e ∈ states.flatMap Files.entries, ∀ e' ∈ states.flatMap Files.entries,
      e.1 = e'.1 → e.2.modified = e'.2.modified → e.2.content = e'.2.content) :
    Files.Unambiguous states := by
  have hentry {f : Files} (hf : f ∈ states) {place : Place} {e : Entry}
      (he : f.entryAt place = some e) :
      place.isPrefixOf directory = true ∧ e = ⟨.directory, 0⟩ ∨
        place.isPrefixOf directory = false ∧ (place, e) ∈ states.flatMap Files.entries := by
    rw [entryAt, hplace f hf] at he
    split at he
    · rename_i habove
      cases he
      exact .inl ⟨habove, rfl⟩
    · rename_i hbelow
      obtain ⟨⟨place', e'⟩, hfind, rfl⟩ := Option.map_eq_some_iff.1 he
      obtain rfl : place' = place := eq_of_beq (List.find?_some hfind :)
      exact .inr ⟨Bool.eq_false_iff.2 hbelow,
        List.mem_flatMap.2 ⟨f, hf, List.mem_of_find?_eq_some hfind⟩⟩
  -- the directories above the place of work are the same in every state
  intro f hf g hg place e e' he he' hmodified
  rcases hentry hf he with ⟨hup, rfl⟩ | ⟨hdown, hmem⟩ <;>
    rcases hentry hg he' with ⟨hup', rfl⟩ | ⟨hdown', hmem'⟩
  · rfl
  · exact absurd hup (Bool.eq_false_iff.1 hdown')
  · exact absurd hup' (Bool.eq_false_iff.1 hdown)
  · exact hentries _ hmem _ hmem' rfl hmodified

namespace Walker

/-- What happens to a walker and the files that it looks at. -/
inductive Action where
  /-- Something is put at a place. -/
  | write (place : Place) (entry : Entry)
  /-- What is at a place and below it is removed. -/
  | remove (place : Place)
  /-- The walker is to keep nothing any more. -/
  | clear
  | load (path : Text)
  | walk (root target : Text)

/-- What comes of an action. -/
inductive Answer where
  | done
  | loaded (result : Except Fault (Option Parsed))
  | walked (result : Except Fault (List Directive))

namespace Action

/-- The files after an action. -/
def apply (files : Files) : Action → Files
  | write place entry => files.install place entry
  | remove place => files.remove place
  | clear | load _ | walk _ _ => files

/-- The states that files are in from the start to the end of a row of actions. -/
def states (files : Files) : List Action → List Files
  | [] => [files]
  | a :: more => files :: states (a.apply files) more

/-- No action changes the working directory. -/
lemma workingDirectory_apply (files : Files) (a : Action) :
    (a.apply files).workingDirectory = files.workingDirectory := by
  cases a with
  | write place entry => exact Files.workingDirectory_install files place entry
  | remove | clear | load | walk => rfl

/-- All states that the files go through have the same working directory. -/
lemma workingDirectory_of_mem_states {files : Files} {actions : List Action} :
    ∀ g ∈ states files actions, g.workingDirectory = files.workingDirectory := by
  induction actions generalizing files with
  | nil => simp [states]
  | cons a more ih =>
    refine List.forall_mem_cons.2 ⟨rfl, fun g hg => ?_⟩
    rw [ih g hg, workingDirectory_apply]

end Action

/-- What comes of an action, and the walker after it. -/
def act (w : Walker) (files : Files) : Action → Answer × Walker
  | .write _ _ | .remove _ => (.done, w)
  | .clear => (.done, w.clear)
  | .load path => (.loaded (w.load files path).result, (w.load files path).walker)
  | .walk root target => (.walked (w.walk files root target).result, (w.walk files root target).walker)

/-- What comes of actions one after the other. -/
def run (w : Walker) (files : Files) : List Action → List Answer
  | [] => []
  | a :: more => (w.act files a).1 :: run (w.act files a).2 (a.apply files) more

/-- What comes of actions if each of them is for a new walker with the same settings. -/
def runAnew (w : Walker) (files : Files) : List Action → List Answer
  | [] => []
  | a :: more => (w.clear.act files a).1 :: runAnew w (a.apply files) more

/-- Whether a configuration was read at a path in one of several states of the files. -/
def ReadIn (seen : List Files) (limit : Int) (path : Text) (k : Kept) : Prop :=
  ∃ g ∈ seen, ∃ entry config, g.find path = .ok entry ∧ entry.modified = k.modified ∧
    Config.load limit g path = .ok config ∧ parse config.content = .ok k.parsed

/-- Whether a walker keeps only what was read in some state of the files. -/
def Justified (seen : List Files) (w : Walker) : Prop :=
  ∀ e ∈ w.kept, ReadIn seen w.limit e.1 e.2

/-- A walker that keeps nothing is justified. -/
lemma justified_clear (seen : List Files) (w : Walker) : w.clear.Justified seen := nofun

/-- What is loaded from a path depends on what is at the place that the path names. -/
lemma load_congr {limit : Int} {f g : Files} {path : Text}
    (hplace : f.workingDirectory = g.workingDirectory)
    (hentry : f.entryAt (Path.absolute f.workingDirectory path).parts =
      g.entryAt (Path.absolute f.workingDirectory path).parts) :
    Config.load limit f path = Config.load limit g path := by
  rw [Config.load, Config.load, ← hplace, hentry]

/-- What is read anew does not depend on what is kept. -/
lemma readAnew_clear (w : Walker) (files : Files) (path : Text) (modified : Int) :
    (w.readAnew files path modified).result = (w.clear.readAnew files path modified).result := by
  rw [readAnew, readAnew, clear]
  cases Config.load w.limit files path with
  | error fault => rfl
  | ok config =>
    dsimp only
    cases parse config.content <;> rfl

section Steps

variable {seen : List Files} {w : Walker} {files : Files}

/-- To load from a path changes no settings. -/
lemma clear_load (w : Walker) (files : Files) (path : Text) :
    (w.load files path).walker.clear = w.clear := by
  rw [load]
  split
  · rfl
  · rfl
  · split
    · rfl
    · rw [readAnew]
      split
      · rfl
      · split <;> rfl

/-- Neither does it to gather from directories. -/
lemma clear_gather (w : Walker) (files : Files) (merged : List Directive) (directories : List Text) :
    (w.gather files merged directories).walker.clear = w.clear := by
  induction directories generalizing w merged with
  | nil => rfl
  | cons directory more ih =>
    have hload := clear_load w files (Path.join directory w.filename)
    rw [gather]
    split
    · exact hload
    · exact (ih _ _).trans hload

/-- What is loaded and kept was read in the present state of the files. -/
lemma Justified.load (hw : w.Justified seen) (hfiles : files ∈ seen) (path : Text) :
    (w.load files path).walker.Justified seen := by
  rw [Walker.load]
  split
  · exact hw
  · exact hw
  · rename_i entry hfind
    split
    · exact hw
    · rw [readAnew]
      split
      · exact hw
      · rename_i config hload
        split
        · exact hw
        · rename_i parsed hparse
          -- only a reading that succeeds is kept, beside what was kept before
          intro e he
          rcases List.mem_append.1 he with he | he
          · exact hw e (List.mem_filter.1 he).1
          · cases List.mem_singleton.1 he
            exact ⟨files, hfiles, entry, config, hfind, rfl, hload, hparse⟩

/-- To gather the configurations of directories leaves a justified walker, since each loading does. -/
lemma Justified.gather (hw : w.Justified seen) (hfiles : files ∈ seen) (merged : List Directive)
    (directories : List Text) : (w.gather files merged directories).walker.Justified seen := by
  induction directories generalizing w merged with
  | nil => exact hw
  | cons directory more ih =>
    have hload := hw.load hfiles (Path.join directory w.filename)
    rw [Walker.gather]
    split
    · exact hload
    · exact ih hload _

/-- A configuration that is kept and fresh was read in some state of the files. -/
lemma Justified.of_fresh? (hw : w.Justified seen) {path : Text} {modified : Int} {p : Parsed}
    (hp : w.fresh? path modified = some p) : ReadIn seen w.limit path ⟨modified, p⟩ := by
  rw [fresh?] at hp
  split at hp
  · rename_i k hkept
    split at hp
    · rename_i hmodified
      subst hmodified
      cases hp
      obtain ⟨e, hfind, rfl⟩ := Option.map_eq_some_iff.1 hkept
      have hpath : e.1 = path := eq_of_beq (List.find?_some hfind :)
      exact hpath ▸ hw e (List.mem_of_find?_eq_some hfind)
    · cases hp
  · cases hp

variable (hseen : Files.Unambiguous seen)
  (hplace : ∀ g ∈ seen, g.workingDirectory = files.workingDirectory)

include hseen hplace

/-- A configuration that was read is loaded from its path again, if the file has the same time of last
change. -/
lemma ReadIn.load_eq {limit : Int} {path : Text} {k : Kept} (hread : ReadIn seen limit path k)
    (hfiles : files ∈ seen) {entry : Entry} (hfind : files.find path = .ok entry)
    (hmodified : entry.modified = k.modified) :
    ∃ config, Config.load limit files path = .ok config ∧ parse config.content = .ok k.parsed := by
  obtain ⟨g, hg, entry', config, hfind', hmodified', hload, hparse⟩ := hread
  have hat := Files.entryAt_of_find hfind
  have hat' := Files.entryAt_of_find hfind'
  rw [hplace g hg] at hat'
  -- the file that was read and this one are at one place, with one time of last change
  have hcontent := hseen files hfiles g hg _ entry entry' hat hat' (hmodified.trans hmodified'.symm)
  have hentry : entry = entry' := by
    cases entry
    cases entry'
    exact Entry.mk.injEq .. ▸ ⟨hcontent, hmodified.trans hmodified'.symm⟩
  refine ⟨config, ?_, hparse⟩
  rw [← hload]
  exact load_congr (hplace g hg).symm (hat.trans (hentry ▸ hat'.symm))

/-- What is kept and still good is what is read anew. -/
lemma Justified.load_result (hw : w.Justified seen) (hfiles : files ∈ seen) (path : Text) :
    (w.load files path).result = (w.clear.load files path).result := by
  have hnone (modified : Int) : w.clear.fresh? path modified = none := rfl
  rw [Walker.load, Walker.load]
  cases hfind : files.find path with
  | error fault => cases fault <;> rfl
  | ok entry =>
    simp only [hnone]
    -- nothing is kept for the path, or what is kept is what would be read anew
    cases hfresh : w.fresh? path entry.modified with
    | none => exact readAnew_clear w files path entry.modified
    | some p =>
      obtain ⟨config, hload, hparse⟩ :=
        (hw.of_fresh? hfresh).load_eq hseen hplace hfiles hfind rfl
      have hload' : Config.load w.clear.limit files path = .ok config := hload
      simp only [readAnew, hload', hparse]

/-- Walkers with the same settings find the same configurations in directories. -/
lemma Justified.layers_eq {v : Walker} (hw : w.Justified seen) (hv : v.Justified seen)
    (hsettings : w.clear = v.clear) (hfiles : files ∈ seen) (directories : List Text) :
    w.layers files directories = v.layers files directories := by
  -- both walkers stay justified from one directory to the next, though they keep different entries
  induction directories generalizing w v with
  | nil => rfl
  | cons directory more ih =>
    have hname : w.filename = v.filename := (congrArg Walker.filename hsettings :)
    have hresult : (w.load files (Path.join directory w.filename)).result =
        (v.load files (Path.join directory w.filename)).result := by
      rw [hw.load_result hseen hplace hfiles, hv.load_result hseen hplace hfiles, hsettings]
    have hmore := ih (hw.load hfiles (Path.join directory w.filename))
      (hv.load hfiles (Path.join directory w.filename))
      (by rw [clear_load, clear_load, hsettings])
    rw [layers, layers, ← hname, ← hresult]
    cases (w.load files (Path.join directory w.filename)).result with
    | error fault => rfl
    | ok found =>
      cases found with
      | none => exact hmore
      | some p => exact congrArg (Except.map (p.directives :: ·)) hmore

/-- A walk finds what a walk of a walker that has kept nothing finds. -/
lemma Justified.walk_result (hw : w.Justified seen) (hfiles : files ∈ seen) (root target : Text) :
    (w.walk files root target).result = (w.clear.walk files root target).result := by
  rw [Walker.walk, Walker.walk, gather_result, gather_result,
    hw.layers_eq hseen hplace (justified_clear seen w) rfl hfiles]

/-- An action comes to what it comes to for a new walker. -/
lemma Justified.act_eq (hw : w.Justified seen) (hfiles : files ∈ seen) (a : Action) :
    (w.act files a).1 = (w.clear.act files a).1 := by
  cases a with
  | write | remove | clear => rfl
  | load path => exact congrArg Answer.loaded (hw.load_result hseen hplace hfiles path)
  | walk root target => exact congrArg Answer.walked (hw.walk_result hseen hplace hfiles root target)

omit hseen hplace

/-- After an action, what is kept was read in some state still. -/
lemma Justified.act (hw : w.Justified seen) (hfiles : files ∈ seen) (a : Action) :
    (w.act files a).2.Justified seen := by
  cases a with
  | write | remove => exact hw
  | clear => exact justified_clear seen w
  | load path => exact hw.load hfiles path
  | walk root target => exact hw.gather hfiles [] _

/-- An action leaves the settings of the walker alone. -/
lemma clear_act (w : Walker) (files : Files) (a : Action) : (w.act files a).2.clear = w.clear := by
  cases a with
  | write | remove | clear => rfl
  | load path => exact clear_load w files path
  | walk root target => exact clear_gather w files [] _

/-- Only the settings count for new walkers. -/
lemma runAnew_congr {v : Walker} (h : w.clear = v.clear) (actions : List Action) :
    w.runAnew files actions = v.runAnew files actions := by
  induction actions generalizing files with
  | nil => rfl
  | cons a more ih => rw [runAnew, runAnew, h, ih]

end Steps

/-- A walker that keeps only what was read in some state of the files answers as new walkers do. -/
lemma Justified.run_eq {seen : List Files} (hseen : Files.Unambiguous seen) {w : Walker}
    (hw : w.Justified seen) {files : Files} {actions : List Action}
    (hplace : ∀ g ∈ seen, g.workingDirectory = files.workingDirectory)
    (hstates : Action.states files actions ⊆ seen) :
    w.run files actions = w.runAnew files actions := by
  induction actions generalizing w files with
  | nil => rfl
  | cons a more ih =>
    obtain ⟨hfiles, hmore⟩ := List.cons_subset.1 hstates
    rw [run, runAnew, hw.act_eq hseen hplace hfiles a, ih (hw.act hfiles a) ?_ hmore,
      runAnew_congr (clear_act w files a)]
    intro g hg
    rw [hplace g hg, Action.workingDirectory_apply]

/-- Whatever is written, removed, loaded and walked, each of the answers of a walker that kept nothing at the
start is that of a new walker at that moment, if every state that something at a place was in is known by
its time of last change. -/
theorem run_eq_runAnew (w : Walker) {files : Files} {actions : List Action}
    (h : Files.Unambiguous (Action.states files actions)) :
    w.clear.run files actions = w.runAnew files actions :=
  calc w.clear.run files actions
      = w.clear.runAnew files actions :=
        (justified_clear _ w).run_eq h Action.workingDirectory_of_mem_states (List.Subset.refl _)
    _ = w.runAnew files actions := runAnew_congr (w := w.clear) (v := w) rfl actions

/-- A configuration that is written, replaced, put back, replaced by a directory and removed, with loads and
a walk in between. -/
def changes : List Action :=
  let place : Place := [".htaccess".toList]
  let path : Text := ".htaccess".toList
  let denied : Entry := ⟨.file (Utf8.encode "Require all denied".toList), 1⟩
  let granted : Entry := ⟨.file (Utf8.encode "Require all granted".toList), 2⟩
  [.write place denied, .load path, .write place granted, .load path, .write place denied, .load path,
    .write place ⟨.directory, 3⟩, .load path, .remove place, .load path, .clear, .write place granted,
    .walk [] []]

/-- The configuration that was put back is found, though another one was kept, and so is the one that was
written after everything was forgotten. -/
theorem run_changes_eq_runAnew :
    Files.Unambiguous (Action.states {} changes) ∧
      (clear {}).run {} changes = ({} : Walker).runAnew {} changes ∧
      ((clear {}).run {} changes)[5]? =
        some (.loaded (.ok (some ⟨[.rule 1 { kind := .requireAllDenied }], []⟩))) ∧
      ((clear {}).run {} changes)[12]? =
        some (.walked (.ok [.rule 1 { kind := .requireAllGranted }])) := by
  have h : Files.Unambiguous (Action.states {} changes) := by
    refine Files.unambiguous_of_entries Action.workingDirectory_of_mem_states ?_
    decide +kernel
  exact ⟨h, run_eq_runAnew {} h, rfl, rfl⟩

end Walker

end HtGate
