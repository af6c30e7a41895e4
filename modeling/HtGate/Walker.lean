import HtGate.Config
import HtGate.Directive.Overlay
import HtGate.Log
/-!
# Walking down a directory tree

Every directory on the way from a root down to a target may have a configuration of its own, and those
further down are laid over those further up. A configuration that was read is kept with the time of the
file's last change, and is not read again while that time stays the same.
-/

namespace HtGate

/-- The name of a configuration in a directory where no other is asked for. -/
def Walker.defaultFilename : Text := ".htaccess".toList

/-- A configuration that was read, with the time of the last change. -/
structure Walker.Kept where
  modified : Int
  parsed : Parsed

/-- What looks for configurations, with those it has kept. -/
structure Walker where
  /-- The name of a configuration in a directory. -/
  filename : Text := Walker.defaultFilename
  /-- The limit on the size of a configuration. -/
  limit : Int := Config.defaultLimit
  /-- What is kept, by the path. -/
  kept : List (Text × Walker.Kept) := []

namespace Walker

/-- The name under which walks write to the log. -/
def source : Text := "htgate.dir_walker".toList

/-- What a step comes to: the value or a fault, the walker after it, and what was written to the log. -/
structure Outcome (α : Type) where
  result : Except Fault α
  walker : Walker
  records : List Log.Record

/-- What is kept for a path. -/
def kept? (w : Walker) (path : Text) : Option Kept := (w.kept.find? (·.1 == path)).map (·.2)

/-- Keeps what was read at a path. -/
def keep (w : Walker) (path : Text) (k : Kept) : Walker :=
  { w with kept := w.kept.filter (·.1 != path) ++ [(path, k)] }

/-- Keeps nothing any more. -/
def clear (w : Walker) : Walker := { w with kept := [] }

/-- Whether what is kept for a path is still good. -/
def fresh? (w : Walker) (path : Text) (modified : Int) : Option Parsed :=
  match w.kept? path with
  | some k => if k.modified = modified then some k.parsed else none
  | none => none

/-- Reads the file at a path that was changed last at the given time. -/
def readAnew (w : Walker) (files : Files) (path : Text) (modified : Int) :
    Outcome (Option Parsed) :=
  match Config.load w.limit files path with
  | .error fault =>
    ⟨.ok none, w,
      [⟨.warning, source, "Skipping ".toList ++ path ++ ": ".toList ++ fault.message⟩]⟩
  | .ok config =>
    match parse config.content with
    | .error failure => ⟨.error failure.fault, w, Log.ofFailure source path failure⟩
    | .ok parsed =>
      ⟨.ok (some parsed), w.keep path ⟨modified, parsed⟩,
        Log.ofParsed source path parsed
          ++ [⟨.debug, source,
            "Loaded ".toList ++ path ++ ": ".toList ++ Text.ofNat parsed.directives.length
              ++ " top-level directives".toList⟩]⟩

/-- The configuration at a path, if there is one. -/
def load (w : Walker) (files : Files) (path : Text) : Outcome (Option Parsed) :=
  match files.find path with
  | .error .nulInPath => ⟨.error .nulInPath, w, []⟩
  | .error _ => ⟨.ok none, w, []⟩
  | .ok entry =>
    match w.fresh? path entry.modified with
    | some parsed => ⟨.ok (some parsed), w, []⟩
    | none => w.readAnew files path entry.modified

/-- Lays the configurations of directories over what there is, one after the other. -/
def gather (w : Walker) (files : Files) (merged : List Directive) :
    List Text → Outcome (List Directive)
  | [] => ⟨.ok merged, w, []⟩
  | directory :: more =>
    let o := w.load files (Path.join directory w.filename)
    match o.result with
    | .error fault => ⟨.error fault, o.walker, o.records⟩
    | .ok parsed =>
      let merged := match parsed with
        | some p => Overlay.merge merged p.directives
        | none => merged
      let rest := gather o.walker files merged more
      ⟨rest.result, rest.walker, o.records ++ rest.records⟩

/-- The directives that hold in a target directory. -/
def walk (w : Walker) (files : Files) (root target : Text) : Outcome (List Directive) :=
  w.gather files [] (Path.chain files.workingDirectory root target)

end Walker

end HtGate
