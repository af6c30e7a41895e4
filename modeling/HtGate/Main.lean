import HtGate.Cli.Inputs
import Std.Time.DateTime.Timestamp
/-!
# The command

Takes the files that a command line refers to from the disk, does what it asks for, and writes the new
files, the output and the exit code. What is done is decided elsewhere.
-/

namespace HtGate.Cli

/-- A text as a string. -/
def str (t : Text) : String := String.ofList t

/-- The path of a place on the disk. -/
def diskPath (place : Place) : String := str (Path.toText { parts := place })

/-- The files with what is on the disk at a place. The content of a file is read if it is asked for. -/
def lookAt (files : Files) (place : Place) (withContent : Bool) : IO Files := do
  let path := (← IO.currentDir) / diskPath place
  if ← path.isDir then return files.install place ⟨.directory, 0⟩
  if !(← path.pathExists) then return files
  let bytes ← if withContent then IO.FS.readBinFile path else pure ByteArray.empty
  return files.install place ⟨.file bytes.toList, 0⟩

/-- The files with what is on the disk on the way along names. -/
def lookAlong (files : Files) (place : Place) : List Text → IO Files
  | [] => pure files
  | name :: more => do
    let next := Path.follow place name
    let files ← lookAt files next more.isEmpty
    lookAlong files next more

/-- The files with what is on the disk on the way along a path. -/
def lookUp (files : Files) (path : Text) : IO Files :=
  lookAlong files (if Path.isAbsolute path then [] else files.workingDirectory) (Path.names path)

/-- The files with what is on the disk below a directory. -/
partial def lookBelow (files : Files) (place : Place) : IO Files := do
  let path := (← IO.currentDir) / diskPath place
  if !(← path.isDir) then return files
  (← path.readDir).foldlM (fun files e => do
    let below := place ++ [e.fileName.toList]
    lookBelow (← lookAt files below true) below) files

/-- The files that a command line refers to. -/
def gather (start : Files) (home : Text) (o : Options) : IO Files := do
  let configs := configPaths start.workingDirectory o
  let files ← (configs ++ [outputPath home o]).foldlM lookUp start
  let files ← match nonEmpty? o.configDir with
    | some directory => do
      let files ← lookUp files directory
      lookBelow files (Path.absolute files.workingDirectory directory).parts
    | none => pure files
  (configs.flatMap (userFilesAt files)).foldlM lookUp files

/-- Puts an entry on the disk. -/
def store (place : Place) (entry : Entry) : IO Unit :=
  match entry.content with
  | .directory => IO.FS.createDirAll (diskPath place)
  | .file bytes => IO.FS.writeBinFile (diskPath place) ⟨bytes.toArray⟩

end HtGate.Cli

open HtGate HtGate.Cli in
/-- Does what the command line asks for. -/
def main (arguments : List String) : IO UInt32 := do
  let arguments := arguments.map String.toList
  let home := (← IO.currentDir).toString.toList
  let start : Files := { workingDirectory := Path.names home }
  let files ← match Options.read arguments with
    | .ok o => gather start home o
    | .error _ => pure start
  let seconds := (← Std.Time.Timestamp.now).toSecondsSinceUnixEpoch.val
  let r := Cli.run { files, now := seconds, made := Date.ofSeconds seconds, home } arguments
  (changed files r.files).forM fun (place, entry) => store place entry
  IO.print (str r.output)
  IO.eprint (str r.errors)
  return r.exit.toUInt32
