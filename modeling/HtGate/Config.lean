import HtGate.Digest.Sha256
import HtGate.Files.Basic
import HtGate.Text.Case
/-!
# Configuration texts

A configuration as it comes in: its text with where it is from, its size and its SHA-256 digest. It comes
from a file, from all files of a directory that look like configurations, or as a text. A size limit
holds for all.
-/

namespace HtGate

/-- A configuration as it comes in. -/
structure Config where
  path : Text
  content : Text
  /-- The SHA-256 digest of the UTF-8 form of the content, in hexadecimal. -/
  digest : Text
  /-- The size in bytes. -/
  size : Int
  /-- The last part of the path. -/
  name : Text
  /-- When it was last changed, in milliseconds. -/
  modified : Int
  deriving DecidableEq, Repr

namespace Config

/-- The limit on the size that holds where no other is set, in bytes. -/
def defaultLimit : Int := 1048576

/-- The path of a configuration that has none. -/
def inlinePath : Text := "<inline>".toList

/-- The limit that is asked for; none and zero ask for the default. -/
def limitOf (asked : Option Int) : Int :=
  match asked with
  | none => defaultLimit
  | some n => if n = 0 then defaultLimit else n

/-- The digest of bytes in hexadecimal. -/
def digestOf (bytes : Bytes) : Text :=
  (Digest.Sha256.digest bytes).flatMap fun b => Text.hex 2 b.toNat

/-- The configuration of a text. A size is taken as it is given, otherwise it is that of the text. -/
def ofText (limit : Int) (content path : Text) (size : Option Int) (modified : Int) :
    Except Fault Config :=
  let bytes := Utf8.encode content
  if limit < bytes.length then .error (.contentTooLarge limit)
  else
    .ok
      { path, content, modified
        digest := digestOf bytes
        size := size.getD bytes.length
        name := Path.baseName path }

/-- The bytes without the mark at the start by which some programs tell UTF-8. -/
def withoutMark : Bytes → Bytes
  | 0xEF :: 0xBB :: 0xBF :: rest => rest
  | bytes => bytes

/-- The configuration in a file. -/
def load (limit : Int) (files : Files) (path : Text) : Except Fault Config :=
  let absolute := Path.absolute files.workingDirectory path
  let full := absolute.toText
  match files.entryAt absolute.parts with
  | none => .error (.configMissing full)
  | some ⟨.directory, _⟩ => .error (.directoryAsConfig full)
  | some ⟨.file bytes, modified⟩ =>
    if bytes.isEmpty then .error (.configEmpty full)
    else if limit < bytes.length then .error (.configTooLarge limit full)
    else
      match Utf8.decode (withoutMark bytes) with
      | none => .error (.configNotUtf8 full)
      | some content => ofText limit content full (some bytes.length) modified

/-- The names of files that are configurations. -/
def fileNames : List Text := [".htaccess".toList, "htaccess.txt".toList]

/-- The endings of files that are configurations, in any case. -/
def endings : List Text := [".htaccess".toList, ".conf".toList, ".txt".toList]

/-- Whether a file looks like a configuration by its name. -/
def isSupported (name : Text) : Bool :=
  fileNames.contains name || endings.contains (Text.lower (Path.extension name))

/-- The paths of the files below a directory that look like configurations: those of a directory before
those of the directories in it, each in the order of their names. No place is deeper than `fuel` below
the directory. -/
def pathsBelow (files : Files) : Nat → Place → Text → List Text
  | 0, _, _ => []
  | fuel + 1, place, path =>
    let children := (files.childrenOf place).mergeSort fun a b => Text.atMost a.1 b.1
    let here := children.filter fun (name, entry) =>
      entry.content != .directory && isSupported name
    let directories := children.filter fun (_, entry) => entry.content == .directory
    here.map (fun (name, _) => Path.join path name)
      ++ directories.flatMap fun (name, _) =>
        pathsBelow files fuel (place ++ [name]) (Path.join path name)

/-- What came of the files of a directory: the configurations, and the paths of the files that could not
be loaded with the reasons. -/
structure Batch where
  loaded : List Config
  failures : List (Text × Fault)

/-- Loads every file below a directory that looks like a configuration. -/
def loadBelow (limit : Int) (files : Files) (path : Text) : Except Fault Batch :=
  let absolute := Path.absolute files.workingDirectory path
  if files.isDirectoryAt absolute.parts then
    let paths := pathsBelow files (files.depth + 1) absolute.parts absolute.toText
    let results := paths.map fun p => (p, load limit files p)
    .ok
      { loaded := results.filterMap fun (_, r) => r.toOption
        failures := results.filterMap fun (p, r) =>
          match r with
          | .error fault => some (p, fault)
          | .ok _ => none }
  else .error (.directoryExpected absolute.toText)

end Config

end HtGate
