import HtGate.Fault
import HtGate.Files.Path
import HtGate.Text.Utf8
/-!
# Files

A tree of directories and files, with a working directory where relative paths start. An entry stands at
the names that lead to it from the root; the working directory and what is above it are always there. A
path is followed name by name: every name but the last has to lead to a directory, and `..` leads to
where the way came from.
-/

namespace HtGate

/-- What is at a place. -/
inductive Content where
  | directory
  | file (bytes : Bytes)
  deriving DecidableEq, Repr

/-- An entry of a file tree. -/
structure Entry where
  content : Content
  /-- When it was last changed, in milliseconds. -/
  modified : Int := 0
  deriving DecidableEq, Repr

/-- A place in a file tree: the names from the root on. -/
abbrev Place := List Text

/-- A file tree. -/
structure Files where
  /-- The place where relative paths start. -/
  workingDirectory : Place := []
  entries : List (Place × Entry) := []
  deriving DecidableEq, Repr

namespace Files

/-- The longest name, in bytes. -/
def maxName : Nat := 255

/-- The longest path, in bytes. -/
def maxPath : Nat := 4095

/-- What is at a place. -/
def entryAt (files : Files) (place : Place) : Option Entry :=
  if place.isPrefixOf files.workingDirectory then some ⟨.directory, 0⟩
  else (files.entries.find? (·.1 == place)).map (·.2)

/-- Whether there is a directory at a place. -/
def isDirectoryAt (files : Files) (place : Place) : Bool :=
  match files.entryAt place with
  | some ⟨.directory, _⟩ => true
  | _ => false

/-- The tree with an entry put at a place. -/
def put (files : Files) (place : Place) (entry : Entry) : Files :=
  { files with entries := files.entries.filter (·.1 != place) ++ [(place, entry)] }

/-- The tree without what is at a place and below it. -/
def remove (files : Files) (place : Place) : Files :=
  { files with entries := files.entries.filter fun e => !place.isPrefixOf e.1 }

/-- The tree with directories at every place from `place` down the names, where there is nothing. -/
def putDirectories (files : Files) (place : Place) : List Text → Files
  | [] => files
  | name :: more =>
    let next := place ++ [name]
    let files := if (files.entryAt next).isSome then files else files.put next ⟨.directory, 0⟩
    putDirectories files next more

/-- The tree with an entry put at a place and directories above it. -/
def install (files : Files) (place : Place) (entry : Entry) : Files :=
  (files.putDirectories [] place.dropLast).put place entry

/-- The place that a name leads to from a directory, if a directory is there too. -/
def enter (files : Files) (path : Text) (place : Place) (name : Text) : Except Fault Place :=
  let next := Path.follow place name
  if maxName < (Utf8.encode name).length then .error (.nameTooLong path)
  else
    match files.entryAt next with
    | none => .error (.noSuchFile path)
    | some ⟨.file _, _⟩ => .error (.notADirectory path)
    | some ⟨.directory, _⟩ => .ok next

/-- The place that names lead to from a directory. There need not be anything at the last name. -/
def walkNames (files : Files) (path : Text) (place : Place) : List Text → Except Fault Place
  | [] => .ok place
  | [name] =>
    if maxName < (Utf8.encode name).length then .error (.nameTooLong path)
    else .ok (Path.follow place name)
  | name :: more =>
    match enter files path place name with
    | .error fault => .error fault
    | .ok next => walkNames files path next more

/-- The place that a path leads to. -/
def locate (files : Files) (path : Text) : Except Fault Place :=
  if path.contains '\x00' then .error .nulInPath
  else if path.isEmpty then .error (.noSuchFile path)
  else if maxPath < (Utf8.encode path).length then .error (.nameTooLong path)
  else
    files.walkNames path (if Path.isAbsolute path then [] else files.workingDirectory)
      (Path.names path)

/-- Whether a path ends in a slash, and so asks for a directory. -/
def asksDirectory (path : Text) : Bool := path.getLast? == some '/'

/-- What a path leads to. -/
def find (files : Files) (path : Text) : Except Fault Entry :=
  match files.locate path with
  | .error fault => .error fault
  | .ok place =>
    match files.entryAt place with
    | none => .error (.noSuchFile path)
    | some entry =>
      match entry.content with
      | .directory => .ok entry
      | .file _ => if asksDirectory path then .error (.notADirectory path) else .ok entry

/-- Whether a path leads to something. -/
def contains (files : Files) (path : Text) : Bool := (files.find path).isOk

/-- The bytes of the file that a path leads to. -/
def read (files : Files) (path : Text) : Except Fault Bytes :=
  match files.find path with
  | .error fault => .error fault
  | .ok ⟨.directory, _⟩ => .error (.isDirectory path)
  | .ok ⟨.file bytes, _⟩ => .ok bytes

/-- The tree with a file written where a path leads. -/
def write (files : Files) (path : Text) (bytes : Bytes) : Except Fault Files :=
  match files.locate path with
  | .error fault => .error fault
  | .ok place =>
    if asksDirectory path || files.isDirectoryAt place then .error (.isDirectory path)
    else .ok (files.put place ⟨.file bytes, 0⟩)

/-- The tree with a directory made where a path leads, unless one is there. -/
def makeDirectory (files : Files) (path : Text) : Except Fault Files :=
  match files.locate path with
  | .error fault => .error fault
  | .ok place =>
    if files.isDirectoryAt place then .ok files
    else if (files.entryAt place).isSome then .error (.fileExists path)
    else .ok (files.put place ⟨.directory, 0⟩)

/-- The paths above a path that lead to nothing, the highest first, in front of the path. -/
def missingAbove (files : Files) : Nat → Text → List Text
  | 0, path => [path]
  | fuel + 1, path =>
    let above := Path.directoryName path
    if above.isEmpty || (Path.baseName path).isEmpty || files.contains above then [path]
    else files.missingAbove fuel above ++ [path]

/-- The tree with directories made where a path leads and above. Every path is longer than the one
above it. -/
def makeDirectories (files : Files) (path : Text) : Except Fault Files :=
  (files.missingAbove path.length path).foldlM makeDirectory files

/-- The places directly below a directory. -/
def childrenOf (files : Files) (place : Place) : List (Text × Entry) :=
  files.entries.filterMap fun (p, entry) =>
    match Path.below? place p with
    | some [name] => some (name, entry)
    | _ => none

/-- How deep the deepest place is. -/
def depth (files : Files) : Nat := files.entries.foldl (fun n e => max n e.1.length) 0

end Files

end HtGate
