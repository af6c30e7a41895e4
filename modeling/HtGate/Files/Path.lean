import HtGate.Text.Basic
/-!
# Paths

A path as text is a row of names with slashes between them. Read lexically, without a look at what is
there, it has an absolute form: relative paths start at a given directory, `.` stays, `..` goes up, and
at the root it stays there. A path may be written with exactly two slashes at its start, and keeps
them.
-/

namespace HtGate

/-- An absolute path. -/
structure Path where
  /-- Whether it is written with two slashes at its start. -/
  doubled : Bool := false
  /-- The names from the root on. -/
  parts : List Text
  deriving DecidableEq, Repr

namespace Path

/-- The names in a path, as they are written. -/
def names (t : Text) : List Text := Text.fields (· == '/') t

/-- The name for staying. -/
def here : Text := ".".toList

/-- The name for going up. -/
def up : Text := "..".toList

/-- The place that a name leads to. -/
def follow (place : List Text) (name : Text) : List Text :=
  if name == here then place else if name == up then place.dropLast else place ++ [name]

/-- Whether a path starts at the root. -/
def isAbsolute (t : Text) : Bool := t.head? == some '/'

/-- Whether a path is written with exactly two slashes at its start. -/
def startsDoubled : Text → Bool
  | '/' :: '/' :: rest => rest.head? != some '/'
  | _ => false

/-- The absolute form of a path that starts at the directory `base` if it is relative. -/
def absolute (base : List Text) (t : Text) : Path :=
  if isAbsolute t then ⟨startsDoubled t, (names t).foldl follow []⟩
  else ⟨false, (names t).foldl follow base⟩

/-- How an absolute path is written. -/
def toText (p : Path) : Text :=
  (if p.doubled then "//" else "/").toList ++ Text.joinWith ['/'] p.parts

/-- The path of a name in a directory. -/
def join (directory name : Text) : Text :=
  if isAbsolute name then name
  else if directory.isEmpty || directory.getLast? == some '/' then directory ++ name
  else directory ++ '/' :: name

/-- The part after the last slash. -/
def baseName (t : Text) : Text :=
  match Text.cutLast '/' t with
  | some (_, after) => after
  | none => t

/-- The part before the last slash, without the slashes at its end unless there is nothing else. -/
def directoryName (t : Text) : Text :=
  match Text.cutLast '/' t with
  | none => []
  | some (before, _) =>
    let head := before ++ ['/']
    if head.all (· == '/') then head else Text.dropTrailing (· == '/') head

/-- The ending of a file name: from the last point on, unless only points stand before it. -/
def extension (t : Text) : Text :=
  match Text.cutLast '.' ((baseName t).dropWhile (· == '.')) with
  | some (_, after) => '.' :: after
  | none => []

/-- The directories on the way down from one directory, each the path of the one before and a name. -/
def descend (directory : Text) : List Text → List Text
  | [] => [directory]
  | name :: more => directory :: descend (join directory name) more

/-- What follows `start` in a list that begins with it. -/
def below? : List Text → List Text → Option (List Text)
  | [], rest => some rest
  | _ :: _, [] => none
  | a :: start, b :: rest => if a == b then below? start rest else none

/-- The directories from a root down to a target, both included; none if the target is not below the
root. -/
def chain (base : List Text) (root target : Text) : List Text :=
  let top := absolute base root
  match below? top.parts (absolute base target).parts with
  | none => []
  | some names => descend top.toText names

end Path

end HtGate
