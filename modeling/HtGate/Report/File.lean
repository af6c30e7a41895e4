import HtGate.Json.Writer
import HtGate.Report.Html
/-!
# Report files

A report is written to a file in one of two formats. The directories above the file are made where they
are missing.
-/

namespace HtGate.Report

/-- The formats of report files. -/
inductive Format where
  | json
  | html
  deriving DecidableEq, Repr

namespace Format

/-- The ending of a file in a format. -/
def ending : Format → Text
  | json => "json".toList
  | html => "html".toList

end Format

/-- A value with an element or member on each line. A number that is too long has no written form. -/
def jsonText (j : Json) : Except Fault Text :=
  if Text.maxDigits < j.widestNumber then .error .numberTooLong else .ok (j.indented 0)

/-- The path of the directory that a report at a path goes to. -/
def directoryOf (path : Text) : Text :=
  match Path.directoryName path with
  | [] => Path.here
  | directory => directory

/-- The files with an empty file at a path and the directories above it. -/
def prepare (files : Files) (path : Text) : Except Fault Files :=
  (files.makeDirectories (directoryOf path)).bind fun files => files.write path []

/-- The files with a report written to a path. -/
def write (files : Files) (format : Format) (made : Date) (path : Text) (r : Report) :
    Except Fault Files :=
  match format with
  | .json => do
    let j ← r.toJson made
    let files ← prepare files path
    let t ← jsonText j
    files.write path (Utf8.encode t)
  | .html => do
    let page ← r.toHtml made
    let files ← prepare files path
    files.write path (Utf8.encode page)

end HtGate.Report
