import HtGate.Cli.Run
/-!
# What a command looks at

The paths that a command line refers to: those of configurations, the directory that is read as a whole,
where a report goes, and the files of users that configurations name.
-/

namespace HtGate.Cli

/-- The paths of the single configurations that a command line asks for. -/
def configPaths (base : Place) (o : Options) : List Text :=
  match nonEmpty? o.docRoot with
  | some root =>
    (Path.chain base root ((nonEmpty? o.targetDir).getD root)).map fun directory =>
      Path.join directory Walker.defaultFilename
  | none => o.config.toList

/-- The path that a report goes to, or the directory where it goes if no file is named. -/
def outputPath (home : Text) (o : Options) : Text :=
  (nonEmpty? o.output).getD (Path.join home "output".toList)

mutual

/-- The files of users that a directive names. -/
def userFilesOf : Directive → List Text
  | .rule _ r => if r.kind == .authUserFile then r.value.toList else []
  | .block _ _ children => userFiles children

/-- The files of users that directives name. -/
def userFiles : List Directive → List Text
  | [] => []
  | d :: ds => userFilesOf d ++ userFiles ds

end

/-- The files of users that the configuration at a path names. -/
def userFilesAt (files : Files) (path : Text) : List Text :=
  match Config.load Config.defaultLimit files path with
  | .error _ => []
  | .ok config =>
    match parse config.content with
    | .error _ => []
    | .ok p => userFiles p.directives

/-- The files that are there after a command and were not there, or were others, before. -/
def changed (before after : Files) : List (Place × Entry) :=
  after.entries.filter fun (place, entry) => before.entryAt place != some entry

end HtGate.Cli
