import HtGate.Access.Credentials
import HtGate.Cli.Options
import HtGate.Cli.Summary
import HtGate.Report.File
import HtGate.Walker
/-!
# Commands

What a command line does. It evaluates one configuration, or the configurations on the way from a root
down to a target laid over one another, or it reads all configurations below a directory and counts their
warnings.
-/

namespace HtGate.Cli

/-- Where a command runs. -/
structure Context where
  files : Files
  /-- The time of the request. -/
  now : Rat
  /-- The date of the report. -/
  made : Date
  /-- The directory in which reports go to `output` where no other file is named. -/
  home : Text

/-- What a command leaves behind. -/
structure Result where
  exit : Nat
  output : Text
  /-- What goes to the error output. -/
  errors : Text := []
  files : Files

/-- What a command has written so far, and the fault that ended it. -/
structure Progressed where
  output : Text
  files : Files
  fault : Option Fault := none

/-- The text, unless it is empty. -/
def nonEmpty? : Option Text → Option Text
  | none | some [] => none
  | some t => some t

/-- The request that a command line describes, if it names a client. -/
def request? (o : Options) : Option Session :=
  (nonEmpty? o.ip).map fun ip =>
    { clientIp := some ip
      method := some (Text.upper o.method)
      uri := some o.uri
      filename := o.file
      contentType := o.contentType
      authorization := (nonEmpty? o.user).map Credentials.header }

/-- The directives on the way from a root to a target in written form, as a configuration. -/
def gathered (files : Files) (root : Text) (target : Option Text) : Except Fault Config := do
  let place := (nonEmpty? target).getD root
  let merged ← (Walker.walk {} files root place).result
  let content ← Printer.print [] merged
  if content.isEmpty then .error (.nothingFound root target)
  else
    Config.ofText Config.defaultLimit content (Path.absolute files.workingDirectory place).toText
      none 0

/-- The configuration that a command line names. -/
def configOf (files : Files) (o : Options) : Except Fault Config :=
  match nonEmpty? o.docRoot with
  | some root => gathered files root o.targetDir
  | none =>
    match o.config with
    | some path => Config.load Config.defaultLimit files path
    | none => .error .missingPath

/-- The report that a command line asks for. -/
def reportOf (c : Context) (o : Options) : Except Fault Report := do
  let config ← configOf c.files o
  let modules := Modules.ofList (o.modules.getD [])
  Report.make { files := c.files, modules, now := c.now } config (request? o)

/-- Writes a report for a reader. -/
def showReport (c : Context) (o : Options) (r : Report) : Progressed :=
  if !o.tree then { output := Summary.file r ++ Summary.rest r, files := c.files }
  else
    match Printer.print "  ".toList r.parsed.directives with
    | .ok written =>
      { output := Summary.file r ++ Summary.tree written ++ Summary.rest r, files := c.files }
    | .error fault => { output := Summary.file r, files := c.files, fault := some fault }

/-- The name in the file of a report where no other file is named. -/
def reportName (config : Config) : Text :=
  match config.name.dropWhile (· == '.') with
  | [] => "htaccess".toList
  | name => name

/-- The file that a report goes to, and the files with the directory for it. -/
def reportPath (c : Context) (o : Options) (format : Report.Format) (config : Config) :
    Except Fault (Text × Files) :=
  match nonEmpty? o.output with
  | some path => .ok (path, c.files)
  | none =>
    let directory := Path.join c.home "output".toList
    let file := "report_".toList ++ reportName config ++ '_' :: c.made.stampText ++ '.'
      :: format.ending
    (c.files.makeDirectories directory).map fun files => (Path.join directory file, files)

/-- Writes a report to a file. -/
def saveReport (c : Context) (o : Options) (format : Report.Format) (r : Report) : Progressed :=
  let saved := do
    let (path, files) ← reportPath c o format r.config
    let files ← r.write files format c.made path
    return (path, files)
  match saved with
  | .ok (path, files) => { output := lineOf ["  [REPORT] ".toList, path], files }
  | .error fault => { output := [], files := c.files, fault := some fault }

/-- Evaluates a configuration. -/
def evaluate (c : Context) (o : Options) : Progressed :=
  match reportOf c o with
  | .error fault => { output := [], files := c.files, fault := some fault }
  | .ok r =>
    match o.format with
    | .text => showReport c o r
    | .json => saveReport c o .json r
    | .html => saveReport c o .html r

/-- The line about a configuration that was read. -/
def lintLine (config : Config) (p : Parsed) : Text :=
  let warnings := p.diagnostics.length
  lineOf ["  [".toList, (if warnings = 0 then "OK" else "WARN").toList, "] ".toList, config.path,
    ": ".toList, Text.ofNat (Directive.countAll p.directives), " directives, ".toList,
    Text.ofNat warnings, " warnings".toList]

/-- The lines about configurations and the number of their warnings; a fault ends them. -/
def lintLines : List Config → Text × Nat × Option Fault
  | [] => ([], 0, none)
  | config :: more =>
    match parse config.content with
    | .error failure => ([], 0, some failure.fault)
    | .ok p =>
      let (lines, warnings, fault) := lintLines more
      (lintLine config p ++ lines, p.diagnostics.length + warnings, fault)

/-- Reads all configurations below a directory. -/
def lint (c : Context) (directory : Text) : Progressed :=
  match Config.loadBelow Config.defaultLimit c.files directory with
  | .error fault => { output := [], files := c.files, fault := some fault }
  | .ok batch =>
    match lintLines batch.loaded with
    | (lines, _, some fault) => { output := lines, files := c.files, fault := some fault }
    | (lines, warnings, none) =>
      let failures := batch.failures.flatMap fun (file, fault) =>
        lineOf ["  [ERROR] ".toList, file, ": ".toList, fault.message]
      { output := lines ++ failures
          ++ lineOf ["\n  ".toList, Text.ofNat batch.loaded.length, " files, ".toList,
            Text.ofNat warnings, " warnings, ".toList, Text.ofNat batch.failures.length,
            " errors".toList]
        files := c.files }

/-- What a fault is called to the reader. -/
def faultTitle (fault : Fault) : Text :=
  match fault.category with
  | .fileNotFound | .notADirectory => "File Error".toList
  | .value => "Validation Error".toList
  | _ => "Unexpected Error".toList

/-- Does what options ask for. -/
def perform (c : Context) (o : Options) : Result :=
  let done := match nonEmpty? o.configDir with
    | some directory => lint c directory
    | none => evaluate c o
  match done.fault with
  | none => { exit := 0, output := done.output, files := done.files }
  | some fault =>
    { exit := 1
      output := done.output
        ++ lineOf ["\n  [ERROR] ".toList, faultTitle fault, ": ".toList, fault.message]
      files := done.files }

/-- How the command is used. -/
def usage : Text :=
  line "usage: htgate (--config FILE | --config-dir DIR | --doc-root DIR) [options]".toList

/-- Does what a command line asks for. -/
def run (c : Context) (arguments : List Text) : Result :=
  match Options.read arguments with
  | .ok o => perform c o
  | .error .help => { exit := 0, output := usage, files := c.files }
  | .error (.usage error) =>
    { exit := 2
      output := []
      errors := usage ++ lineOf ["htgate: error: ".toList, error.message]
      files := c.files }

end HtGate.Cli
