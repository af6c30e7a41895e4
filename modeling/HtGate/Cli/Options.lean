import HtGate.Text.Digit
import HtGate.Text.Quoted
/-!
# Options of the command line

A command line is read word by word. An option is known by its spelling, a long one also by any start of
it that no other option shares. A value stands in the next word, after an equals sign, or directly after
a short option; short options without a value may be written together. Exactly one option has to name
what is evaluated.
-/

namespace HtGate.Cli

/-- What an option with a value sets. -/
inductive Setting where
  | config
  | configDir
  | docRoot
  | targetDir
  | ip
  | method
  | uri
  | file
  | contentType
  | user
  | modules
  | output
  | format
  deriving DecidableEq, Repr

namespace Setting

/-- Whether it names what is evaluated. -/
def isSource : Setting → Bool
  | config | configDir | docRoot => true
  | _ => false

end Setting

/-- What an option does. -/
inductive Flag where
  | set (setting : Setting)
  | tree
  | verbose
  | help
  deriving DecidableEq, Repr

/-- The options by their spellings. -/
def flags : List (Text × Flag) :=
  [("-h".toList, .help), ("--help".toList, .help), ("--config".toList, .set .config),
    ("-c".toList, .set .config), ("--config-dir".toList, .set .configDir),
    ("--doc-root".toList, .set .docRoot), ("--target-dir".toList, .set .targetDir),
    ("--ip".toList, .set .ip), ("--method".toList, .set .method), ("-m".toList, .set .method),
    ("--uri".toList, .set .uri), ("--file".toList, .set .file),
    ("--content-type".toList, .set .contentType), ("--user".toList, .set .user),
    ("-u".toList, .set .user), ("--modules".toList, .set .modules), ("--tree".toList, .tree),
    ("--output".toList, .set .output), ("-o".toList, .set .output),
    ("--format".toList, .set .format), ("-f".toList, .set .format),
    ("--verbose".toList, .verbose), ("-v".toList, .verbose)]

/-- The option with a spelling. -/
def flag? (spelling : Text) : Option Flag := (flags.find? (·.1 == spelling)).map (·.2)

/-- The forms in which the outcome is written. -/
inductive Format where
  | text
  | json
  | html
  deriving DecidableEq, Repr

/-- The form with a name. -/
def Format.ofName? (name : Text) : Option Format :=
  if name == "text".toList then some text
  else if name == "json".toList then some json
  else if name == "html".toList then some html
  else none

/-- Why a command line cannot be read. -/
inductive UsageError where
  /-- The start of a spelling is shared by several options. -/
  | ambiguous (word : Text) (candidates : List Text)
  /-- An option without a value is given one. -/
  | unexpectedValue (value : Text)
  /-- An option with a value is given none. -/
  | missingValue (option : Text)
  /-- There is no such format. -/
  | unknownFormat (name : Text)
  /-- Two options name what is evaluated. -/
  | conflict (option : Text)
  /-- No option names what is evaluated. -/
  | missingSource
  /-- Words that are no options and no values. -/
  | unrecognized (words : List Text)
  deriving DecidableEq, Repr

namespace UsageError

/-- The wording of an error. -/
def message : UsageError → Text
  | ambiguous word candidates =>
    "ambiguous option: ".toList ++ word ++ " could match ".toList
      ++ Text.joinWith ", ".toList candidates
  | unexpectedValue value => "ignored explicit argument ".toList ++ Text.quoted value
  | missingValue option => "argument ".toList ++ option ++ ": expected one argument".toList
  | unknownFormat name => "argument --format: invalid choice: ".toList ++ Text.quoted name
  | conflict option =>
    "argument ".toList ++ option ++ ": not allowed with another configuration source".toList
  | missingSource =>
    "one of the arguments --config --config-dir --doc-root is required".toList
  | unrecognized words => "unrecognized arguments: ".toList ++ Text.joinWith [' '] words

end UsageError

/-- What ends the reading of a command line early. -/
inductive Stop where
  /-- Help is asked for. -/
  | help
  | usage (error : UsageError)
  deriving DecidableEq, Repr

/-- What a command line asks for. -/
structure Options where
  config : Option Text := none
  configDir : Option Text := none
  docRoot : Option Text := none
  targetDir : Option Text := none
  ip : Option Text := none
  method : Text := "GET".toList
  uri : Text := "/".toList
  file : Option Text := none
  contentType : Option Text := none
  user : Option Text := none
  modules : Option Text := none
  output : Option Text := none
  format : Format := .text
  tree : Bool := false
  verbose : Bool := false
  deriving DecidableEq, Repr

/-- A value that is written together with its option. -/
structure Attached where
  afterEquals : Bool
  value : Text
  deriving DecidableEq, Repr

/-- What a word on a command line is. -/
inductive Word where
  /-- An option. -/
  | option (flag : Flag) (spelling : Text) (attached : Option Attached)
  /-- What looks like an option and is none. -/
  | unknown (word : Text)
  /-- A value. -/
  | plain (word : Text)
  /-- The mark after which there are only values. -/
  | separator
  deriving DecidableEq, Repr

namespace Word

/-- Whether a text is written like a negative number. -/
def isNegativeNumber (t : Text) : Bool :=
  match t with
  | '-' :: t =>
    let t := if t.getLast? == some '\n' then t.dropLast else t
    match t.dropWhile Text.isDecimal with
    | [] => !t.isEmpty
    | '.' :: decimals => !decimals.isEmpty && decimals.all Text.isDecimal
    | _ => false
  | _ => false

/-- What a word is that begins no option's spelling. -/
def ofUnknown (t : Text) : Word :=
  if isNegativeNumber t || t.contains ' ' then plain t else unknown t

/-- What a word is that begins with two dashes and is no spelling. -/
def ofLong (t : Text) : Except Stop Word :=
  let (start, value) := Text.cut '=' t
  match flags.filter fun f => start.isPrefixOf f.1 with
  | [] => .ok (ofUnknown t)
  | [(spelling, flag)] => .ok (option flag spelling (value.map (⟨true, ·⟩)))
  | several => .error (.usage (.ambiguous t (several.map (·.1))))

/-- What a word is that begins with one dash, a character `c` and `rest`, and is no spelling. -/
def ofShort (c : Char) (rest : Text) : Word :=
  match flag? ['-', c] with
  | some flag => option flag ['-', c] (some ⟨false, rest⟩)
  | none => ofUnknown ('-' :: c :: rest)

/-- The option of a word that is a spelling, an equals sign and a value. -/
def withEquals? (t : Text) : Option Word :=
  match Text.cut '=' t with
  | (start, some value) => (flag? start).map fun flag => option flag start (some ⟨true, value⟩)
  | (_, none) => none

/-- What a word is. -/
def ofText (t : Text) : Except Stop Word :=
  match t with
  | '-' :: c :: rest =>
    match flag? t with
    | some flag => .ok (option flag t none)
    | none =>
      match withEquals? t with
      | some word => .ok word
      | none => if c == '-' then ofLong t else .ok (ofShort c rest)
  | _ => .ok (plain t)

/-- What the words of a command line are. -/
def ofTexts : List Text → Except Stop (List Word)
  | [] => .ok []
  | t :: ts =>
    if t == "--".toList then .ok (separator :: ts.map plain)
    else
      match ofText t with
      | .error stop => .error stop
      | .ok word => (ofTexts ts).map (word :: ·)

end Word

/-- What a word with options does. -/
structure Actions where
  /-- The options without a value. -/
  switches : List Flag := []
  /-- The option with a value, its spelling, and the value unless that is the next word. -/
  setting : Option (Setting × Text × Option Text) := none
  /-- What is no option. -/
  extra : Option Text := none
  deriving DecidableEq, Repr

namespace Actions

/-- What short options that are written together do, from the one after an option without a value on. -/
def ofTail : Text → Except Stop Actions
  | [] => .error (.usage (.unexpectedValue []))
  | c :: rest =>
    if c == '-' then .error (.usage (.unexpectedValue (c :: rest)))
    else
      match flag? ['-', c] with
      | none => .ok { extra := some ('-' :: c :: rest) }
      | some (.set setting) =>
        match rest with
        | [] => .ok { setting := some (setting, ['-', c], none) }
        | '=' :: value => .ok { setting := some (setting, ['-', c], some value) }
        | value => .ok { setting := some (setting, ['-', c], some value) }
      | some switch =>
        match rest with
        | [] => .ok { switches := [switch] }
        | '=' :: value => .error (.usage (.unexpectedValue value))
        | d :: more =>
          (ofTail (d :: more)).map fun a => { a with switches := switch :: a.switches }

/-- What an option does. -/
def ofOption (flag : Flag) (spelling : Text) (attached : Option Attached) : Except Stop Actions :=
  match flag, attached with
  | .set setting, none => .ok { setting := some (setting, spelling, none) }
  | .set setting, some a => .ok { setting := some (setting, spelling, some a.value) }
  | switch, none => .ok { switches := [switch] }
  | switch, some a =>
    if a.afterEquals || spelling.take 2 == "--".toList then
      .error (.usage (.unexpectedValue a.value))
    else (ofTail a.value).map fun b => { b with switches := switch :: b.switches }

end Actions

/-- A reading in progress. -/
structure Progress where
  options : Options := {}
  /-- The settings so far that name what is evaluated. -/
  sources : List Setting := []
  /-- The words so far that are no options and no values. -/
  extras : List Text := []
  deriving DecidableEq, Repr

namespace Progress

/-- Takes up a word that is no option and no value. -/
def addExtra (r : Progress) (word : Text) : Progress := { r with extras := r.extras ++ [word] }

/-- Takes up options without a value. -/
def switch (r : Progress) : List Flag → Except Stop Progress
  | [] => .ok r
  | .tree :: more => switch { r with options := { r.options with tree := true } } more
  | .verbose :: more => switch { r with options := { r.options with verbose := true } } more
  | .help :: _ => .error .help
  | .set _ :: more => switch r more

/-- The options with a value set. -/
def store (o : Options) (setting : Setting) (value : Text) : Except Stop Options :=
  match setting with
  | .config => .ok { o with config := some value }
  | .configDir => .ok { o with configDir := some value }
  | .docRoot => .ok { o with docRoot := some value }
  | .targetDir => .ok { o with targetDir := some value }
  | .ip => .ok { o with ip := some value }
  | .method => .ok { o with method := value }
  | .uri => .ok { o with uri := value }
  | .file => .ok { o with file := some value }
  | .contentType => .ok { o with contentType := some value }
  | .user => .ok { o with user := some value }
  | .modules => .ok { o with modules := some value }
  | .output => .ok { o with output := some value }
  | .format =>
    match Format.ofName? value with
    | some format => .ok { o with format }
    | none => .error (.usage (.unknownFormat value))

/-- Takes up an option with a value. -/
def set (r : Progress) (setting : Setting) (spelling value : Text) : Except Stop Progress :=
  match store r.options setting value with
  | .error stop => .error stop
  | .ok options =>
    if !setting.isSource then .ok { r with options }
    else if r.sources.any (· != setting) then .error (.usage (.conflict spelling))
    else .ok { r with options, sources := setting :: r.sources }

/-- Takes up the extra part of a word. -/
def addExtra? (r : Progress) : Option Text → Progress
  | none => r
  | some word => r.addExtra word

/-- Takes up words. -/
def run (r : Progress) : List Word → Except Stop Progress
  | [] => .ok r
  | .plain word :: more => run (r.addExtra word) more
  | .unknown word :: more => run (r.addExtra word) more
  | .separator :: more => run (r.addExtra "--".toList) more
  | .option flag spelling attached :: more =>
    match Actions.ofOption flag spelling attached with
    | .error stop => .error stop
    | .ok actions =>
      match actions.setting, more with
      | none, more =>
        match r.switch actions.switches with
        | .error stop => .error stop
        | .ok r => run (r.addExtra? actions.extra) more
      | some (setting, name, some value), more =>
        match (r.switch actions.switches).bind fun r => r.set setting name value with
        | .error stop => .error stop
        | .ok r => run r more
      | some (setting, name, none), .plain value :: more =>
        match (r.switch actions.switches).bind fun r => r.set setting name value with
        | .error stop => .error stop
        | .ok r => run r more
      | some (_, name, none), _ => .error (.usage (.missingValue name))

end Progress

/-- Reads a command line. -/
def Options.read (arguments : List Text) : Except Stop Options :=
  match (Word.ofTexts arguments).bind fun words => Progress.run {} words with
  | .error stop => .error stop
  | .ok r =>
    if r.sources.isEmpty then .error (.usage .missingSource)
    else if r.extras.isEmpty then .ok r.options
    else .error (.usage (.unrecognized r.extras))

end HtGate.Cli
