import HtGate.Access.Decision
import HtGate.Pattern.Matcher
import HtGate.Pattern.Parser
/-!
# Selection

Which directives apply to a request. A conditional block stands for its children if its condition holds,
and for nothing if it does not. Require nodes stay as they are, with everything inside.
-/

namespace HtGate

/-- The modules that are loaded, or `none` if all are. -/
abbrev Modules := Option (List Text)

namespace Modules

/-- The text without an ending, if it has it. -/
def withoutEnding? (ending t : Text) : Option Text :=
  (Text.dropPrefix? t.reverse ending.reverse).map List.reverse

/-- The one name for all spellings of a module's name: case, the ending `.c`, and whether `mod_` stands
before it or `_module` after it make no difference. -/
def key (name : Text) : Text :=
  let name := Text.lower (Text.trim name)
  let name := (withoutEnding? ".c".toList name).getD name
  match withoutEnding? "_module".toList name with
  | some stem => "mod_".toList ++ stem
  | none => name

/-- The modules in a list with commas between them; an empty text stands for all. -/
def ofList : Text → Modules
  | [] => none
  | list => some (((Text.splitOn (· == ',') list).map Text.trim).filter fun name => !name.isEmpty)

/-- Whether a module is loaded. -/
def loaded (modules : Modules) (name : Text) : Bool :=
  match modules with
  | none => true
  | some names => (names.map key).contains (key name)

end Modules

namespace Condition

/-- What comes out about a condition. -/
inductive Finding where
  | holds
  | fails
  /-- The pattern cannot be read, so the condition does not hold. -/
  | malformedPattern (pattern : Text)
  deriving DecidableEq, Repr

/-- A truth value as a finding. -/
def Finding.ofBool (b : Bool) : Finding := if b then .holds else .fails

/-- Whether the requested file's name matches a pattern. -/
def matchesName (pattern : Option Text) (filename : Option Text) : Except Fault Finding :=
  match filename, pattern with
  | none, _ => .ok .fails
  | some _, none => .error .missingText
  | some name, some pattern =>
    match Pattern.parse pattern with
    | .error .malformed => .ok (.malformedPattern pattern)
    | .error (.fault cause) => .error cause
    | .ok expression => .ok (.ofBool (expression.search name))

/-- Whether a module is loaded or, where negated, is not. A negated name has a mark before it. -/
def moduleHolds (modules : Modules) (name : Option Text) (negated : Bool) : Except Fault Bool :=
  match name with
  | some name =>
    .ok (Modules.loaded modules (if negated then name.drop 1 else name) != negated)
  | none =>
    if negated then .error .missingText
    else if modules.isSome then .error .missingDetail else .ok true

/-- Whether the request's method is in a list. -/
def methodListed (methods : Option Text) (method : Option Text) : Bool :=
  ((Text.items (methods.getD [])).map Text.upper).contains (Text.upper (method.getD []))

/-- Whether the condition of a block holds for a session. -/
def check (modules : Modules) (s : Session) (head : BlockHead) : Except Fault Finding :=
  match head.kind with
  | .files => .ok (.ofBool (s.filename.isSome && s.filename == head.name))
  | .filesMatch => matchesName head.pattern s.filename
  | .ifModule => (moduleHolds modules head.name head.negated).map .ofBool
  | .limit => .ok (.ofBool (methodListed head.methods s.method))
  | .limitExcept => .ok (.ofBool !(methodListed head.methods s.method))
  | .requireAny | .requireAll => .ok .fails

/-- Whether a block applies to a session. -/
def applies (modules : Modules) (s : Session) (head : BlockHead) : Except Fault Bool :=
  (check modules s head).map (· == .holds)

end Condition

namespace Selection

mutual

/-- What a directive stands for in a session. -/
def ofDirective (modules : Modules) (s : Session) : Directive → Except Fault (List Directive)
  | .rule line r => .ok [.rule line r]
  | .block line head children =>
    if head.kind.isRequire then .ok [.block line head children]
    else
      match Condition.applies modules s head with
      | .error fault => .error fault
      | .ok true => select modules s children
      | .ok false => .ok []

/-- The directives of a sequence that apply to a session. -/
def select (modules : Modules) (s : Session) : List Directive → Except Fault (List Directive)
  | [] => .ok []
  | d :: ds =>
    match ofDirective modules s d with
    | .error fault => .error fault
    | .ok first =>
      match select modules s ds with
      | .error fault => .error fault
      | .ok rest => .ok (first ++ rest)

end

/-- The record of a block that does not apply. -/
def skipped (source : Text) (line : Int) (head : BlockHead) : Log.Record :=
  ⟨.debug, source,
    "Skipping <".toList ++ head.kind.name ++ "> block at line ".toList ++ Text.ofInt line⟩

/-- The record of a pattern that cannot be read. -/
def malformed (source : Text) (line : Int) (pattern : Text) : Log.Record :=
  ⟨.warning, source,
    "Invalid FilesMatch pattern ".toList ++ Text.quoted pattern ++ " at line ".toList
      ++ Text.ofInt line⟩

mutual

/-- What the selection of a directive writes to the log. -/
def recordsOf (source : Text) (modules : Modules) (s : Session) : Directive → List Log.Record
  | .rule _ _ => []
  | .block line head children =>
    if head.kind.isRequire then []
    else
      match Condition.check modules s head with
      | .error _ => []
      | .ok .holds => records source modules s children
      | .ok .fails => [skipped source line head]
      | .ok (.malformedPattern pattern) =>
        [malformed source line pattern, skipped source line head]

/-- What a selection writes to the log, up to the directive that ends it with a fault. -/
def records (source : Text) (modules : Modules) (s : Session) :
    List Directive → List Log.Record
  | [] => []
  | d :: ds =>
    recordsOf source modules s d
      ++ if (ofDirective modules s d).isOk then records source modules s ds else []

end

/-- Selects, and says what was passed over. -/
def evaluate (source : Text) (modules : Modules) (ds : List Directive) (s : Session) :
    Outcome (List Directive) :=
  ⟨select modules s ds, s, records source modules s ds⟩

end Selection

end HtGate
