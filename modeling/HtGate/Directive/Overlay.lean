import HtGate.Directive.Basic
/-!
# Laying configurations over one another

A directive of a deeper directory takes the place of the one that says the same thing further up; all
others are added after those. What two directives have to share is the override key.
-/

namespace HtGate

/-- What a directive is about, so that another directive about the same replaces it. -/
inductive OverrideKey where
  /-- The thing of that name. -/
  | named (kind : Kind) (name : Text)
  /-- The one setting of its kind. -/
  | only (kind : Kind)
  /-- The document for a status. -/
  | status (code : Int)
  /-- The hosts that are let in or kept out. -/
  | hosts (kind : Kind) (value : Option Text)
  /-- The paths that match a pattern. -/
  | paths (pattern : Option Text)
  /-- The files that match a pattern. -/
  | files (pattern : Option Text)
  /-- A variable set under a condition. -/
  | variable (kind : Kind) (name : Option Text) (pattern : Text)
  deriving DecidableEq, Repr

namespace OverrideKey

/-- Whether rules of the kind are told apart by their names. -/
def isNamed : Kind → Bool
  | .header _ _ | .requestHeaderSet | .requestHeaderUnset | .phpValue _ | .phpFlag _ | .setEnv
  | .expiresByType | .redirect => true
  | _ => false

/-- Whether a directory has one rule of the kind. -/
def isSingle : Kind → Bool
  | .order | .expiresActive | .guard .protection | .guard .allowedAttempts | .guard .window
  | .guard .action | .guard .throttleDuration => true
  | _ => false

/-- The override key of a rule. -/
def ofRule (r : Rule) : Option OverrideKey :=
  if isNamed r.kind then r.name.map (named r.kind)
  else if isSingle r.kind then some (only r.kind)
  else
    match r.kind, r.detail with
    | .errorDocument, .errorDocument code => some (status code)
    | .allowFrom, _ => some (hosts .allowFrom r.value)
    | .denyFrom, _ => some (hosts .denyFrom r.value)
    | .redirectMatch, .redirect _ pattern => some (paths pattern)
    | .setEnvIf, .envIf _ pattern => some (OverrideKey.variable .setEnvIf r.name pattern)
    | .browserMatch, .envIf _ pattern => some (OverrideKey.variable .browserMatch r.name pattern)
    | _, _ => none

end OverrideKey

namespace Directive

/-- What a directive is about; `none` if nothing replaces it. -/
def overrideKey : Directive → Option OverrideKey
  | rule _ r => OverrideKey.ofRule r
  | block _ head _ => if head.kind = .filesMatch then some (.files head.pattern) else none

end Directive

namespace Overlay

/-- The directives with `d` in the place of the first one with its key, or at the end. -/
def place (key : OverrideKey) (d : Directive) : List Directive → List Directive
  | [] => [d]
  | e :: more => if e.overrideKey == some key then d :: more else e :: place key d more

/-- Lays one directive over others. -/
def add (below : List Directive) (d : Directive) : List Directive :=
  match d.overrideKey with
  | some key => place key d below
  | none => below ++ [d]

/-- Lays the directives of a directory over those from further up. -/
def merge (below above : List Directive) : List Directive := above.foldl add below

/-- Lays configurations over one another, the first at the bottom. -/
def mergeAll (layers : List (List Directive)) : List Directive := layers.foldl merge []

end Overlay

end HtGate
