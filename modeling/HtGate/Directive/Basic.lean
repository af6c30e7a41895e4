import HtGate.Directive.Kind
/-!
# Directives

A directive is a rule on a line or a block of directives. What a rule says beyond its kind, its name
and its value stands in its details. Two configurations are equivalent if they differ in nothing but
line numbers.
-/

namespace HtGate

/-- Switched features: `1` switches on, `-1` switches off, `0` leaves alone. -/
structure OptionFlags where
  indexes : Int := 0
  followSymlinks : Int := 0
  multiviews : Int := 0
  execCgi : Int := 0
  deriving DecidableEq, Repr

/-- The settings of the protection against guessed passwords that one directive carries. Only the one
that its kind names has a meaning. -/
structure GuardValues where
  enabled : Bool := false
  allowedAttempts : Int := 0
  windowSeconds : Int := 0
  action : Text := "block".toList
  throttleMillis : Int := 0
  deriving DecidableEq, Repr

namespace AccessOrder

/-- Deny rules win: a host is let in if an Allow rule names it and no Deny rule does. -/
def allowDeny : Text := "allow,deny".toList

/-- Allow rules win: a host is kept out if a Deny rule names it and no Allow rule does. -/
def denyAllow : Text := "deny,allow".toList

end AccessOrder

/-- What a rule says beyond its name and value. -/
inductive Detail where
  /-- Nothing. -/
  | none
  /-- Which rules win. -/
  | order (order : Text)
  /-- The status of a redirect and, where paths are matched, the pattern. -/
  | redirect (status : Int) (pattern : Option Text)
  /-- The status that a document is for. -/
  | errorDocument (code : Int)
  /-- Whether lifetimes are on, and a lifetime. -/
  | expires (active : Bool) (seconds : Int)
  /-- What is matched, and against which pattern. -/
  | envIf (subject pattern : Text)
  /-- A setting of the protection against guessed passwords. -/
  | guard (values : GuardValues)
  /-- Switched features. -/
  | options (flags : OptionFlags)
  deriving DecidableEq, Repr

/-- What a directive on a line of its own says. -/
structure Rule where
  kind : Kind
  name : Option Text := none
  value : Option Text := none
  detail : Detail := .none
  deriving DecidableEq, Repr

/-- What the opening tag of a block says. -/
structure BlockHead where
  kind : BlockKind
  name : Option Text := none
  value : Option Text := none
  pattern : Option Text := none
  negated : Bool := false
  methods : Option Text := none
  deriving DecidableEq, Repr

/-- A directive with the number of the line it starts on. -/
inductive Directive where
  | rule (line : Int) (rule : Rule)
  | block (line : Int) (head : BlockHead) (children : List Directive)
  deriving Repr

instance : Inhabited Directive := ⟨.rule 0 { kind := .order }⟩

namespace Directive

/-- The line a directive starts on. -/
def line : Directive → Int
  | rule line _ => line
  | block line _ _ => line

/-- The directives inside. -/
def children : Directive → List Directive
  | rule _ _ => []
  | block _ _ children => children

/-- The name of the kind. -/
def kindName : Directive → Text
  | rule _ r => r.kind.name
  | block _ head _ => head.kind.name

/-- The name it carries. -/
def name : Directive → Option Text
  | rule _ r => r.name
  | block _ head _ => head.name

/-- The value it carries. -/
def value : Directive → Option Text
  | rule _ r => r.value
  | block _ head _ => head.value

/-- The kind of a rule; a block has none. -/
def ruleKind? : Directive → Option Kind
  | rule _ r => some r.kind
  | block _ _ _ => none

mutual

/-- Whether two directives are the same, lines included. -/
def same : Directive → Directive → Bool
  | rule l r, rule l' r' => l == l' && r == r'
  | block l h cs, block l' h' cs' => l == l' && h == h' && sameAll cs cs'
  | _, _ => false

/-- Whether two sequences of directives are the same. -/
def sameAll : List Directive → List Directive → Bool
  | [], [] => true
  | d :: ds, e :: es => same d e && sameAll ds es
  | _, _ => false

end

mutual

/-- The directive with every line number replaced by zero. -/
def withoutLines : Directive → Directive
  | rule _ r => rule 0 r
  | block _ head children => block 0 head (withoutLinesAll children)

/-- The directives with every line number replaced by zero. -/
def withoutLinesAll : List Directive → List Directive
  | [] => []
  | d :: ds => withoutLines d :: withoutLinesAll ds

end

mutual

/-- How many directives a directive is made of, itself included. -/
def count : Directive → Nat
  | rule _ _ => 1
  | block _ _ children => 1 + countAll children

/-- How many directives a sequence is made of, those inside blocks included. -/
def countAll : List Directive → Nat
  | [] => 0
  | d :: ds => count d + countAll ds

end

/-- Whether two configurations differ in nothing but line numbers. -/
def equivalent (a b : List Directive) : Bool := sameAll (withoutLinesAll a) (withoutLinesAll b)

end Directive

end HtGate
