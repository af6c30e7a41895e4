import HtGate.Pattern.Folding
/-!
# Resolved patterns

A pattern as it is matched: the switches have been put into the conditions on characters and positions,
groups that are not remembered have been dissolved, and what can be known about the next character is
known.
-/

namespace HtGate.Pattern

/-- A part that stands for one character. -/
structure Single where
  test : Char → Bool
  /-- Whether a run of them notes where it ends. -/
  notes : Bool

/-- What is known about the character that comes next. -/
inductive Next where
  /-- It is this one. -/
  | char (code : Nat)
  /-- It satisfies a condition. -/
  | among (test : Char → Bool)
  /-- Nothing is known. -/
  | other

/-- A part of a resolved pattern. A part within a repetition that may be cut short is `looped`. -/
inductive Node where
  /-- One character. -/
  | one (test : Char → Bool)
  /-- A position. -/
  | anchor (position : Anchor) (multiline ascii : Bool)
  /-- A group that is remembered. -/
  | group (index : Nat) (body : List Node)
  /-- The first way to match the body, and no other. -/
  | atomic (body : List Node)
  /-- What begins so many characters before matches the body, or does not. -/
  | look (back : Nat) (negated looped : Bool) (body : List Node)
  /-- What a group matched, once more. -/
  | reference (index : Nat) (same : Char → Char → Bool)
  /-- Some parts if a group has matched, others if not. -/
  | conditional (index : Nat) (yes no : List Node)
  /-- One of several alternatives, with what is known about how each begins. -/
  | choice (looped : Bool) (alternatives : List (Next × List Node))
  /-- One character several times, and what is known about what follows. -/
  | repeated (greed : Greed) (least : Nat) (most : Option Nat) (looped : Bool) (c : Single)
    (next : Next)
  /-- Several times. -/
  | repetition (greed : Greed) (least : Nat) (most : Option Nat) (looped : Bool) (body : List Node)

/-- A character of a pattern, or any other character. -/
def singleChar (f : Flags) (negated : Bool) (code : Nat) : Single :=
  if isFoldedChar f code then
    let forms := foldGroup f.ascii (foldCode f.ascii code)
    ⟨fun c => forms.contains (foldCode f.ascii c.toNat) != negated, 1 < forms.length⟩
  else ⟨fun c => (c.toNat == code) != negated, false⟩

/-- A member of a set, or of its complement. -/
def singleSet (f : Flags) (negated : Bool) (items : List SetItem) : Single :=
  if isFoldedSet f items then
    ⟨fun c => items.any (·.containsFolded f.ascii (foldCode f.ascii c.toNat)) != negated, true⟩
  else ⟨fun c => items.any (·.contains f.ascii c) != negated, false⟩

mutual

/-- The character a part stands for, if it stands for one. -/
def single? (f : Flags) : Pattern → Option Single
  | char code => some (singleChar f false code)
  | notChar code => some (singleChar f true code)
  | set negated items => some (singleSet f negated items)
  | any => some ⟨fun c => f.dotAll || c != '\n', false⟩
  | group none add remove body => onlySingle? (f.within add remove) body
  | _ => none

/-- The character that a list of one part stands for. -/
def onlySingle? (f : Flags) : List Pattern → Option Single
  | [] => none
  | p :: more => if more.isEmpty then single? f p else none

end

mutual

/-- What is known about how a part begins, if `after` is known about what follows. -/
def beginning (f : Flags) (after : Next) : Pattern → Next
  | char code => if isFoldedChar f code then .other else .char code
  | set negated items => if isFoldedSet f items then .other else .among (singleSet f negated items).test
  | group none add remove body => beginningOfAll (f.within add remove) after body
  | _ => .other

/-- What is known about how parts one after another begin. -/
def beginningOfAll (f : Flags) (after : Next) : List Pattern → Next
  | [] => after
  | p :: more => beginning f (beginningOfAll f after more) p

end

mutual

/-- Resolves a part, if `after` is known about what follows. -/
def resolve (f : Flags) (looped : Bool) (after : Next) : Pattern → List Node
  | char code => [.one (singleChar f false code).test]
  | notChar code => [.one (singleChar f true code).test]
  | set negated items => [.one (singleSet f negated items).test]
  | any => [.one fun c => f.dotAll || c != '\n']
  | anchor position => [.anchor position f.multiline f.ascii]
  | group none add remove body => resolveAll (f.within add remove) looped after body
  | group (some index) add remove body =>
    [.group index (resolveAll (f.within add remove) looped .other body)]
  | atomic body => [.atomic (resolveAll f looped .other body)]
  | look behind negated body =>
    [.look ((behind.map (·.1)).getD 0) negated looped (resolveAll f looped .other body)]
  | reference index => [.reference index (sameChar f)]
  | conditional index yes no =>
    [.conditional index (resolveAll f looped (if no.isEmpty then after else .other) yes)
      (resolveAll f looped after no)]
  | choice alternatives => [.choice looped (resolveEach f looped alternatives)]
  | repetition greed least most body =>
    match onlySingle? f body with
    | some c => [.repeated greed least most looped c after]
    | none =>
      [.repetition greed least most looped
        (resolveAll f (looped || greed != .possessive) .other body)]

/-- Resolves parts one after another. -/
def resolveAll (f : Flags) (looped : Bool) (after : Next) : List Pattern → List Node
  | [] => []
  | p :: more =>
    resolve f looped (beginningOfAll f after more) p ++ resolveAll f looped after more

/-- Resolves alternatives. -/
def resolveEach (f : Flags) (looped : Bool) : List (List Pattern) → List (Next × List Node)
  | [] => []
  | parts :: more =>
    (beginningOfAll f .other parts, resolveAll f looped .other parts) :: resolveEach f looped more

end

/-- Whether a member of a set says in which case a character has to be. -/
def SetItem.isPlain (f : Flags) : SetItem → Bool
  | char code => !isFoldedChar f code
  | item => !(f.ignoreCase && item.isCased f.ascii)

mutual

/-- Whether it is not known which characters a part can begin with. -/
def isOpen (f : Flags) : Pattern → Bool
  | char code => isFoldedChar f code
  | set _ items => !items.all (·.isPlain f)
  | group _ add remove body => areOpen (f.within add remove) body
  | choice alternatives => !alternatives.all fun
    | char code :: _ => !isFoldedChar f code
    | _ => false
  | _ => true

/-- Whether it is not known which characters parts one after another can begin with. -/
def areOpen (f : Flags) : List Pattern → Bool
  | [] => true
  | p :: _ => isOpen f p

end

end HtGate.Pattern
