import HtGate.Fault
import HtGate.Pattern.Width
import HtGate.Text.CharacterName
import HtGate.Text.Identifier
import HtGate.Text.Whitespace
/-!
# Reading patterns

The written form of patterns. A pattern is read as tokens, which are single characters and characters
behind a backslash. A text that is no pattern is refused; a few ask for more than can be counted.
-/

namespace HtGate.Pattern

/-- Why a text is no pattern. -/
inductive ParseError where
  /-- It has not the form of one. -/
  | malformed
  /-- It cannot be made sense of at all. -/
  | fault (cause : Fault)
  deriving DecidableEq, Repr

/-- A piece of a written pattern. -/
inductive Token where
  /-- A character on its own. -/
  | plain (c : Char)
  /-- A character behind a backslash. -/
  | escaped (c : Char)
  /-- A backslash with nothing behind it. -/
  | dangling
  deriving DecidableEq, Repr

/-- The tokens of a written pattern. -/
def tokens : Text → List Token
  | [] => []
  | ['\\'] => [.dangling]
  | '\\' :: c :: rest => .escaped c :: tokens rest
  | c :: rest => .plain c :: tokens rest

namespace Token

/-- The characters of a token. -/
def text : Token → Text
  | plain c => [c]
  | escaped c => ['\\', c]
  | dangling => ['\\']

end Token

/-- What is known while a pattern is read. -/
structure Progress where
  rest : List Token
  flags : Flags := {}
  /-- The groups opened so far. -/
  opened : Nat := 0
  /-- The names of groups. -/
  names : List (Text × Nat) := []
  /-- The lengths of the groups closed so far. -/
  closed : List (Nat × Width) := []
  /-- The groups that had been opened when a look behind began. -/
  behind : Option Nat := none
  /-- The groups that conditions name by number. -/
  conditions : List Nat := []
  /-- How many brackets are open. -/
  depth : Nat := 0

/-- A step of reading. -/
abbrev Reader := StateT Progress (Except ParseError)

namespace Reader

/-- Refuses the text. -/
def refuse {α : Type} : Reader α := throw .malformed

/-- The next token, which is not taken. -/
def peek : Reader (Option Token) := do return (← get).rest.head?

/-- Goes on behind the given tokens. A backslash at the very end is refused as soon as it is next. -/
def goTo (rest : List Token) : Reader Unit := do
  modify fun p => { p with rest }
  if rest.head? == some .dangling then refuse

/-- Takes the next token. -/
def take : Reader (Option Token) := do
  match (← get).rest with
  | [] => return none
  | t :: rest =>
    goTo rest
    return some t

/-- Takes the next token, which has to be there. -/
def need : Reader Token := do
  match ← take with
  | some t => return t
  | none => refuse

/-- Takes a character if it is next. -/
def accept (c : Char) : Reader Bool := do
  if (← peek) == some (.plain c) then
    let _ ← take
    return true
  else return false

/-- Takes a character, which has to be next. -/
def expect (c : Char) : Reader Unit := do
  if !(← accept c) then refuse

/-- Takes characters of a kind as long as they are next, at most `n`. -/
def takeWhile (p : Char → Bool) : Nat → Reader Text
  | 0 => return []
  | n + 1 => do
    match ← peek with
    | some (.plain c) =>
      if p c then
        let _ ← take
        return c :: (← takeWhile p n)
      else return []
    | _ => return []

/-- Takes tokens up to a character, which is taken too. There has to be one token at least. -/
def takeUntil (last : Char) : Nat → Reader Text
  | 0 => refuse
  | n + 1 => do
    let t ← need
    if t == .plain last then return []
    return t.text ++ (← takeUntil last n)

/-- A name up to a character. -/
def nameUntil (last : Char) : Reader Text := do
  let name ← takeUntil last ((← get).rest.length + 1)
  if name.isEmpty then refuse
  return name

/-- Whether a character is an octal digit. -/
def isOctal (c : Char) : Bool := '0' ≤ c && c ≤ '7'

/-- Whether a character is a hexadecimal digit. -/
def isHex (c : Char) : Bool := (Text.hexValue? c).isSome

/-- The number that digits to a base write. -/
def valueIn (base : Nat) (digits : Text) : Nat :=
  digits.foldl (fun n c => n * base + (Text.hexValue? c).getD 0) 0

/-- A code point of exactly so many hexadecimal digits. -/
def hexCode (digits : Nat) : Reader Nat := do
  let t ← takeWhile isHex digits
  if t.length != digits || 0x10FFFF < valueIn 16 t then refuse
  return valueIn 16 t

/-- The letters that stand for control characters behind a backslash. -/
def controlCode? : Char → Option Nat
  | 'a' => some 7
  | 'f' => some 12
  | 'n' => some 10
  | 'r' => some 13
  | 't' => some 9
  | 'v' => some 11
  | '\\' => some 92
  | _ => none

/-- The letters that stand for classes behind a backslash. -/
def class? : Char → Option SetItem
  | 'd' => some (.ofClass .digit false)
  | 'D' => some (.ofClass .digit true)
  | 's' => some (.ofClass .space false)
  | 'S' => some (.ofClass .space true)
  | 'w' => some (.ofClass .word false)
  | 'W' => some (.ofClass .word true)
  | _ => none

/-- The letters that stand for positions behind a backslash. -/
def anchor? : Char → Option Anchor
  | 'A' => some .textStart
  | 'b' => some .boundary
  | 'B' => some .noBoundary
  | 'Z' => some .textEnd
  | _ => none

/-- The code point of a character whose name stands in braces. -/
def namedCode : Reader Nat := do
  expect '\x7b'
  match Text.namedCode? (← nameUntil '\x7d') with
  | some code => return code
  | none => refuse

/-- The code point of an escape that means the same inside and outside of sets. -/
def commonEscape (c : Char) : Reader Nat := do
  match controlCode? c with
  | some code => return code
  | none =>
    if c == 'x' then hexCode 2
    else if c == 'u' then hexCode 4
    else if c == 'U' then hexCode 8
    else if c == 'N' then namedCode
    else if Text.isAsciiDigit c || Text.isAsciiLetter c then refuse
    else return c.toNat

/-- What an escape stands for in a set. -/
def setEscape (c : Char) : Reader SetItem := do
  match class? c with
  | some item => return item
  | none =>
    if c == 'b' then return .char 8
    else if isOctal c then
      let code := valueIn 8 (c :: (← takeWhile isOctal 2))
      if 0o377 < code then refuse
      return .char code
    else return .char (← commonEscape c)

/-- Checks that a group can be referred to here: it is closed, and inside a look behind it was there
before. -/
def checkReference (index : Nat) : Reader Unit := do
  let p ← get
  if !(p.closed.any (·.1 == index)) then refuse
  match p.behind with
  | some before => if before < index then refuse
  | none => return

/-- A reference to a group, or an octal code point of three digits, that begins with a digit. -/
def digitEscape (c : Char) : Reader Pattern := do
  match ← peek with
  | some (.plain d) =>
    if Text.isAsciiDigit d then
      let _ ← take
      if isOctal c && isOctal d then
        match ← takeWhile isOctal 1 with
        | [e] =>
          let code := valueIn 8 [c, d, e]
          if 0o377 < code then refuse
          return .char code
        | _ => refer (valueIn 10 [c, d])
      else refer (valueIn 10 [c, d])
    else refer (valueIn 10 [c])
  | _ => refer (valueIn 10 [c])
where
  /-- A reference to a group that was opened before. -/
  refer (index : Nat) : Reader Pattern := do
    if (← get).opened < index then refuse
    checkReference index
    return .reference index

/-- What an escape stands for outside of sets. -/
def escape (c : Char) : Reader Pattern := do
  match anchor? c, class? c with
  | some a, _ => return .anchor a
  | _, some item => return .set false [item]
  | none, none =>
    if c == '0' then return .char (valueIn 8 (← takeWhile isOctal 2))
    else if Text.isAsciiDigit c then digitEscape c
    else return .char (← commonEscape c)

/-- One end of a range, or a member of a set on its own. -/
def setMember (t : Token) : Reader SetItem :=
  match t with
  | .escaped c => setEscape c
  | .plain c => return .char c.toNat
  | .dangling => refuse

/-- The members of a set from the next token on, given those before. -/
def setItems : Nat → List SetItem → Reader (List SetItem)
  | 0, _ => refuse
  | fuel + 1, before => do
    let t ← need
    if t == .plain ']' && !before.isEmpty then return before.reverse
    let low ← setMember t
    if ← accept '-' then
      let t ← need
      if t == .plain ']' then return (.char 45 :: low :: before).reverse
      match low, ← setMember t with
      | .char a, .char b =>
        if b < a then refuse
        setItems fuel (.range a b :: before)
      | _, _ => refuse
    else setItems fuel (low :: before)

/-- A set behind its opening bracket. -/
def characterSet : Reader Pattern := do
  let negated ← accept '^'
  let items ← setItems ((← get).rest.length + 1) []
  match items.eraseDups with
  | [.char code] => return if negated then .notChar code else .char code
  | items => return .set negated items

/-- The number that digits write, if it can be counted; nothing stands for `default`. -/
def bound (digits : Text) (default : Option Nat) : Reader (Option Nat) :=
  if digits.isEmpty then return default
  else
    match Fault.readNumeral digits with
    | .error cause => throw (.fault cause)
    | .ok n => if maxCount ≤ n then throw (.fault .repetitionTooLarge) else return some n

/-- The bounds of a repetition in braces behind the opening one; `none` where the brace is a character
on its own. -/
def braces : Reader (Option (Nat × Option Nat)) := do
  let here := (← get).rest
  if here.head? == some (.plain '\x7d') then return none
  let low ← takeWhile Text.isAsciiDigit here.length
  let comma ← accept ','
  let high ← if comma then takeWhile Text.isAsciiDigit here.length else pure low
  if !(← accept '\x7d') then
    goTo here
    return none
  let least ← bound low (some 0)
  let most ← bound high none
  match least, most with
  | some least, some most =>
    if most < least then refuse
    return some (least, some most)
  | some least, none => return some (least, none)
  | none, _ => refuse

/-- The parts that a part stands for: those inside if it is a group that does nothing else. -/
def unwrapped : Pattern → List Pattern
  | .group none add remove body =>
    if add = Flags.none && remove = Flags.none then body else [.group none add remove body]
  | p => [p]

/-- The last part repeated. A position or a repetition cannot be. -/
def repeatLast (least : Nat) (most : Option Nat) (parts : List Pattern) : Reader (List Pattern) := do
  match parts with
  | [] => refuse
  | .anchor _ :: _ => refuse
  | .repetition _ _ _ _ :: _ => refuse
  | p :: before =>
    let greed ← do
      if ← accept '?' then pure Greed.lazy
      else if ← accept '+' then pure Greed.possessive
      else pure Greed.greedy
    return .repetition greed least most (unwrapped p) :: before

/-- The switch of a letter. -/
def flag? : Char → Option Flags
  | 'i' => some { ignoreCase := true }
  | 'm' => some { multiline := true }
  | 's' => some { dotAll := true }
  | 'x' => some { verbose := true }
  | 'a' => some { ascii := true }
  | 'u' => some { unicode := true }
  | 't' => some { template := true }
  | _ => none

/-- Switches to set from a letter on, and the character that ends them. -/
def flagsToAdd : Nat → Char → Flags → Reader (Flags × Char)
  | 0, _, _ => refuse
  | fuel + 1, c, flags => do
    match flag? c with
    | none => refuse
    | some f =>
      let flags := flags.union f
      if flags.ascii && flags.unicode then refuse
      match ← need with
      | .plain d =>
        if d == ')' || d == '-' || d == ':' then return (flags, d) else flagsToAdd fuel d flags
      | _ => refuse

/-- Switches to remove from the next letter on up to the colon; there has to be one. -/
def flagsToRemove : Nat → Flags → Reader Flags
  | 0, _ => refuse
  | fuel + 1, flags => do
    match ← need with
    | .plain c =>
      match flag? c with
      | none => refuse
      | some f =>
        if f.ascii || f.unicode then refuse
        let flags := flags.union f
        if ← accept ':' then return flags else flagsToRemove fuel flags
    | _ => refuse

/-- What the switches behind a question mark do: change the whole pattern, or the group they open. -/
def flagGroup (c : Char) : Reader (Option (Flags × Flags)) := do
  let fuel := (← get).rest.length + 1
  let (add, last) ← if c == '-' then pure (Flags.none, '-') else flagsToAdd fuel c {}
  if last == ')' then
    modify fun p => { p with flags := p.flags.union add }
    return none
  if add.template then refuse
  let remove ← if last == '-' then flagsToRemove fuel {} else pure Flags.none
  if remove.template || add.without remove != add then refuse
  return some (add, remove)

/-- The most groups that a pattern may have. -/
def maxGroups : Nat := 1073741823

/-- The number of the group that a condition names by number. -/
def conditionNumber (t : Text) : Reader Nat := do
  match Text.toInt? t with
  | some n =>
    if n ≤ 0 || maxGroups ≤ n then refuse
    modify fun p => { p with conditions := n.toNat :: p.conditions }
    return n.toNat
  | none => refuse

/-- The group that a condition names. -/
def conditionGroup (t : Text) : Reader Nat := do
  let p ← get
  let index ← match Text.isIdentifier t, p.names.find? (·.1 == t) with
    | true, some (_, index) => pure index
    | true, none => refuse
    | false, _ => conditionNumber t
  if p.behind.isSome then checkReference index
  return index

/-- Opens a group that is remembered. -/
def openGroup (name : Option Text) : Reader Nat := do
  let p ← get
  let index := p.opened + 1
  match name with
  | some name =>
    if p.names.any (·.1 == name) then refuse
    modify fun p => { p with opened := index, names := (name, index) :: p.names }
  | none => modify fun p => { p with opened := index }
  return index

/-- The lengths of the groups closed so far. -/
def closedWidth (p : Progress) (index : Nat) : Width :=
  ((p.closed.find? (·.1 == index)).map (·.2)).getD (0, 0)

/-- Closes a group. -/
def closeGroup (index : Nat) (body : List Pattern) : Reader Unit :=
  modify fun p => { p with closed := (index, widthOfAll (closedWidth p) body) :: p.closed }

/-- Passes over a comment in brackets. -/
def skipComment : Nat → Reader Unit
  | 0 => refuse
  | fuel + 1 => do
    if (← need) == .plain ')' then return
    skipComment fuel

/-- Passes over a comment up to the end of the line. -/
def skipLine : Nat → Reader Unit
  | 0 => return
  | fuel + 1 => do
    match ← take with
    | none => return
    | some t => if t == .plain '\n' then return else skipLine fuel

/-- Whether a character is passed over where whitespace has no meaning. -/
def isFiller (c : Char) : Bool := c == ' ' || ('\t' ≤ c && c ≤ '\r')

/-- What opens behind a bracket. -/
inductive Opening where
  /-- A group with an index. -/
  | captured (name : Option Text)
  /-- A group without one that changes switches. -/
  | plain (add remove : Flags)
  /-- An atomic group. -/
  | atomic
  /-- An assertion. -/
  | look (ahead negated : Bool)
  /-- A choice by a group. -/
  | conditional (index : Nat)
  /-- A part that is complete. -/
  | whole (p : Pattern)
  /-- Nothing that counts. -/
  | nothing

/-- What opens behind a bracket, a question mark and a `P`. -/
def namedOpening : Reader Opening := do
  if ← accept '<' then
    let name ← nameUntil '>'
    if !Text.isIdentifier name then refuse
    return .captured (some name)
  else if ← accept '=' then
    let name ← nameUntil ')'
    if !Text.isIdentifier name then refuse
    match (← get).names.find? (·.1 == name) with
    | some (_, index) =>
      checkReference index
      return .whole (.reference index)
    | none => refuse
  else refuse

/-- What opens behind a bracket. Switches for the whole pattern are allowed at its start only. -/
def opening (atStart : Bool) : Reader Opening := do
  if !(← accept '?') then return .captured none
  match ← need with
  | .plain 'P' => namedOpening
  | .plain ':' => return .plain {} {}
  | .plain '#' =>
    skipComment ((← get).rest.length + 1)
    return .nothing
  | .plain '=' => return .look true false
  | .plain '!' => return .look true true
  | .plain '<' =>
    match ← need with
    | .plain '=' => return .look false false
    | .plain '!' => return .look false true
    | _ => refuse
  | .plain '(' => return .conditional (← conditionGroup (← nameUntil ')'))
  | .plain '>' => return .atomic
  | .plain c =>
    if (flag? c).isSome || c == '-' then
      match ← flagGroup c with
      | none => if atStart then return .nothing else refuse
      | some (add, remove) => return .plain add remove
    else refuse
  | _ => refuse

/-- What all alternatives begin with, and the rest of each. -/
def commonStart : List Pattern → List (List Pattern) → List Pattern × List (List Pattern)
  | [], others => ([], [] :: others)
  | p :: more, others =>
    if others.all fun parts => parts.head?.any (sameLeaf p) then
      let (start, rests) := commonStart more (others.map List.tail)
      (p :: start, rests)
    else ([], (p :: more) :: others)

/-- The members of the set that an alternative stands for. -/
def members? : List Pattern → Option (List SetItem)
  | [.char code] => some [.char code]
  | [.set false items] => some items
  | _ => none

/-- The parts that alternatives stand for. What all begin with stands before the choice, and a choice
between single characters and sets is a set. -/
def ofAlternatives : List (List Pattern) → List Pattern
  | [] => []
  | [parts] => parts
  | first :: others =>
    let (start, rests) := commonStart first others
    match rests.mapM members? with
    | some sets => start ++ [.set false sets.flatten.eraseDups]
    | none => start ++ [.choice rests]

/-- How many brackets may be open at once. -/
def maxDepth : Nat := 491

/-- Reads what stands in brackets up to the closing one, which is taken. -/
def inBrackets {α : Type} (read : Reader α) : Reader α := do
  let { depth, .. } ← get
  if maxDepth ≤ depth then throw (.fault .nestedTooDeep)
  modify fun p => { p with depth := depth + 1 }
  let a ← read
  expect ')'
  modify fun p => { p with depth }
  return a

mutual

/-- Alternatives up to a closing bracket or the end. At the outside, switches for the whole pattern
decide whether whitespace counts in the next alternative. -/
def alternatives (outside verbose first : Bool) : Nat → Reader (List (List Pattern))
  | 0 => refuse
  | fuel + 1 => do
    let p ← parts (outside && first) verbose [] fuel
    if ← accept '|' then
      let progress ← get
      let verbose := if outside then progress.flags.verbose else verbose
      return p :: (← alternatives outside verbose false fuel)
    else return [p]

/-- The parts of one alternative, given those before, the last first. -/
def parts (first verbose : Bool) (before : List Pattern) : Nat → Reader (List Pattern)
  | 0 => refuse
  | fuel + 1 => do
    match ← peek with
    | none | some (.plain '|') | some (.plain ')') => return before.reverse.flatMap unwrapped
    | some t =>
      let _ ← take
      match t with
      | .dangling => refuse
      | .escaped c =>
        let p ← escape c
        parts first verbose (p :: before) fuel
      | .plain c =>
        if verbose && isFiller c then parts first verbose before fuel
        else if verbose && c == '#' then
          skipLine ((← get).rest.length + 1)
          parts first verbose before fuel
        else
          match c with
          | '.' => parts first verbose (.any :: before) fuel
          | '^' => parts first verbose (.anchor .lineStart :: before) fuel
          | '$' => parts first verbose (.anchor .lineEnd :: before) fuel
          | '[' =>
            let p ← characterSet
            parts first verbose (p :: before) fuel
          | '?' =>
            let before ← repeatLast 0 (some 1) before
            parts first verbose before fuel
          | '*' =>
            let before ← repeatLast 0 none before
            parts first verbose before fuel
          | '+' =>
            let before ← repeatLast 1 none before
            parts first verbose before fuel
          | '\x7b' =>
            match ← braces with
            | none => parts first verbose (.char 123 :: before) fuel
            | some (least, most) =>
              let before ← repeatLast least most before
              parts first verbose before fuel
          | '(' =>
            match ← opening (first && before.isEmpty) with
            | .nothing =>
              let progress ← get
              parts first (verbose || (first && progress.flags.verbose)) before fuel
            | o =>
              let p ← bracketed o verbose fuel
              parts first verbose (p :: before) fuel
          | c => parts first verbose (.char c.toNat :: before) fuel

/-- The body of a bracket and its closing. -/
def bracketed (o : Opening) (verbose : Bool) : Nat → Reader Pattern
  | 0 => refuse
  | fuel + 1 => do
    match o with
    | .captured name =>
      let index ← openGroup name
      let body := ofAlternatives (← inBrackets (alternatives false verbose true fuel))
      closeGroup index body
      return .group (some index) {} {} body
    | .plain add remove =>
      let verbose := (verbose || add.verbose) && !remove.verbose
      let body := ofAlternatives (← inBrackets (alternatives false verbose true fuel))
      return .group none add remove body
    | .atomic => return .atomic (ofAlternatives (← inBrackets (alternatives false verbose true fuel)))
    | .look ahead negated =>
      let outer := (← get).behind
      if !ahead && outer.isNone then modify fun p => { p with behind := some p.opened }
      let body := ofAlternatives (← inBrackets (alternatives false verbose true fuel))
      if !ahead then modify fun p => { p with behind := outer }
      let widths := closedWidth (← get)
      return .look (if ahead then none else some (widthOfAll widths body)) negated body
    | .conditional index =>
      inBrackets do
        let yes ← parts false verbose [] fuel
        let another ← accept '|'
        let no ← if another then parts false verbose [] fuel else pure []
        return .conditional index yes no
    | .whole p => return p
    | .nothing => refuse

end

/-- A whole pattern; everything in it can be matched. -/
def expression : Reader Expression := do
  goTo (← get).rest
  let parts := ofAlternatives (← alternatives true false true (4 * (← get).rest.length + 4))
  let progress ← get
  if progress.flags.ascii && progress.flags.unicode then throw (.fault .patternFlags)
  if !progress.rest.isEmpty then refuse
  if progress.conditions.any (progress.opened < ·) then refuse
  if !areMatchable progress.flags.template parts then refuse
  return ⟨parts, progress.flags, (widthOfAll (closedWidth progress) parts).1⟩

end Reader

/-- Reads a written pattern. -/
def parse (t : Text) : Except ParseError Expression :=
  (Reader.expression.run { rest := tokens t }).map (·.1)

end HtGate.Pattern
