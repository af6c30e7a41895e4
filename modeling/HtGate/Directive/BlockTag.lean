import HtGate.Directive.Basic
import HtGate.Text.Digit
import HtGate.Text.Whitespace
import HtGate.Text.Case
/-!
# Block tags

A block opens with a tag, its word and an argument between angle brackets, and closes with the word
after a slash. The word counts in any case.
-/

namespace HtGate.BlockTag

/-- The kind of block that a tag's word names. -/
def kind? (word : Text) : Option BlockKind :=
  BlockKind.all.find? fun kind => Text.lower kind.tag == Text.lower word

/-- The letters after a text's start, and what stands between them and the closing bracket, which has
to end the line. -/
def split? (start line : Text) : Option (Text × Text) := do
  let t ← Text.dropPrefix? line start
  let word := t.takeWhile Text.isAsciiLetter
  let rest := t.drop word.length
  if !word.isEmpty && rest.getLast? == some '>' then some (word, rest.dropLast) else none

/-- The word and the argument of an opening tag. Whitespace stands between them. -/
def opening? (line : Text) : Option (Text × Text) := do
  let (word, rest) ← split? ['<'] line
  match rest with
  | [] => some (word, [])
  | c :: _ => if Text.isWhitespace c then some (word, Text.trim rest) else none

/-- The word of a closing tag. -/
def closing? (line : Text) : Option Text := do
  let (word, rest) ← split? ['<', '/'] line
  if rest.all Text.isWhitespace then some word else none

/-- An argument of one word, or of anything but quotes between quotes. It must not be empty. -/
def argument? (t : Text) : Option Text :=
  match t with
  | [] => none
  | '"' :: rest =>
    let inside := rest.dropLast
    if rest.getLast? == some '"' && !inside.contains '"' && !inside.isEmpty then some inside
    else none
  | t => if t.any Text.isWhitespace then none else some t

/-- The head of a block of a kind with an argument, if the kind takes such an argument. -/
def head? (kind : BlockKind) (argument : Text) : Option BlockHead :=
  match kind with
  | .requireAny | .requireAll => if argument.isEmpty then some { kind } else none
  | .limit | .limitExcept => if argument.isEmpty then none else some { kind, methods := argument }
  | .ifModule =>
    match argument with
    | '!' :: rest =>
      (argument? (Text.trimStart rest)).map fun name =>
        { kind, name := some ('!' :: name), negated := true }
    | argument => (argument? argument).map fun name => { kind, name := some name }
  | .files => (argument? argument).map fun name => { kind, name := some name }
  | .filesMatch => (argument? argument).map fun pattern => { kind, pattern := some pattern }

end HtGate.BlockTag
