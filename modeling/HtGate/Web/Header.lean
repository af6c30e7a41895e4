import HtGate.Text.Charset
import HtGate.Text.Percent
/-!
# Header values

The value of a header with parameters after semicolons, each a name and a value with an equals sign between
them. What is no parameter is passed over. A name that ends in an asterisk has a value with percent signs,
which may begin with a character set between quotes; names that end in an asterisk and a number have the
pieces of one value.
-/

namespace HtGate.Header

/-- The text without blanks at its start. -/
def trimStart (t : Text) : Text := t.dropWhile Text.isBlank

/-- The text without blanks at either end. -/
def trim (t : Text) : Text := Text.dropTrailing Text.isBlank (trimStart t)

/-- Whether a character may stand in a parameter's name, and in a value without quotes. -/
def isTokenChar (c : Char) : Bool :=
  Text.isAsciiLetter c || Text.isAsciiDigit c || c == '_' || "!#$%&'*+-.^\x60|~".toList.contains c

/-- What stands before the closing quote, with characters behind backslashes as they are, and what follows
it. -/
def quoted? : Text → Option (Text × Text)
  | [] => none
  | '"' :: rest => some ([], rest)
  | '\\' :: c :: rest => (quoted? rest).map fun (t, rest) => (c :: t, rest)
  | c :: rest => (quoted? rest).map fun (t, rest) => (c :: t, rest)

/-- The text with quotes in the place of percent signs that stand for them. -/
def withQuotes : Text → Text
  | [] => []
  | '%' :: '2' :: '2' :: rest => '"' :: withQuotes rest
  | c :: rest => c :: withQuotes rest

/-- A parameter as it is written: its name in lower case, its value, and whether that stands in quotes. -/
structure Written where
  name : Text
  value : Text
  inQuotes : Bool

/-- The parameters from the start of a text on. No parameter is shorter than one character. A value whose
quote is not closed ends them. -/
def writtenWithin : Nat → Text → List Written
  | 0, _ => []
  | fuel + 1, t =>
    -- The parameters behind the next semicolon.
    let following (t : Text) : List Written :=
      match Text.cut ';' t with
      | (_, some rest) => writtenWithin fuel (trimStart rest)
      | (_, none) => []
    let name := t.takeWhile isTokenChar
    match name, t.drop name.length with
    | _ :: _, '=' :: '"' :: rest =>
      match quoted? rest with
      | some (value, rest) => ⟨Text.lower name, value, true⟩ :: following rest
      | none => []
    | _ :: _, '=' :: rest =>
      match rest.takeWhile isTokenChar with
      | [] => following rest
      | value => ⟨Text.lower name, value, false⟩ :: following rest
    | _, rest => following rest

/-- The character set, which may be empty, at the start of a value, and the value without it. -/
def charsetAndValue? (t : Text) : Option (Text × Text) :=
  let isPlain (c : Char) : Bool := isTokenChar c && c != '\''
  let charset := t.takeWhile isPlain
  match t.drop charset.length with
  | '\'' :: rest =>
    match rest.drop (rest.takeWhile isPlain).length with
    | '\'' :: value =>
      match value.takeWhile isTokenChar with
      | [] => none
      | value => some (charset, value)
    | _ => none
  | _ => none

/-- The name without an asterisk and a number at its end, if it has them. -/
def withoutNumber? (name : Text) : Option Text :=
  match name.reverse.span Text.isAsciiDigit with
  | (_ :: _, '*' :: start) => some start.reverse
  | _ => none

/-- The character sets that are known while parameters are read: the one named last, and the last of those
that can be read. -/
structure Charsets where
  named : Text := []
  readable : Option Charset := none

/-- The value of a parameter whose name ends in an asterisk. -/
def resolve (known : Charsets) (w : Written) : Text × Charsets :=
  let (named, value) := match if w.inQuotes then none else charsetAndValue? w.value with
    | some found => found
    | none => (known.named, w.value)
  let charset := if named.isEmpty then known.readable else Charset.named? named
  match charset with
  | some c => (Percent.resolve c.decode value, ⟨named, some c⟩)
  | none => (value, { known with named })

/-- Adds a value under a name, in the place of that which is there, or behind it if it is a piece. -/
def add (name value : Text) (isPiece : Bool) (ps : List (Text × Text)) : List (Text × Text) :=
  let before := if isPiece then ((ps.find? (·.1 == name)).map (·.2)).getD [] else []
  (name, before ++ value) :: ps.filter (·.1 != name)

/-- The parameters that written parameters stand for. -/
def parametersFrom (known : Charsets) (ps : List (Text × Text)) : List Written → List (Text × Text)
  | [] => ps
  | w :: more =>
    let (name, value, known) :=
      if w.name.getLast? == some '*' then
        let (value, known) := resolve known w
        (w.name.dropLast, value, known)
      else (w.name, w.value, known)
    let piece := withoutNumber? name
    parametersFrom known (add (piece.getD name) (withQuotes value) piece.isSome ps) more

/-- The value of a header before its parameters, and the parameters. Nothing has no parameters. -/
def read (t : Text) : Text × List (Text × Text) :=
  let (value, rest) := Text.cut ';' t
  let value := trim value
  let rest := trim (rest.getD [])
  (value, if value.isEmpty then [] else parametersFrom {} [] (writtenWithin (rest.length + 1) rest))

/-- The value of a parameter. -/
def parameter? (name : String) (ps : List (Text × Text)) : Option Text :=
  (ps.find? (·.1 == name.toList)).map (·.2)

end HtGate.Header
