import HtGate.Json.Basic
import HtGate.Text.Decimal
import HtGate.Text.Utf16
/-!
# Reading JSON

The grammar of JSON texts, with the names `NaN`, `Infinity` and `-Infinity` beside the numbers. Of
two members with one key the later value counts, in the place of the earlier. Control characters have
to be escaped in a text, and a whole number has at most as many digits as a numeral may have. Lists and
objects may stand in one another only so deep as the reader is told.
-/

namespace HtGate.Json

/-- Drops spaces, tabs and line ends. -/
def skipSpace (t : Text) : Text :=
  t.dropWhile fun c => c == ' ' || c == '\t' || c == '\n' || c == '\r'

/-- The number that four hexadecimal digits write, and the rest. -/
def hexUnit? : Text → Option (Nat × Text)
  | a :: b :: c :: d :: rest => do
    let a ← Text.hexValue? a
    let b ← Text.hexValue? b
    let c ← Text.hexValue? c
    let d ← Text.hexValue? d
    some (((a * 16 + b) * 16 + c) * 16 + d, rest)
  | _ => none

/-- The character behind `\u`: two escapes that form a surrogate pair are one character. -/
def readUnicode (t : Text) : Option (Char × Text) := do
  let (unit, rest) ← hexUnit? t
  if Utf16.isHigh unit then
    match rest with
    | '\\' :: 'u' :: more => do
      let (low, rest) ← hexUnit? more
      if Utf16.isLow low then some (Utf16.pair unit low, rest) else none
    | _ => none
  else if Utf16.isLow unit then none
  else some (Char.ofNat unit, rest)

/-- The character that a backslash and one letter stand for. -/
def simpleEscape? : Char → Option Char
  | '"' => some '"'
  | '\\' => some '\\'
  | '/' => some '/'
  | 'b' => some '\x08'
  | 'f' => some '\x0c'
  | 'n' => some '\n'
  | 'r' => some '\r'
  | 't' => some '\t'
  | _ => none

/-- The rest of a text after its opening quote, up to the closing one. -/
def readText : Nat → Text → Text → Option (Text × Text)
  | 0, _, _ => none
  | fuel + 1, t, read =>
    match t with
    | [] => none
    | '"' :: rest => some (read.reverse, rest)
    | '\\' :: 'u' :: rest =>
      match readUnicode rest with
      | some (c, rest) => readText fuel rest (c :: read)
      | none => none
    | '\\' :: e :: rest =>
      match simpleEscape? e with
      | some c => readText fuel rest (c :: read)
      | none => none
    | c :: rest => if c.toNat < 0x20 || c == '\\' then none else readText fuel rest (c :: read)

/-- The number that ASCII digits write. -/
def digitsValue (digits : Text) : Nat :=
  Text.numeralValue (digits.map (·.toNat - 48))

/-- The digits of an exponent, if one follows. -/
def readExponent : Text → Option (Int × Text)
  | c :: rest =>
    if c == 'e' || c == 'E' then
      let (sign, rest) : Int × Text := match rest with
        | '-' :: rest => (-1, rest)
        | '+' :: rest => (1, rest)
        | _ => (1, rest)
      let digits := rest.takeWhile Text.isAsciiDigit
      if digits.isEmpty then none
      else some (sign * digitsValue digits, rest.drop digits.length)
    else none
  | [] => none

/-- The digits of a fraction, if one follows. -/
def readFraction : Text → Option (Text × Text)
  | '.' :: rest =>
    let digits := rest.takeWhile Text.isAsciiDigit
    if digits.isEmpty then none else some (digits, rest.drop digits.length)
  | _ => none

/-- A number without its sign. -/
def readUnsigned (sign : Int) (t : Text) : Option (Json × Text) :=
  let whole := match t with
    | '0' :: _ => ['0']
    | _ => t.takeWhile Text.isAsciiDigit
  if whole.isEmpty then none
  else
    let rest := t.drop whole.length
    let (fraction, afterFraction) := (readFraction rest).getD ([], rest)
    match readExponent afterFraction with
    | some (exponent, afterExponent) =>
      some (decimal (sign * digitsValue (whole ++ fraction)) (exponent - fraction.length),
        afterExponent)
    | none =>
      if fraction.isEmpty then
        if Text.maxDigits < whole.length then none
        else some (int (sign * digitsValue whole), rest)
      else some (decimal (sign * digitsValue (whole ++ fraction)) (-fraction.length), afterFraction)

/-- A value that is one word or a number. -/
def readScalar (t : Text) : Option (Json × Text) :=
  let word (w : String) := Text.dropPrefix? t w.toList
  match word "null", word "true", word "false", word "NaN", word "Infinity", word "-Infinity" with
  | some rest, _, _, _, _, _ => some (null, rest)
  | _, some rest, _, _, _, _ => some (bool true, rest)
  | _, _, some rest, _, _, _ => some (bool false, rest)
  | _, _, _, some rest, _, _ => some (nonFinite "NaN".toList, rest)
  | _, _, _, _, some rest, _ => some (nonFinite "Infinity".toList, rest)
  | _, _, _, _, _, some rest => some (nonFinite "-Infinity".toList, rest)
  | _, _, _, _, _, _ =>
    match t with
    | '-' :: rest => readUnsigned (-1) rest
    | _ => readUnsigned 1 t

/-- Why a text is not read. -/
inductive ReadError where
  /-- It is no JSON. -/
  | malformed
  /-- Its lists and objects stand too deep in one another. -/
  | tooDeep
  deriving DecidableEq, Repr

/-- What was read, if something was. -/
def orMalformed {α : Type} : Option α → Except ReadError α
  | some a => .ok a
  | none => .error .malformed

mutual

/-- A value at the start of a text without space before it, and the rest. In the value, lists and objects
may stand `depth` deep in one another. -/
def readValue : Nat → Nat → Text → Except ReadError (Json × Text)
  | 0, _, _ => .error .malformed
  | fuel + 1, depth, t =>
    match t, depth with
    | '"' :: rest, _ => do
      let (value, rest) ← orMalformed (readText (rest.length + 1) rest [])
      .ok (text value, rest)
    | '[' :: _, 0 | '\x7b' :: _, 0 => .error .tooDeep
    | '[' :: rest, depth + 1 =>
      match skipSpace rest with
      | ']' :: rest => .ok (list [], rest)
      | rest => readElements fuel depth rest []
    | '\x7b' :: rest, depth + 1 =>
      match skipSpace rest with
      | '\x7d' :: rest => .ok (object [], rest)
      | rest => readMembers fuel depth rest []
    | _, _ => orMalformed (readScalar t)

/-- The elements of a list from the next one on. -/
def readElements : Nat → Nat → Text → List Json → Except ReadError (Json × Text)
  | 0, _, _, _ => .error .malformed
  | fuel + 1, depth, t, read => do
    let (value, rest) ← readValue fuel depth t
    match skipSpace rest with
    | ',' :: rest => readElements fuel depth (skipSpace rest) (value :: read)
    | ']' :: rest => .ok (list (value :: read).reverse, rest)
    | _ => .error .malformed

/-- The members of an object from the next one on. -/
def readMembers : Nat → Nat → Text → List (Text × Json) → Except ReadError (Json × Text)
  | 0, _, _, _ => .error .malformed
  | fuel + 1, depth, t, read =>
    match t with
    | '"' :: rest => do
      let (key, rest) ← orMalformed (readText (rest.length + 1) rest [])
      match skipSpace rest with
      | ':' :: rest => do
        let (value, rest) ← readValue fuel depth (skipSpace rest)
        let read := setMember key value read
        match skipSpace rest with
        | ',' :: rest => readMembers fuel depth (skipSpace rest) read
        | '\x7d' :: rest => .ok (object read, rest)
        | _ => .error .malformed
      | _ => .error .malformed
    | _ => .error .malformed

end

/-- The value that a text writes, in which lists and objects may stand `depth` deep in one another. Every
step of the grammar takes a character, so the text's length bounds their number. -/
def readWithin (depth : Nat) (t : Text) : Except ReadError Json := do
  let (value, rest) ← readValue (2 * t.length + 2) depth (skipSpace t)
  if (skipSpace rest).isEmpty then .ok value else .error .malformed

/-- The value that a text writes. Lists and objects take a character each, so the text's length bounds how
deep they stand. -/
def read (t : Text) : Option Json := (readWithin t.length t).toOption

end HtGate.Json
