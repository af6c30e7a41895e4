import HtGate.Web.Header
/-!
# Bodies of several parts

A body of several parts has a delimiter before each part and, with two more dashes, after the last one. A
part has a head, an empty line and its data; the head names the field it is for and, if it is a file, the
file.
-/

namespace HtGate.Multipart

/-- A part of a body. -/
structure Part where
  /-- The field that the part is for. -/
  name : Text
  /-- The name of the file, if the part is one. -/
  filename : Option Text
  charset : Charset
  data : Bytes
  deriving DecidableEq, Repr

/-- What follows a line end. -/
def afterLineEnd? : Bytes → Option Bytes
  | 13 :: 10 :: rest => some rest
  | 13 :: rest => some rest
  | 10 :: rest => some rest
  | _ => none

/-- What follows an expected start. -/
def after? : Bytes → Bytes → Option Bytes
  | bytes, [] => some bytes
  | [], _ :: _ => none
  | b :: bytes, s :: start => if b == s then after? bytes start else none

/-- Drops blanks within a line. -/
def skipBlanks (bytes : Bytes) : Bytes :=
  bytes.dropWhile fun b => b == 32 || b == 9 || b == 11 || b == 12

/-- The end of a delimiter: whether it is the last one, and what follows. -/
def delimiterEnd? (bytes : Bytes) : Option (Bool × Bytes) :=
  match after? bytes [45, 45] with
  | some rest =>
    let rest := skipBlanks rest
    some (true, (afterLineEnd? rest).getD rest)
  | none => (afterLineEnd? (skipBlanks bytes)).map fun rest => (false, rest)

/-- The delimiter at the start of bytes. -/
def delimiter? (boundary bytes : Bytes) : Option (Bool × Bytes) :=
  (after? bytes (45 :: 45 :: boundary)).bind delimiterEnd?

/-- What is before the first delimiter on a line of its own, whether that is the last one, and what
follows it. -/
def splitAtDelimiter (boundary : Bytes) : Bytes → Option (Bytes × Bool × Bytes)
  | [] => none
  | b :: bytes =>
    match (afterLineEnd? (b :: bytes)).bind (delimiter? boundary) with
    | some (last, rest) => some ([], last, rest)
    | none =>
      (splitAtDelimiter boundary bytes).map fun (before, last, rest) => (b :: before, last, rest)

/-- Whether the first delimiter is the last one, and what follows it. It need not be on a line of its
own. -/
def start? (boundary : Bytes) : Bytes → Option (Bool × Bytes)
  | [] => none
  | b :: bytes =>
    match delimiter? boundary (b :: bytes) with
    | some found => some found
    | none => start? boundary bytes

/-- What is before the empty line, and what follows the first of its two line ends. -/
def splitAtEmptyLine : Bytes → Option (Bytes × Bytes)
  | [] => none
  | 13 :: 10 :: 13 :: 10 :: rest => some ([], 13 :: 10 :: rest)
  | 13 :: 13 :: rest => some ([], 13 :: rest)
  | 10 :: 10 :: rest => some ([], 10 :: rest)
  | b :: bytes => (splitAtEmptyLine bytes).map fun (before, rest) => (b :: before, rest)

/-- The text with a line feed for every line end. -/
def withLineFeeds : Text → Text
  | [] => []
  | '\r' :: '\n' :: rest => '\n' :: withLineFeeds rest
  | '\r' :: rest => '\n' :: withLineFeeds rest
  | c :: rest => c :: withLineFeeds rest

/-- The text with a blank for a line feed and the blank that follows it. -/
def unfolded : Text → Text
  | [] => []
  | '\n' :: ' ' :: rest => ' ' :: unfolded rest
  | '\n' :: '\t' :: rest => ' ' :: unfolded rest
  | c :: rest => c :: unfolded rest

/-- The value of a head's line with a name, in any case. A line that begins with a blank continues the one
before. -/
def headValue? (name head : Text) : Option Text :=
  ((Text.splitOn (· == '\n') (unfolded (withLineFeeds head))).map (Text.cut ':')).findSome?
    fun (found, value) =>
      if Text.lower (Header.trim found) == name then some (Header.trim (value.getD [])) else none

/-- The character set that the head of a part names, or UTF-8. -/
def charsetOf (head : Text) : Charset :=
  ((headValue? "content-type".toList head).bind fun value =>
    (Header.parameter? "charset" (Header.read value).2).bind Charset.named?).getD .utf8

/-- The part with a head and data. -/
def part? (head data : Bytes) : Option Part := do
  let head ← Utf8.decode head
  let value ← headValue? "content-disposition".toList head
  let (_, parameters) := Header.read value
  some
    { name := (Header.parameter? "name" parameters).getD []
      filename := Header.parameter? "filename" parameters
      charset := charsetOf head
      data }

/-- The parts of a body after a delimiter. Every part takes a byte at least, so the number of bytes bounds
that of the parts. -/
def partsWithin (boundary : Bytes) : Nat → Bytes → Option (List Part)
  | 0, _ => none
  | fuel + 1, bytes => do
    let (head, rest) ← splitAtEmptyLine bytes
    let (before, last, more) ← splitAtDelimiter boundary rest
    let part ← part? head ((afterLineEnd? before).getD [])
    if last then some [part] else (partsWithin boundary fuel more).map (part :: ·)

/-- The parts of a body; none if it does not end as it should. -/
def parts (boundary body : Bytes) : Option (List Part) :=
  match start? boundary body with
  | none => none
  | some (true, _) => some []
  | some (false, rest) => partsWithin boundary (body.length + 1) rest

/-- The text of a part's data. -/
def Part.text (p : Part) : Text := p.charset.decode p.data

end HtGate.Multipart
