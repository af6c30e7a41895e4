import HtGate.Digest.Words
/-!
# The alphabet of password hashes

Salts and checksums are written in 64 characters of six bits each. Most schemes write three bytes as
four characters with the lowest bits first; one has the same characters in another order and writes the
highest bits first.
-/

namespace HtGate.Password

/-- Point, slash, digits, upper-case letters, lower-case letters. -/
def alphabet : Text :=
  "./0123456789ABCDEFGHIJKLMNOPQRSTUVWXYZabcdefghijklmnopqrstuvwxyz".toList

/-- Point, slash, upper-case letters, lower-case letters, digits. -/
def lettersFirst : Text :=
  "./ABCDEFGHIJKLMNOPQRSTUVWXYZabcdefghijklmnopqrstuvwxyz0123456789".toList

/-- The character for six bits. -/
def letter (letters : Text) (n : Nat) : Char := letters.getD n '.'

/-- The six bits of a character. -/
def letterValue (letters : Text) (c : Char) : Nat := letters.findIdx (· == c)

/-- Whether a text has characters of the alphabet only. -/
def isWritten (t : Text) : Bool := t.all alphabet.contains

/-- The lowest six bits of a number, and so on upwards, as characters. -/
def lowFirst : Nat → Nat → Text
  | 0, _ => []
  | count + 1, n => letter alphabet (n % 64) :: lowFirst count (n / 64)

/-- The lowest `6 * count` bits of a number as characters, the highest first. -/
def highFirst (letters : Text) : Nat → Nat → Text
  | 0, _ => []
  | count + 1, n => highFirst letters count (n / 64) ++ [letter letters (n % 64)]

/-- The number that characters write, the highest first. -/
def highFirstValue (letters : Text) (t : Text) : Nat :=
  t.foldl (fun n c => n * 64 + letterValue letters c) 0

/-- The bytes at the given places as characters, three at a time. -/
def permuted (digest : Bytes) (places : List (List Nat)) : Text :=
  places.flatMap fun group =>
    lowFirst (group.length + 1) (Digest.bigEndian (group.map fun i => digest.getD i 0))

/-- A text repeated and cut to a length. -/
def fill (bytes : Bytes) (length : Nat) : Bytes :=
  if bytes.isEmpty then [] else (List.replicate (length / bytes.length + 1) bytes).flatten.take length

end HtGate.Password
