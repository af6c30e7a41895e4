import HtGate.Digest.Sha256
import HtGate.Digest.Sha512
import HtGate.Password.Alphabet
import HtGate.Text.Decimal
/-!
# Password hashes by SHA-256 and SHA-512

A number of rounds of a digest over strings made from the password and the salt. The hash is written as
a mark, the rounds unless they are 5000, the salt of up to sixteen characters and the checksum, with
dollar signs between.
-/

namespace HtGate.Password.Sha2Crypt

/-- A digest with the order of its bytes in a checksum. -/
structure Scheme where
  digest : Bytes → Bytes
  places : List (List Nat)

/-- The order of bytes that starts with a group and turns it, adding one to every place. -/
def turned (next : List Nat → List Nat) : Nat → List Nat → List (List Nat)
  | 0, _ => []
  | n + 1, group => group :: turned next n (next group)

/-- The scheme with SHA-256. -/
def sha256 : Scheme where
  digest := Digest.Sha256.digest
  places :=
    turned (fun
      | [a, b, c] => [c + 1, a + 1, b + 1]
      | other => other) 10 [0, 10, 20] ++ [[31, 30]]

/-- The scheme with SHA-512. -/
def sha512 : Scheme where
  digest := Digest.Sha512.digest
  places :=
    turned (fun
      | [a, b, c] => [b + 1, c + 1, a + 1]
      | other => other) 21 [0, 21, 42] ++ [[63]]

/-- The pieces that the bits of the length choose: the digest for a one, the password for a zero. -/
def lengthPieces (digest password : Bytes) : Nat → Nat → Bytes
  | 0, _ => []
  | fuel + 1, n =>
    if n = 0 then []
    else (if n % 2 = 1 then digest else password) ++ lengthPieces digest password fuel (n / 2)

/-- One round. -/
def round (s : Scheme) (password salt digest : Bytes) (i : Nat) : Bytes :=
  s.digest
    ((if i % 2 = 1 then password else digest) ++ (if i % 3 = 0 then [] else salt)
      ++ (if i % 7 = 0 then [] else password) ++ (if i % 2 = 1 then digest else password))

/-- The rounds from `i` on. -/
def rounds (s : Scheme) (password salt : Bytes) : Nat → Nat → Bytes → Bytes
  | 0, _, digest => digest
  | n + 1, i, digest => rounds s password salt n (i + 1) (round s password salt digest i)

/-- The checksum of a password under a salt. -/
def checksum (s : Scheme) (count : Nat) (salt password : Bytes) : Text :=
  let mixed := s.digest (password ++ salt ++ password)
  let first := s.digest (password ++ salt ++ fill mixed password.length
    ++ lengthPieces mixed password password.length password.length)
  let spread := fill (s.digest (List.replicate password.length password).flatten) password.length
  let salted :=
    fill (s.digest (List.replicate (16 + (first.headD 0).toNat) salt).flatten) salt.length
  permuted (rounds s spread salted count 0 first) s.places

/-- The number of rounds that is written out, and what is used if none is. -/
def rounds? (parts : List Text) : Option (Nat × List Text) :=
  match parts with
  | first :: more =>
    match Text.dropPrefix? first "rounds=".toList with
    | none => some (5000, parts)
    | some written =>
      match written, Text.toInt? written with
      | '0' :: _, _ => none
      | _, some count =>
        if 1000 ≤ count ∧ count ≤ 999999999 then some (count.toNat, more) else none
      | _, none => none
  | [] => none

/-- Whether a hash, which is what follows the mark in `tail`, is that of the password. -/
def verify (s : Scheme) (tail : Text) (password : Bytes) : Bool :=
  match rounds? (Text.splitOn (· == '$') tail) with
  | some (count, [salt, written]) =>
    salt.length ≤ 16 && isWritten salt && !password.contains 0 && isWritten written
      && written.length == (s.places.map (·.length + 1)).foldl (· + ·) 0
      && written == checksum s count (Utf8.encode salt) password
  | _ => false

end HtGate.Password.Sha2Crypt
