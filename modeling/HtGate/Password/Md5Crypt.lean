import HtGate.Digest.Md5
import HtGate.Password.Alphabet
/-!
# Password hashes by MD5

A thousand rounds of MD5 over the password, the salt and a mark of the scheme. The hash is written as
the mark, the salt of up to eight characters and 22 characters of checksum, with dollar signs between.
-/

namespace HtGate.Password.Md5Crypt

/-- The bytes that the bits of the length choose: a zero for a one, the first byte of the password for a
zero. -/
def lengthBytes (password : Bytes) : Nat → Nat → Bytes
  | 0, _ => []
  | fuel + 1, n =>
    if n = 0 then []
    else (if n % 2 = 1 then 0 else password.headD 0) :: lengthBytes password fuel (n / 2)

/-- One round. -/
def round (password salt digest : Bytes) (i : Nat) : Bytes :=
  Digest.Md5.digest
    ((if i % 2 = 1 then password else digest) ++ (if i % 3 = 0 then [] else salt)
      ++ (if i % 7 = 0 then [] else password) ++ (if i % 2 = 1 then digest else password))

/-- The places of the digest's bytes in the checksum. -/
def places : List (List Nat) :=
  [[0, 6, 12], [1, 7, 13], [2, 8, 14], [3, 9, 15], [4, 10, 5], [11]]

/-- The checksum of a password under a salt. -/
def checksum (mark salt password : Bytes) : Text :=
  let mixed := Digest.Md5.digest (password ++ salt ++ password)
  let first := Digest.Md5.digest (password ++ mark ++ salt ++ fill mixed password.length
    ++ lengthBytes password password.length password.length)
  permuted ((List.range 1000).foldl (round password salt) first) places

/-- Whether a hash with the given mark, which is what follows the mark in `tail`, is that of the
password. -/
def verify (mark : String) (tail : Text) (password : Bytes) : Bool :=
  match Text.splitOn (· == '$') tail with
  | [salt, written] =>
    salt.length ≤ 8 && isWritten salt && !password.contains 0
      && written == checksum (Utf8.encode mark.toList) (Utf8.encode salt) password
  | _ => false

end HtGate.Password.Md5Crypt
