import HtGate.Digest.Des
import HtGate.Password.Alphabet
/-!
# Password hashes by DES

A block of zeros enciphered 25 times, with the first eight characters of the password as the key and the
salt of two characters deciding which bits change places. The hash is the salt and eleven characters of
checksum.
-/

namespace HtGate.Password.DesCrypt

/-- The key of a password: the lowest seven bits of each of eight bytes and a parity bit that is not
used. -/
def key (password : Bytes) : Digest.Des.Bits :=
  (fill8 password).flatMap fun b => Digest.Des.bitsOf 7 (b.toNat % 128) ++ [false]
where
  /-- The first eight bytes, with zeros where there are fewer. -/
  fill8 (password : Bytes) : Bytes := (password ++ List.replicate 8 0).take 8

/-- The bits of the salt, the lowest first. -/
def saltBits (salt : Text) : Digest.Des.Bits :=
  salt.flatMap fun c => (Digest.Des.bitsOf 6 (letterValue alphabet c)).reverse

/-- The checksum of a password under a salt. -/
def checksum (salt : Text) (password : Bytes) : Text :=
  let block := Digest.Des.encipherTimes (saltBits salt) (Digest.Des.schedule (key password)) 25
    (List.replicate 64 false)
  highFirst alphabet 11 (Digest.Des.valueOf (block ++ [false, false]))

/-- Whether a hash is that of the password. -/
def verify (hash : Text) (password : Bytes) : Bool :=
  hash.length == 13 && isWritten hash && !password.contains 0
    && hash.drop 2 == checksum (hash.take 2) password

end HtGate.Password.DesCrypt
