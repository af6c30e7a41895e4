import HtGate.Digest.Blowfish
import HtGate.Password.Alphabet
import HtGate.Text.Decimal
/-!
# Password hashes by Blowfish

A text enciphered under a schedule that is costly to make. The hash is written as a mark, the cost in
two digits, 22 characters of salt and 31 of checksum. The spare bits of the last character of each are
not looked at. Only the first 72 bytes of a password count.
-/

namespace HtGate.Password.Bcrypt

/-- The text that is enciphered. -/
def plain : List Nat := [0x4F727068, 0x65616E42, 0x65686F6C, 0x64657253, 0x63727944, 0x6F756274]

/-- The words enciphered two at a time, 64 times each. -/
def encipherAll (s : Digest.Blowfish.Schedule) : List Nat → List Nat
  | a :: b :: more =>
    let (left, right) := Digest.Blowfish.encipherTimes s 64 (a.toUInt32, b.toUInt32)
    left.toNat :: right.toNat :: encipherAll s more
  | _ => []

/-- The checksum of a key of at most 72 bytes: 184 bits and two spare ones. -/
def checksum (cost : Nat) (salt key : Bytes) : Text :=
  let s := Digest.Blowfish.costly cost salt.toArray key.toArray
  let n := (encipherAll s plain).foldl (fun n w => n <<< 32 + w) 0
  highFirst lettersFirst 31 (n / 256 * 4)

/-- The bytes of a salt. -/
def saltBytes (salt : Text) : Bytes :=
  Digest.toBigEndian 16 (highFirstValue lettersFirst salt / 16)

/-- A checksum with its spare bits cleared. -/
def repair (written : Text) : Text :=
  highFirst lettersFirst 31 (highFirstValue lettersFirst written / 4 * 4)

/-- The key of a password: its bytes and a zero, at most 72 of them. The oldest mark has no zero, and
repeats the password instead. -/
def key (oldest : Bool) (password : Bytes) : Bytes :=
  if oldest && !password.isEmpty then fill password 72 else (password ++ [0]).take 72

/-- The cost written in two digits. -/
def cost? (t : Text) : Option Nat :=
  match t with
  | [a, b] =>
    if '0' ≤ a && a ≤ '9' && '0' ≤ b && b ≤ '9' then
      let cost := (a.toNat - 48) * 10 + (b.toNat - 48)
      if 4 ≤ cost && cost ≤ 31 then some cost else none
    else none
  | _ => none

/-- Whether a hash, which is what follows the mark in `tail`, is that of the password. -/
def verify (oldest : Bool) (tail : Text) (password : Bytes) : Bool :=
  match Text.splitOn (· == '$') tail with
  | [cost, data] =>
    match cost? cost with
    | some cost =>
      data.length == 53 && isWritten data && !password.contains 0 && password.length ≤ 4096
        && repair (data.drop 22) == checksum cost (saltBytes (data.take 22)) (key oldest password)
    | none => false
  | _ => false

end HtGate.Password.Bcrypt
