import HtGate.Fault
import HtGate.Text.Whitespace
/-!
# IPv4 addresses

An address is a number of 32 bits, written as four octets with points between them. An octet is a
number up to 255 in decimal without leading zeros, so that every address has one spelling.
-/

namespace HtGate

/-- Why a text is no address and no network. -/
inductive AddressError where
  /-- There is no text. -/
  | empty (what : Text)
  /-- The text does not begin like four octets. -/
  | notQuad (t : Text)
  /-- An octet of several digits begins with a zero. -/
  | leadingZero (octet : Text)
  /-- An octet is larger than 255. -/
  | octetRange (octet : Text)
  /-- A slash is not followed by a prefix length. -/
  | missingPrefix (t : Text)
  /-- A prefix length is larger than 32. -/
  | prefixRange (bits : Nat)
  /-- There is text after the address. -/
  | trailing (t : Text)
  deriving DecidableEq, Repr

namespace AddressError

/-- The kind of a failure. -/
def kind : AddressError → Text
  | empty _ => "empty".toList
  | notQuad _ | missingPrefix _ => "syntax".toList
  | leadingZero _ => "leading_zero".toList
  | octetRange _ => "octet_range".toList
  | prefixRange _ => "prefix_range".toList
  | trailing _ => "trailing".toList

/-- The wording of a failure. -/
def message : AddressError → Text
  | empty what => "empty ".toList ++ what
  | notQuad t => "not a dotted-quad address: ".toList ++ Text.quoted t
  | leadingZero octet => "octet has a leading zero: ".toList ++ octet
  | octetRange octet => "octet out of range: ".toList ++ octet
  | missingPrefix t => "missing prefix length: ".toList ++ Text.quoted t
  | prefixRange bits => "prefix length out of range: ".toList ++ Text.ofNat bits
  | trailing t => "unexpected trailing text: ".toList ++ Text.quoted t

end AddressError

/-- A reading of an address either has a result or a reason why the text is none; a number too long to
be read ends it altogether. -/
abbrev Reading (α : Type) := Except Fault (Except AddressError α)

namespace Ipv4

/-- The longest run of ASCII digits at the start, and the rest. -/
def digitRun (t : Text) : Text × Text :=
  (t.takeWhile Text.isAsciiDigit, t.dropWhile Text.isAsciiDigit)

/-- Four runs of digits with points between them, and the rest. -/
def quad? (t : Text) : Option (List Text × Text) :=
  let (a, r) := digitRun t
  if a.isEmpty then none else
  match r with
  | '.' :: r =>
    let (b, r) := digitRun r
    if b.isEmpty then none else
    match r with
    | '.' :: r =>
      let (c, r) := digitRun r
      if c.isEmpty then none else
      match r with
      | '.' :: r =>
        let (d, r) := digitRun r
        if d.isEmpty then none else some ([a, b, c, d], r)
      | _ => none
    | _ => none
  | _ => none

/-- The value of an octet. -/
def octet (digits : Text) : Reading Nat :=
  if 1 < digits.length && digits.head? == some '0' then .ok (.error (.leadingZero digits))
  else
    match Fault.readNumeral digits with
    | .error fault => .error fault
    | .ok n => if 255 < n then .ok (.error (.octetRange digits)) else .ok (.ok n)

/-- The number that octets form after `address`, the first being the highest. -/
def gather (address : Nat) : List Text → Reading Nat
  | [] => .ok (.ok address)
  | digits :: more =>
    match octet digits with
    | .error fault => .error fault
    | .ok (.error reason) => .ok (.error reason)
    | .ok (.ok n) => gather (address * 256 + n) more

/-- The address at the start of a text, and the rest. -/
def readQuad (t : Text) : Reading (Nat × Text) :=
  match quad? t with
  | none => .ok (.error (.notQuad t))
  | some (octets, rest) =>
    match gather 0 octets with
    | .error fault => .error fault
    | .ok (.error reason) => .ok (.error reason)
    | .ok (.ok address) => .ok (.ok (address, rest))

/-- The address that a text names, whitespace around it aside. -/
def parse (t : Option Text) : Reading Nat :=
  let s := Text.trim (t.getD [])
  if s.isEmpty then .ok (.error (.empty "address".toList))
  else
    match readQuad s with
    | .error fault => .error fault
    | .ok (.error reason) => .ok (.error reason)
    | .ok (.ok (address, [])) => .ok (.ok address)
    | .ok (.ok (_, rest)) => .ok (.error (.trailing rest))

/-- The eight bits of a number that stand `shift` bits up. -/
def byteAt (n : Int) (shift : Nat) : Nat := ((n >>> shift) % 256).toNat

/-- The spelling of an address; bits above the lowest 32 are not looked at. -/
def format (n : Int) : Text :=
  Text.joinWith ['.'] ([24, 16, 8, 0].map fun shift => Text.ofNat (byteAt n shift))

end Ipv4

end HtGate
