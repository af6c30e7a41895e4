import HtGate.Address.Ipv4
import HtGate.Text.Case
/-!
# Networks

A network is an address and a mask: the addresses that agree with it in the bits of the mask belong
to it. It is written `all`, as an address, or as an address with the length of its prefix. A host list
is a list of networks with blanks between them.
-/

namespace HtGate

/-- An address and a mask. -/
structure Network where
  address : Int
  mask : Int
  deriving DecidableEq, Repr

namespace Network

/-- Thirty-two bits, all set. -/
def fullMask : Nat := 0xFFFFFFFF

/-- The mask of a prefix length up to 32. -/
def maskOf (bits : Nat) : Nat := fullMask - (1 <<< (32 - bits) - 1)

/-- The mask of a prefix length. No length, or a negative one, masks nothing. -/
def mask? (bits : Int) : Except Fault Nat :=
  if bits ≤ 0 then .ok 0
  else if 32 < bits then .error .prefixTooLong
  else .ok (maskOf bits.toNat)

/-- The number of bits set in a number. -/
def bitCount (n : Nat) : Nat := if h : n = 0 then 0 else n % 2 + bitCount (n / 2)
  termination_by n
  decreasing_by omega

/-- The number of bits set in the mask. -/
def prefixLength (network : Network) : Nat := bitCount network.mask.natAbs

/-- The bits that two integers have in common, negative ones with all their leading ones. -/
def commonBits : Int → Int → Int
  | .ofNat a, .ofNat b => Int.ofNat (a &&& b)
  | .ofNat a, .negSucc b => Int.ofNat (a ^^^ (a &&& b))
  | .negSucc a, .ofNat b => Int.ofNat (b ^^^ (b &&& a))
  | .negSucc a, .negSucc b => Int.negSucc (a ||| b)

/-- Whether an address belongs to the network. -/
def contains (network : Network) (ip : Int) : Bool :=
  commonBits ip network.mask == commonBits network.address network.mask

/-- The network of all addresses that agree with `address` in the first `bits` bits. -/
def ofPrefix (address bits : Nat) : Network :=
  ⟨Int.ofNat (address &&& maskOf bits), Int.ofNat (maskOf bits)⟩

/-- The network of an address with what follows it, where `t` is the whole text. -/
def withSuffix (t : Text) (address : Nat) (rest : Text) : Reading Network :=
  match rest with
  | '/' :: after =>
    let (digits, rest) := Ipv4.digitRun after
    if digits.isEmpty then .ok (.error (.missingPrefix t))
    else
      match Fault.readNumeral digits with
      | .error fault => .error fault
      | .ok bits =>
        if 32 < bits then .ok (.error (.prefixRange bits))
        else if (Text.trim rest).isEmpty then .ok (.ok (ofPrefix address bits))
        else .ok (.error (.trailing (Text.trim rest)))
  | rest =>
    if (Text.trim rest).isEmpty then .ok (.ok (ofPrefix address 32))
    else .ok (.error (.trailing (Text.trim rest)))

/-- Whether a text without whitespace at its start is the word for all addresses. -/
def isAll (s : Text) : Bool :=
  Text.lower (s.take 3) == "all".toList && (Text.trim (s.drop 3)).isEmpty

/-- The network that a text names, whitespace around it aside. -/
def parse (t : Option Text) : Reading Network :=
  match t with
  | none => .ok (.error (.empty "CIDR".toList))
  | some t =>
    let s := Text.trimStart t
    if s.isEmpty then .ok (.error (.empty "CIDR".toList))
    else if isAll s then .ok (.ok ⟨0, 0⟩)
    else
      match Ipv4.readQuad s with
      | .error fault => .error fault
      | .ok (.error reason) => .ok (.error reason)
      | .ok (.ok (address, rest)) => withSuffix t address rest

end Network

namespace HostList

/-- Whether one of the networks contains the address. Names of no network are passed over. -/
def anyContains (ip : Int) : List Text → Except Fault Bool
  | [] => .ok false
  | item :: more =>
    match Network.parse (some item) with
    | .error fault => .error fault
    | .ok (.error _) => anyContains ip more
    | .ok (.ok network) => if network.contains ip then .ok true else anyContains ip more

/-- Whether a host list contains the address. -/
def contains (list : Option Text) (ip : Int) : Except Fault Bool :=
  anyContains ip (Text.items (list.getD []))

end HostList

end HtGate
