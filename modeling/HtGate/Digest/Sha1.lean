import HtGate.Digest.Words
/-!
# SHA-1

The digest of 20 bytes of FIPS 180-4.
-/

namespace HtGate.Digest.Sha1

/-- The five words that are carried from block to block. -/
structure State where
  a : UInt32 := 0x67452301
  b : UInt32 := 0xEFCDAB89
  c : UInt32 := 0x98BADCFE
  d : UInt32 := 0x10325476
  e : UInt32 := 0xC3D2E1F0
  deriving DecidableEq, Repr

/-- The mixture of three words in a step, and the step's constant. -/
def mix (i : Nat) (b c d : UInt32) : UInt32 × UInt32 :=
  if i < 20 then ((b &&& c) ||| (~~~b &&& d), 0x5A827999)
  else if i < 40 then (b ^^^ c ^^^ d, 0x6ED9EBA1)
  else if i < 60 then ((b &&& c) ||| (b &&& d) ||| (c &&& d), 0x8F1BBCDC)
  else (b ^^^ c ^^^ d, 0xCA62C1D6)

/-- The words of a block followed by those made from them, 80 in all. -/
def schedule (block : Bytes) : Array UInt32 :=
  (List.range 64).foldl
    (fun w i =>
      w.push (rotateLeft (w.getD (i + 13) 0 ^^^ w.getD (i + 8) 0 ^^^ w.getD (i + 2) 0 ^^^ w.getD i 0) 1))
    ((pieces 4 block.length block).map fun w => (bigEndian w).toUInt32).toArray

/-- One step. -/
def step (w : Array UInt32) (s : State) (i : Nat) : State :=
  let (mixed, constant) := mix i s.b s.c s.d
  ⟨rotateLeft s.a 5 + mixed + s.e + constant + w.getD i 0, s.a, rotateLeft s.b 30, s.c, s.d⟩

/-- Works a block into the state. -/
def absorb (s : State) (block : Bytes) : State :=
  let t := (List.range 80).foldl (step (schedule block)) s
  ⟨s.a + t.a, s.b + t.b, s.c + t.c, s.d + t.d, s.e + t.e⟩

/-- The digest of a message. -/
def digest (message : Bytes) : Bytes :=
  let s := (blocks 64 (toBigEndian 8) message).foldl absorb {}
  [s.a, s.b, s.c, s.d, s.e].flatMap fun w => toBigEndian 4 w.toNat

end HtGate.Digest.Sha1
