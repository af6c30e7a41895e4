import HtGate.Digest.Words
/-!
# SHA-256

The digest of 32 bytes of FIPS 180-4.
-/

namespace HtGate.Digest.Sha256

/-- The constants of the 64 steps: the first bits of the fractions of the cube roots of the primes. -/
def constants : Array UInt32 :=
  #[0x428A2F98, 0x71374491, 0xB5C0FBCF, 0xE9B5DBA5, 0x3956C25B, 0x59F111F1, 0x923F82A4, 0xAB1C5ED5,
    0xD807AA98, 0x12835B01, 0x243185BE, 0x550C7DC3, 0x72BE5D74, 0x80DEB1FE, 0x9BDC06A7, 0xC19BF174,
    0xE49B69C1, 0xEFBE4786, 0x0FC19DC6, 0x240CA1CC, 0x2DE92C6F, 0x4A7484AA, 0x5CB0A9DC, 0x76F988DA,
    0x983E5152, 0xA831C66D, 0xB00327C8, 0xBF597FC7, 0xC6E00BF3, 0xD5A79147, 0x06CA6351, 0x14292967,
    0x27B70A85, 0x2E1B2138, 0x4D2C6DFC, 0x53380D13, 0x650A7354, 0x766A0ABB, 0x81C2C92E, 0x92722C85,
    0xA2BFE8A1, 0xA81A664B, 0xC24B8B70, 0xC76C51A3, 0xD192E819, 0xD6990624, 0xF40E3585, 0x106AA070,
    0x19A4C116, 0x1E376C08, 0x2748774C, 0x34B0BCB5, 0x391C0CB3, 0x4ED8AA4A, 0x5B9CCA4F, 0x682E6FF3,
    0x748F82EE, 0x78A5636F, 0x84C87814, 0x8CC70208, 0x90BEFFFA, 0xA4506CEB, 0xBEF9A3F7, 0xC67178F2]

/-- The eight words that are carried from block to block, at first the first bits of the fractions of
the square roots of the primes. -/
structure State where
  a : UInt32 := 0x6A09E667
  b : UInt32 := 0xBB67AE85
  c : UInt32 := 0x3C6EF372
  d : UInt32 := 0xA54FF53A
  e : UInt32 := 0x510E527F
  f : UInt32 := 0x9B05688C
  g : UInt32 := 0x1F83D9AB
  h : UInt32 := 0x5BE0CD19
  deriving DecidableEq, Repr

/-- The words of a block followed by those made from them, 64 in all. -/
def schedule (block : Bytes) : Array UInt32 :=
  (List.range 48).foldl
    (fun w i =>
      let x := w.getD (i + 1) 0
      let y := w.getD (i + 14) 0
      let low := rotateRight x 7 ^^^ rotateRight x 18 ^^^ (x >>> 3)
      let high := rotateRight y 17 ^^^ rotateRight y 19 ^^^ (y >>> 10)
      w.push (w.getD i 0 + low + w.getD (i + 9) 0 + high))
    ((pieces 4 block.length block).map fun w => (bigEndian w).toUInt32).toArray

/-- One step. -/
def step (w : Array UInt32) (s : State) (i : Nat) : State :=
  let x := s.e
  let y := s.a
  let high := rotateRight x 6 ^^^ rotateRight x 11 ^^^ rotateRight x 25
  let choice := (s.e &&& s.f) ^^^ (~~~s.e &&& s.g)
  let first := s.h + high + choice + constants.getD i 0 + w.getD i 0
  let low := rotateRight y 2 ^^^ rotateRight y 13 ^^^ rotateRight y 22
  let majority := (s.a &&& s.b) ^^^ (s.a &&& s.c) ^^^ (s.b &&& s.c)
  ⟨first + low + majority, s.a, s.b, s.c, s.d + first, s.e, s.f, s.g⟩

/-- Works a block into the state. -/
def absorb (s : State) (block : Bytes) : State :=
  let t := (List.range 64).foldl (step (schedule block)) s
  ⟨s.a + t.a, s.b + t.b, s.c + t.c, s.d + t.d, s.e + t.e, s.f + t.f, s.g + t.g, s.h + t.h⟩

/-- The digest of a message. -/
def digest (message : Bytes) : Bytes :=
  let s := (blocks 64 (toBigEndian 8) message).foldl absorb {}
  [s.a, s.b, s.c, s.d, s.e, s.f, s.g, s.h].flatMap fun w => toBigEndian 4 w.toNat

end HtGate.Digest.Sha256
