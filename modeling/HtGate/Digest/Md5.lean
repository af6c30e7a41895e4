import HtGate.Digest.Words
/-!
# MD5

The digest of 16 bytes of RFC 1321.
-/

namespace HtGate.Digest.Md5

/-- The constants of the 64 steps: the integer parts of `2 ^ 32 * |sin (i + 1)|`. -/
def constants : Array UInt32 :=
  #[0xD76AA478, 0xE8C7B756, 0x242070DB, 0xC1BDCEEE, 0xF57C0FAF, 0x4787C62A, 0xA8304613, 0xFD469501,
    0x698098D8, 0x8B44F7AF, 0xFFFF5BB1, 0x895CD7BE, 0x6B901122, 0xFD987193, 0xA679438E, 0x49B40821,
    0xF61E2562, 0xC040B340, 0x265E5A51, 0xE9B6C7AA, 0xD62F105D, 0x02441453, 0xD8A1E681, 0xE7D3FBC8,
    0x21E1CDE6, 0xC33707D6, 0xF4D50D87, 0x455A14ED, 0xA9E3E905, 0xFCEFA3F8, 0x676F02D9, 0x8D2A4C8A,
    0xFFFA3942, 0x8771F681, 0x6D9D6122, 0xFDE5380C, 0xA4BEEA44, 0x4BDECFA9, 0xF6BB4B60, 0xBEBFBC70,
    0x289B7EC6, 0xEAA127FA, 0xD4EF3085, 0x04881D05, 0xD9D4D039, 0xE6DB99E5, 0x1FA27CF8, 0xC4AC5665,
    0xF4292244, 0x432AFF97, 0xAB9423A7, 0xFC93A039, 0x655B59C3, 0x8F0CCC92, 0xFFEFF47D, 0x85845DD1,
    0x6FA87E4F, 0xFE2CE6E0, 0xA3014314, 0x4E0811A1, 0xF7537E82, 0xBD3AF235, 0x2AD7D2BB, 0xEB86D391]

/-- How far the steps of each of the four rounds turn a word, in turn. -/
def turns : Array UInt32 := #[7, 12, 17, 22, 5, 9, 14, 20, 4, 11, 16, 23, 6, 10, 15, 21]

/-- The four words that are carried from block to block. -/
structure State where
  a : UInt32 := 0x67452301
  b : UInt32 := 0xEFCDAB89
  c : UInt32 := 0x98BADCFE
  d : UInt32 := 0x10325476
  deriving DecidableEq, Repr

/-- The mixture of three words in a step. -/
def mix (i : Nat) (b c d : UInt32) : UInt32 :=
  if i < 16 then (b &&& c) ||| (~~~b &&& d)
  else if i < 32 then (d &&& b) ||| (~~~d &&& c)
  else if i < 48 then b ^^^ c ^^^ d
  else c ^^^ (b ||| ~~~d)

/-- Which word of the block a step uses. -/
def wordIndex (i : Nat) : Nat :=
  if i < 16 then i
  else if i < 32 then (5 * i + 1) % 16
  else if i < 48 then (3 * i + 5) % 16
  else 7 * i % 16

/-- One step. -/
def step (block : Array UInt32) (s : State) (i : Nat) : State :=
  let sum := s.a + mix i s.b s.c s.d + constants.getD i 0 + block.getD (wordIndex i) 0
  ⟨s.d, s.b + rotateLeft sum (turns.getD (i / 16 * 4 + i % 4) 0), s.b, s.c⟩

/-- The words of a block, each with its lowest byte first. -/
def words (block : Bytes) : Array UInt32 :=
  ((pieces 4 block.length block).map fun w => (bigEndian w.reverse).toUInt32).toArray

/-- Works a block into the state. -/
def absorb (s : State) (block : Bytes) : State :=
  let t := (List.range 64).foldl (step (words block)) s
  ⟨s.a + t.a, s.b + t.b, s.c + t.c, s.d + t.d⟩

/-- The digest of a message. -/
def digest (message : Bytes) : Bytes :=
  let s := (blocks 64 (toLittleEndian 8) message).foldl absorb {}
  [s.a, s.b, s.c, s.d].flatMap fun w => toLittleEndian 4 w.toNat

end HtGate.Digest.Md5
