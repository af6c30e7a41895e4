import HtGate.Digest.Words
/-!
# Blowfish

A cipher on two words of 32 bits with a key schedule of 18 subkeys and four boxes of 256 words. The
schedule starts from the bits of the fraction of pi, which are computed here by Machin's formula,
`pi = 16 arctan (1/5) - 4 arctan (1/239)`.
-/

namespace HtGate.Digest.Blowfish

/-- Sums the series of `arctan (1/x)` from the term with the denominator `k` on. The power is the scale
divided by a power of `x`, and signs alternate. -/
def arctanTerms (square : Nat) : Nat → Nat → Nat → Bool → Int → Int
  | 0, _, _, _, sum => sum
  | fuel + 1, power, k, negative, sum =>
    if power = 0 then sum
    else
      let term : Int := (power / k : Nat)
      arctanTerms square fuel (power / square) (k + 2) (!negative)
        (if negative then sum - term else sum + term)

/-- The arc tangent of `1/x`, times `2 ^ bits`. -/
def arctan (bits x : Nat) : Int := arctanTerms (x * x) bits (1 <<< bits / x) 1 false 0

/-- How many words the schedule has. -/
def wordCount : Nat := 18 + 4 * 256

/-- The first words of the fraction of pi. Sixty-four more bits are computed than are used. -/
def piWords : Array UInt32 :=
  let bits := 32 * wordCount + 64
  let pi := (16 * arctan bits 5 - 4 * arctan bits 239).toNat
  ((List.range wordCount).map fun i => (pi >>> (bits - 32 * (i + 1))).toUInt32).toArray

/-- The subkeys and the boxes, one after the other. -/
structure Schedule where
  subkeys : Array UInt32
  boxes : Array UInt32

/-- The schedule before any key. -/
def initial : Schedule := ⟨piWords.extract 0 18, piWords.extract 18 wordCount⟩

/-- What a word becomes by the four boxes. -/
def substitute (boxes : Array UInt32) (x : UInt32) : UInt32 :=
  ((boxes.getD (x >>> 24).toNat 0 + boxes.getD (256 + ((x >>> 16) &&& 0xFF).toNat) 0)
    ^^^ boxes.getD (512 + ((x >>> 8) &&& 0xFF).toNat) 0)
    + boxes.getD (768 + (x &&& 0xFF).toNat) 0

/-- The rounds from the subkey `i` on. -/
def rounds (s : Schedule) : Nat → Nat → UInt32 → UInt32 → UInt32 × UInt32
  | 0, _, left, right => (left, right)
  | n + 1, i, left, right =>
    let left := left ^^^ s.subkeys.getD i 0
    rounds s n (i + 1) (right ^^^ substitute s.boxes left) left

/-- Enciphers two words. -/
def encipher (s : Schedule) (left right : UInt32) : UInt32 × UInt32 :=
  let (left, right) := rounds s 16 0 left right
  (right ^^^ s.subkeys.getD 17 0, left ^^^ s.subkeys.getD 16 0)

/-- Eighteen words of a key that is repeated as often as needed. -/
def keyWords (key : Array UInt8) : Array UInt32 :=
  ((List.range 18).map fun i =>
    (bigEndian ((List.range 4).map fun j => key.getD ((4 * i + j) % key.size) 0)).toUInt32).toArray

/-- The schedule with the words of a key worked into the subkeys. -/
def mixKey (words : Array UInt32) (s : Schedule) : Schedule :=
  { s with subkeys := s.subkeys.zipWith (· ^^^ ·) words }

/-- Replaces the subkeys, two at a time, by what the words enciphered so far become; `salt` is mixed in
before each, and the walk goes on through the boxes. -/
def refill (salt : Array UInt32) : Nat → Nat → UInt32 → UInt32 → Schedule → Schedule
  | 0, _, _, _, s => s
  | n + 1, i, left, right, s =>
    let (left, right) :=
      encipher s (left ^^^ salt.getD (2 * i % salt.size) 0) (right ^^^ salt.getD ((2 * i + 1) % salt.size) 0)
    let s :=
      if i < 9 then
        { s with subkeys := (s.subkeys.setIfInBounds (2 * i) left).setIfInBounds (2 * i + 1) right }
      else
        let j := 2 * i - 18
        { s with boxes := (s.boxes.setIfInBounds j left).setIfInBounds (j + 1) right }
    refill salt n (i + 1) left right s

/-- Works a key, and a salt where there is one, into the schedule. -/
def expand (salt words : Array UInt32) (s : Schedule) : Schedule :=
  refill salt (wordCount / 2) 0 0 0 (mixKey words s)

/-- Works key and salt in by turns, a number of times. -/
def expandTimes (key salt : Array UInt32) : Nat → Schedule → Schedule
  | 0, s => s
  | n + 1, s => expandTimes key salt n (expand #[] salt (expand #[] key s))

/-- The schedule of a key and a salt of 16 bytes, made as costly as `2 ^ cost` turns. -/
def costly (cost : Nat) (salt key : Array UInt8) : Schedule :=
  let saltWords := (keyWords salt).extract 0 4
  let keyed := keyWords key
  expandTimes keyed (keyWords salt) (1 <<< cost) (expand saltWords keyed initial)

/-- Enciphers two words a number of times. -/
def encipherTimes (s : Schedule) : Nat → UInt32 × UInt32 → UInt32 × UInt32
  | 0, pair => pair
  | n + 1, pair => encipherTimes s n (encipher s pair.1 pair.2)

end HtGate.Digest.Blowfish
