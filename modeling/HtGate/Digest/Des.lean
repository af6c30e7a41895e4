import HtGate.Digest.Words
/-!
# DES

The cipher of FIPS 46-3 on lists of bits, with the change that password hashing makes: a salt of twelve
bits says which bits of the expanded half change places with those 24 further on.
-/

namespace HtGate.Digest.Des

/-- Bits, the highest first. -/
abbrev Bits := List Bool

/-- The lowest `width` bits of a number. -/
def bitsOf : Nat → Nat → Bits
  | 0, _ => []
  | width + 1, n => bitsOf width (n / 2) ++ [n % 2 == 1]

/-- The number that bits write. -/
def valueOf (bits : Bits) : Nat := bits.foldl (fun n b => 2 * n + b.toNat) 0

/-- The bits at the given places, counted from one. -/
def select (places : List Nat) (bits : Bits) : Bits :=
  let a := bits.toArray
  places.map fun i => a.getD (i - 1) false

/-- Bit by bit, whether the two differ. -/
def differ (a b : Bits) : Bits := a.zipWith (fun x y => x != y) b

/-- The first permutation of a block. -/
def initialPlaces : List Nat :=
  [58, 50, 42, 34, 26, 18, 10, 2, 60, 52, 44, 36, 28, 20, 12, 4, 62, 54, 46, 38, 30, 22, 14, 6, 64,
    56, 48, 40, 32, 24, 16, 8, 57, 49, 41, 33, 25, 17, 9, 1, 59, 51, 43, 35, 27, 19, 11, 3, 61, 53,
    45, 37, 29, 21, 13, 5, 63, 55, 47, 39, 31, 23, 15, 7]

/-- The last permutation of a block. -/
def finalPlaces : List Nat :=
  [40, 8, 48, 16, 56, 24, 64, 32, 39, 7, 47, 15, 55, 23, 63, 31, 38, 6, 46, 14, 54, 22, 62, 30, 37,
    5, 45, 13, 53, 21, 61, 29, 36, 4, 44, 12, 52, 20, 60, 28, 35, 3, 43, 11, 51, 19, 59, 27, 34, 2,
    42, 10, 50, 18, 58, 26, 33, 1, 41, 9, 49, 17, 57, 25]

/-- The expansion of a half to 48 bits. -/
def expansionPlaces : List Nat :=
  [32, 1, 2, 3, 4, 5, 4, 5, 6, 7, 8, 9, 8, 9, 10, 11, 12, 13, 12, 13, 14, 15, 16, 17, 16, 17, 18, 19,
    20, 21, 20, 21, 22, 23, 24, 25, 24, 25, 26, 27, 28, 29, 28, 29, 30, 31, 32, 1]

/-- The permutation of the bits that come out of the boxes. -/
def mixPlaces : List Nat :=
  [16, 7, 20, 21, 29, 12, 28, 17, 1, 15, 23, 26, 5, 18, 31, 10, 2, 8, 24, 14, 32, 27, 3, 9, 19, 13,
    30, 6, 22, 11, 4, 25]

/-- The bits of the key that are used. -/
def keyPlaces : List Nat :=
  [57, 49, 41, 33, 25, 17, 9, 1, 58, 50, 42, 34, 26, 18, 10, 2, 59, 51, 43, 35, 27, 19, 11, 3, 60,
    52, 44, 36, 63, 55, 47, 39, 31, 23, 15, 7, 62, 54, 46, 38, 30, 22, 14, 6, 61, 53, 45, 37, 29, 21,
    13, 5, 28, 20, 12, 4]

/-- The bits of the turned key that make a round's key. -/
def roundPlaces : List Nat :=
  [14, 17, 11, 24, 1, 5, 3, 28, 15, 6, 21, 10, 23, 19, 12, 4, 26, 8, 16, 7, 27, 20, 13, 2, 41, 52,
    31, 37, 47, 55, 30, 40, 51, 45, 33, 48, 44, 49, 39, 56, 34, 53, 46, 42, 50, 36, 29, 32]

/-- How far the halves of the key are turned before each round. -/
def turns : List Nat := [1, 1, 2, 2, 2, 2, 2, 2, 1, 2, 2, 2, 2, 2, 2, 1]

/-- The eight boxes, each of four rows. -/
def boxes : List (Array Nat) :=
  [#[14, 4, 13, 1, 2, 15, 11, 8, 3, 10, 6, 12, 5, 9, 0, 7, 0, 15, 7, 4, 14, 2, 13, 1, 10, 6, 12, 11,
      9, 5, 3, 8, 4, 1, 14, 8, 13, 6, 2, 11, 15, 12, 9, 7, 3, 10, 5, 0, 15, 12, 8, 2, 4, 9, 1, 7, 5,
      11, 3, 14, 10, 0, 6, 13],
    #[15, 1, 8, 14, 6, 11, 3, 4, 9, 7, 2, 13, 12, 0, 5, 10, 3, 13, 4, 7, 15, 2, 8, 14, 12, 0, 1, 10,
      6, 9, 11, 5, 0, 14, 7, 11, 10, 4, 13, 1, 5, 8, 12, 6, 9, 3, 2, 15, 13, 8, 10, 1, 3, 15, 4, 2,
      11, 6, 7, 12, 0, 5, 14, 9],
    #[10, 0, 9, 14, 6, 3, 15, 5, 1, 13, 12, 7, 11, 4, 2, 8, 13, 7, 0, 9, 3, 4, 6, 10, 2, 8, 5, 14,
      12, 11, 15, 1, 13, 6, 4, 9, 8, 15, 3, 0, 11, 1, 2, 12, 5, 10, 14, 7, 1, 10, 13, 0, 6, 9, 8, 7,
      4, 15, 14, 3, 11, 5, 2, 12],
    #[7, 13, 14, 3, 0, 6, 9, 10, 1, 2, 8, 5, 11, 12, 4, 15, 13, 8, 11, 5, 6, 15, 0, 3, 4, 7, 2, 12,
      1, 10, 14, 9, 10, 6, 9, 0, 12, 11, 7, 13, 15, 1, 3, 14, 5, 2, 8, 4, 3, 15, 0, 6, 10, 1, 13, 8,
      9, 4, 5, 11, 12, 7, 2, 14],
    #[2, 12, 4, 1, 7, 10, 11, 6, 8, 5, 3, 15, 13, 0, 14, 9, 14, 11, 2, 12, 4, 7, 13, 1, 5, 0, 15, 10,
      3, 9, 8, 6, 4, 2, 1, 11, 10, 13, 7, 8, 15, 9, 12, 5, 6, 3, 0, 14, 11, 8, 12, 7, 1, 14, 2, 13,
      6, 15, 0, 9, 10, 4, 5, 3],
    #[12, 1, 10, 15, 9, 2, 6, 8, 0, 13, 3, 4, 14, 7, 5, 11, 10, 15, 4, 2, 7, 12, 9, 5, 6, 1, 13, 14,
      0, 11, 3, 8, 9, 14, 15, 5, 2, 8, 12, 3, 7, 0, 4, 10, 1, 13, 11, 6, 4, 3, 2, 12, 9, 5, 15, 10,
      11, 14, 1, 7, 6, 0, 8, 13],
    #[4, 11, 2, 14, 15, 0, 8, 13, 3, 12, 9, 7, 5, 10, 6, 1, 13, 0, 11, 7, 4, 9, 1, 10, 14, 3, 5, 12,
      2, 15, 8, 6, 1, 4, 11, 13, 12, 3, 7, 14, 10, 15, 6, 8, 0, 5, 9, 2, 6, 11, 13, 8, 1, 4, 10, 7,
      9, 5, 0, 15, 14, 2, 3, 12],
    #[13, 2, 8, 4, 6, 15, 11, 1, 10, 9, 3, 14, 5, 0, 12, 7, 1, 15, 13, 8, 10, 3, 7, 4, 12, 5, 6, 11,
      0, 14, 9, 2, 7, 11, 4, 1, 9, 12, 14, 2, 0, 6, 10, 13, 15, 3, 5, 8, 2, 1, 14, 7, 4, 10, 8, 13,
      15, 12, 9, 0, 3, 5, 6, 11]]

/-- Six bits as an entry of a box: the outer two choose the row, the inner four the place in it. -/
def lookUp (box : Array Nat) (six : Bits) : Bits :=
  let n := valueOf six
  bitsOf 4 (box.getD ((n / 32 * 2 + n % 2) * 16 + n / 2 % 16) 0)

/-- Expands a half; bits that the salt names change places with those 24 further on. -/
def expand (salt : Bits) (half : Bits) : Bits :=
  let bits := select expansionPlaces half
  let first := bits.take 24
  let second := bits.drop 24
  let chosen := salt ++ List.replicate 24 false
  let swapped := (first.zip second).zip chosen
  swapped.map (fun ((a, b), s) => if s then b else a)
    ++ swapped.map (fun ((a, b), s) => if s then a else b)

/-- What a round makes of a half. -/
def mix (salt key half : Bits) : Bits :=
  let bits := differ (expand salt half) key
  select mixPlaces ((boxes.zip (pieces 6 8 bits)).flatMap fun (box, six) => lookUp box six)

/-- Turns the bits to the left. -/
def turn (n : Nat) (bits : Bits) : Bits := bits.drop n ++ bits.take n

/-- The keys of the rounds from a key's halves. -/
def roundKeys : List Nat → Bits → Bits → List Bits
  | [], _, _ => []
  | n :: more, left, right =>
    let left := turn n left
    let right := turn n right
    select roundPlaces (left ++ right) :: roundKeys more left right

/-- The keys of the rounds of a key of 64 bits. -/
def schedule (key : Bits) : List Bits :=
  let bits := select keyPlaces key
  roundKeys turns (bits.take 28) (bits.drop 28)

/-- Enciphers a block. -/
def encipher (salt : Bits) (keys : List Bits) (block : Bits) : Bits :=
  let bits := select initialPlaces block
  let (left, right) := keys.foldl
    (fun (halves : Bits × Bits) key => (halves.2, differ halves.1 (mix salt key halves.2)))
    (bits.take 32, bits.drop 32)
  select finalPlaces (right ++ left)

/-- Enciphers a block a number of times. -/
def encipherTimes (salt : Bits) (keys : List Bits) : Nat → Bits → Bits
  | 0, block => block
  | n + 1, block => encipherTimes salt keys n (encipher salt keys block)

end HtGate.Digest.Des
