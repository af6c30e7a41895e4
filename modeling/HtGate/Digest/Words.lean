import HtGate.Text.Utf8
/-!
# Words of bytes

Digests work on words of four or eight bytes, read from either end. A message is padded with a one bit,
zeros, and its length in bits, so that it fills whole blocks.
-/

namespace HtGate.Digest

/-- The number that bytes write, the highest first. -/
def bigEndian (bytes : Bytes) : Nat := bytes.foldl (fun n b => n * 256 + b.toNat) 0

/-- The lowest `width` bytes of a number, the highest first. -/
def toBigEndian : Nat → Nat → Bytes
  | 0, _ => []
  | width + 1, n => toBigEndian width (n / 256) ++ [(n % 256).toUInt8]

/-- The lowest `width` bytes of a number, the lowest first. -/
def toLittleEndian : Nat → Nat → Bytes
  | 0, _ => []
  | width + 1, n => (n % 256).toUInt8 :: toLittleEndian width (n / 256)

/-- The pieces of a list, each of `size` elements. -/
def pieces {α : Type} (size : Nat) : Nat → List α → List (List α)
  | 0, _ => []
  | fuel + 1, xs => if xs.isEmpty then [] else xs.take size :: pieces size fuel (xs.drop size)

/-- The blocks of a message of `size` bytes each: after the message a one bit, zeros, and its length in
bits as the last bytes. -/
def blocks (size : Nat) (length : Nat → Bytes) (message : Bytes) : List Bytes :=
  let tail := length (8 * message.length)
  let filled := (message.length + 1 + tail.length) % size
  let zeros := if filled = 0 then 0 else size - filled
  let padded := message ++ 0x80 :: List.replicate zeros 0 ++ tail
  pieces size padded.length padded

/-- A word of 32 bits with its bits turned to the left. -/
def rotateLeft (x : UInt32) (n : UInt32) : UInt32 := (x <<< n) ||| (x >>> (32 - n))

/-- A word of 32 bits with its bits turned to the right. -/
def rotateRight (x : UInt32) (n : UInt32) : UInt32 := (x >>> n) ||| (x <<< (32 - n))

/-- A word of 64 bits with its bits turned to the right. -/
def rotateRight64 (x : UInt64) (n : UInt64) : UInt64 := (x >>> n) ||| (x <<< (64 - n))

end HtGate.Digest
