/-!
# Little-endian bytes

The byte layouts the cipher works in: numbers are read from and written to bytes least significant
first, and messages are cut into blocks of a fixed size, the last one possibly shorter.
-/

namespace FormIntegrity.Cipher

/-- The number whose little-endian bytes are given. -/
def readLE (bytes : List UInt8) : Nat :=
  bytes.foldr (fun b acc => b.toNat + 256 * acc) 0

/-- The `count` little-endian bytes of a number, modulo `256 ^ count`. -/
def writeLE : Nat → Nat → List UInt8
  | 0, _ => []
  | count + 1, n => n.toUInt8 :: writeLE count (n / 256)

/-- The 32-bit words of a byte string, four bytes each, little-endian. -/
def wordsLE (bytes : List UInt8) : List UInt32 :=
  (List.range (bytes.length / 4)).map fun i => (readLE ((bytes.drop (4 * i)).take 4)).toUInt32

/-- The little-endian bytes of a list of words. -/
def wordBytes (words : List UInt32) : List UInt8 :=
  words.flatMap fun w => writeLE 4 w.toNat

/-- A message cut into blocks of `size` bytes; the last block may be shorter, and the empty
message has no block. -/
def blocks (size : Nat) (bytes : List UInt8) : List (List UInt8) :=
  if 0 < size ∧ 0 < bytes.length then bytes.take size :: blocks size (bytes.drop size) else []
termination_by bytes.length
decreasing_by simp only [List.length_drop]; omega

/-- Zero bytes that fill a message of `n` bytes up to a multiple of sixteen. -/
def padding16 (n : Nat) : List UInt8 :=
  List.replicate ((16 - n % 16) % 16) 0

/-- The bytewise exclusive or of two byte strings, as long as the shorter. -/
def xorBytes (a b : List UInt8) : List UInt8 :=
  List.zipWith (· ^^^ ·) a b

end FormIntegrity.Cipher
