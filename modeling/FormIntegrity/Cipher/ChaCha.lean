import FormIntegrity.Cipher.Bytes

/-!
# The ChaCha20 stream cipher

A block of key stream is computed from a 256-bit key, a 32-bit block counter and a 96-bit nonce: the
state of sixteen words (four constants, the key, the counter, the nonce) goes through twenty rounds
of additions, exclusive ors and rotations, and is added to its start. HChaCha20 derives a fresh key
from a key and a 128-bit nonce by the same rounds without the final addition; the extended-nonce
variant XChaCha20 takes a 192-bit nonce, derives a key from its first sixteen bytes, and uses the
last eight as a nonce after four zero bytes.
-/

namespace FormIntegrity.Cipher

/-- The four words that open every state: the text `expand 32-byte k`. -/
def sigma : List UInt32 := [0x61707865, 0x3320646e, 0x79622d32, 0x6b206574]

/-- A word rotated left by `n` bits, `0 < n < 32`. -/
def rotateLeft (x : UInt32) (n : UInt32) : UInt32 :=
  (x <<< n) ||| (x >>> (32 - n))

/-- The quarter round on the words at positions `a`, `b`, `c`, `d`. -/
def quarterRound (s : Array UInt32) (a b c d : Nat) : Array UInt32 :=
  let va := s.getD a 0
  let vb := s.getD b 0
  let vc := s.getD c 0
  let vd := s.getD d 0
  let va := va + vb
  let vd := rotateLeft (vd ^^^ va) 16
  let vc := vc + vd
  let vb := rotateLeft (vb ^^^ vc) 12
  let va := va + vb
  let vd := rotateLeft (vd ^^^ va) 8
  let vc := vc + vd
  let vb := rotateLeft (vb ^^^ vc) 7
  (((s.setIfInBounds a va).setIfInBounds b vb).setIfInBounds c vc).setIfInBounds d vd

/-- A column round followed by a diagonal round. -/
def doubleRound (s : Array UInt32) : Array UInt32 :=
  let s := quarterRound s 0 4 8 12
  let s := quarterRound s 1 5 9 13
  let s := quarterRound s 2 6 10 14
  let s := quarterRound s 3 7 11 15
  let s := quarterRound s 0 5 10 15
  let s := quarterRound s 1 6 11 12
  let s := quarterRound s 2 7 8 13
  quarterRound s 3 4 9 14

/-- The twenty rounds. -/
def rounds (s : Array UInt32) : Array UInt32 :=
  Nat.repeat doubleRound 10 s

/-- The starting state of a 32-byte key and four further words. -/
def initial (key : List UInt8) (tail : List UInt32) : Array UInt32 :=
  (sigma ++ wordsLE key ++ tail).toArray

/-- The 64-byte block of key stream at a counter under a 12-byte nonce. -/
def block (key : List UInt8) (counter : UInt32) (nonce : List UInt8) : List UInt8 :=
  let start := initial key (counter :: wordsLE nonce)
  let mixed := rounds start
  wordBytes ((List.range 16).map fun i => mixed.getD i 0 + start.getD i 0)

/-- The key stream from block `counter` on, for a message of `n` bytes, xored onto it. -/
def applyStream (key : List UInt8) (counter : UInt32) (nonce : List UInt8) (message : List UInt8) :
    List UInt8 :=
  ((blocks 64 message).zipIdx.map fun (chunk, i) =>
    xorBytes chunk (block key (counter + i.toUInt32) nonce)).flatten

/-- The key HChaCha20 derives from a key and a 16-byte nonce. -/
def hchacha (key : List UInt8) (nonce : List UInt8) : List UInt8 :=
  let mixed := rounds (initial key (wordsLE nonce))
  wordBytes ([0, 1, 2, 3, 12, 13, 14, 15].map fun i => mixed.getD i 0)

/-- The key and 12-byte nonce that XChaCha20 uses for a 24-byte nonce. -/
def extendedNonce (key : List UInt8) (nonce : List UInt8) : List UInt8 × List UInt8 :=
  (hchacha key (nonce.take 16), [0, 0, 0, 0] ++ nonce.drop 16)

end FormIntegrity.Cipher
