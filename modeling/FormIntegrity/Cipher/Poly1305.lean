import FormIntegrity.Cipher.Bytes

/-!
# The Poly1305 authenticator

A one-time key of 32 bytes gives a point `r`, clamped so that some of its bits are clear, and a
pad `s`. The message is read in 16-byte blocks, each as a little-endian number with one more byte
`1` above it; the blocks are the coefficients of a polynomial evaluated at `r` modulo the prime
`2 ^ 130 - 5`, and the tag is that value plus `s`, modulo `2 ^ 128`, as 16 little-endian bytes.
-/

namespace FormIntegrity.Cipher

/-- The prime modulus `2 ^ 130 - 5`. -/
def polyPrime : Nat := Nat.pow 2 130 - 5

/-- The bits of `r` that clamping keeps. -/
def clampMask : Nat := 0x0ffffffc0ffffffc0ffffffc0fffffff

/-- The tag of a message under a 32-byte one-time key. -/
def poly1305 (key : List UInt8) (message : List UInt8) : List UInt8 :=
  let r := readLE (key.take 16) &&& clampMask
  let s := readLE ((key.drop 16).take 16)
  let acc := (blocks 16 message).foldl
    (fun acc chunk => (acc + readLE chunk + Nat.pow 2 (8 * chunk.length)) * r % polyPrime) 0
  writeLE 16 (acc + s)

end FormIntegrity.Cipher
