import FormIntegrity.Cipher.ChaCha
import FormIntegrity.Cipher.Poly1305

/-!
# Sealed payloads

A payload is sealed with XChaCha20-Poly1305 under a 256-bit key and a 24-byte nonce, without
associated data: the sealed bytes are the nonce, the ciphertext and a 16-byte tag, so that a sealed
payload carries all it needs to be opened. Opening refuses a payload shorter than a nonce and a tag,
and any payload whose tag does not match, which is what a payload that was cut, changed or sealed
under another key gives.

The tag authenticates the ciphertext padded to sixteen bytes, followed by the length of the
associated data (zero) and the length of the ciphertext as 64-bit little-endian numbers, under the
first 32 bytes of key-stream block 0; the ciphertext uses the key stream from block 1 on.

Sealing is total here. The construction bounds plaintexts at `2 ^ 38 - 64` bytes and refuses
longer ones as `encryptionFailed`; the document of a state never comes near that length, so that
refusal is left out and `encryptionFailed` is kept only as the error and its text.
-/

namespace FormIntegrity

/-- A 256-bit key. -/
structure CipherKey where
  bytes : List UInt8
  length_eq : bytes.length = 32

namespace CipherKey

/-- The key with the given bytes, if there are 32 of them. -/
def ofBytes? (bytes : List UInt8) : Option CipherKey :=
  if h : bytes.length = 32 then some ⟨bytes, h⟩ else none

/-- What a key shows when it is printed: never its bytes. -/
def shown (_ : CipherKey) : String := "[REDACTED]"

end CipherKey

/-- Why a payload could not be sealed or opened. -/
inductive CipherError where
  /-- The payload could not be sealed. -/
  | encryptionFailed
  /-- The payload is cut, changed or sealed under another key. -/
  | decryptionFailed
  deriving DecidableEq, Repr

/-- The report of a cipher failure. -/
def CipherError.message : CipherError → String
  | .encryptionFailed => "encryption failed"
  | .decryptionFailed => "decryption failed"

namespace Cipher

/-- The length of the nonce in front of a sealed payload. -/
def nonceLength : Nat := 24

/-- The length of the tag at the end of a sealed payload. -/
def tagLength : Nat := 16

/-- The bytes a tag authenticates for a ciphertext. -/
def authenticated (ciphertext : List UInt8) : List UInt8 :=
  ciphertext ++ padding16 ciphertext.length ++ writeLE 8 0 ++ writeLE 8 ciphertext.length

/-- The one-time authenticator key, the stream key and the 12-byte nonce for a 24-byte nonce. -/
def keys (key : CipherKey) (nonce : List UInt8) : List UInt8 × List UInt8 × List UInt8 :=
  let (subkey, short) := extendedNonce key.bytes nonce
  ((block subkey 0 short).take 32, subkey, short)

/-- Seals a plaintext under a key with a 24-byte nonce. -/
def encrypt (key : CipherKey) (nonce : List UInt8) (plaintext : List UInt8) : List UInt8 :=
  let (tagKey, subkey, short) := keys key nonce
  let ciphertext := applyStream subkey 1 short plaintext
  nonce ++ ciphertext ++ poly1305 tagKey (authenticated ciphertext)

/-- Opens a sealed payload. -/
def decrypt (key : CipherKey) (sealed : List UInt8) : Except CipherError (List UInt8) :=
  if sealed.length < nonceLength + tagLength then .error .decryptionFailed
  else
    let nonce := sealed.take nonceLength
    let body := sealed.drop nonceLength
    let ciphertext := body.take (body.length - tagLength)
    let tag := body.drop (body.length - tagLength)
    let (tagKey, subkey, short) := keys key nonce
    if poly1305 tagKey (authenticated ciphertext) = tag then .ok (applyStream subkey 1 short ciphertext)
    else .error .decryptionFailed

end Cipher

end FormIntegrity
