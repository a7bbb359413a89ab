/-!
# Unpadded URL-safe base64

The alphabet is `A-Z a-z 0-9 - _`. Three octets become four symbols; a last group of one or two
octets becomes two or three symbols, and no `=` is written. Reading is strict, so that every octet
string has exactly one text: it refuses `=`, a last group of one symbol, and a last symbol whose
unused low bits are not zero.
-/

namespace FormIntegrity.Base64Url

/-- The symbol of a six-bit value. -/
def symbol (n : Nat) : Char :=
  if n < 26 then Char.ofNat ('A'.toNat + n)
  else if n < 52 then Char.ofNat ('a'.toNat + n - 26)
  else if n < 62 then Char.ofNat ('0'.toNat + n - 52)
  else if n = 62 then '-'
  else '_'

/-- The six-bit value of a symbol. -/
def sextet? (c : Char) : Option Nat :=
  if 'A' ≤ c ∧ c ≤ 'Z' then some (c.toNat - 'A'.toNat)
  else if 'a' ≤ c ∧ c ≤ 'z' then some (c.toNat - 'a'.toNat + 26)
  else if '0' ≤ c ∧ c ≤ '9' then some (c.toNat - '0'.toNat + 52)
  else if c = '-' then some 62
  else if c = '_' then some 63
  else none

/-- Symbols of a list of octets. -/
def encodeList : List UInt8 → List Char
  | a :: b :: c :: rest =>
    let n := a.toNat * 65536 + b.toNat * 256 + c.toNat
    symbol (n / 262144) :: symbol (n / 4096 % 64) :: symbol (n / 64 % 64) :: symbol (n % 64) ::
      encodeList rest
  | [a, b] =>
    let n := a.toNat * 256 + b.toNat
    [symbol (n / 1024), symbol (n / 16 % 64), symbol (n % 16 * 4)]
  | [a] => [symbol (a.toNat / 4), symbol (a.toNat % 4 * 16)]
  | [] => []

/-- The text of a list of octets. -/
def encode (bytes : List UInt8) : String :=
  String.ofList (encodeList bytes)

/-- Octets of a list of symbols, refusing a malformed last group. -/
def decodeList : List Char → Option (List UInt8)
  | a :: b :: c :: d :: rest => do
    let n ← (fun w x y z => ((w * 64 + x) * 64 + y) * 64 + z) <$> sextet? a <*> sextet? b <*>
      sextet? c <*> sextet? d
    let tail ← decodeList rest
    pure ((n / 65536).toUInt8 :: (n / 256 % 256).toUInt8 :: (n % 256).toUInt8 :: tail)
  | [a, b, c] => do
    let n ← (fun x y z => (x * 64 + y) * 64 + z) <$> sextet? a <*> sextet? b <*> sextet? c
    if n % 4 = 0 then pure [(n / 1024).toUInt8, (n / 4 % 256).toUInt8] else none
  | [a, b] => do
    let n ← (fun x y => x * 64 + y) <$> sextet? a <*> sextet? b
    if n % 16 = 0 then pure [(n / 16).toUInt8] else none
  | [_] => none
  | [] => some []

/-- Octets of a text. -/
def decode? (text : String) : Option (List UInt8) :=
  decodeList text.toList

end FormIntegrity.Base64Url
