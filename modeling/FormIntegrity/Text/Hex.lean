/-!
# Hexadecimal octets

Octets are written as two lowercase hexadecimal digits each, the high half first. Reading accepts
digits of either case and refuses an odd count or any other character.
-/

namespace FormIntegrity.Hex

/-- The digit of a value below sixteen. -/
def digit (n : Nat) : Char :=
  if n < 10 then Char.ofNat ('0'.toNat + n) else Char.ofNat ('a'.toNat + n - 10)

/-- The value of one hexadecimal digit of either case. -/
def digitValue? (c : Char) : Option Nat :=
  if '0' ≤ c ∧ c ≤ '9' then some (c.toNat - '0'.toNat)
  else if 'a' ≤ c ∧ c ≤ 'f' then some (c.toNat - 'a'.toNat + 10)
  else if 'A' ≤ c ∧ c ≤ 'F' then some (c.toNat - 'A'.toNat + 10)
  else none

/-- Whether a character is an ASCII hexadecimal digit. -/
def isDigit (c : Char) : Bool :=
  (digitValue? c).isSome

/-- The two digits of one octet. -/
def octetDigits (b : UInt8) : List Char :=
  [digit (b.toNat / 16), digit (b.toNat % 16)]

/-- Octets as lowercase hexadecimal text. -/
def encode (bytes : List UInt8) : String :=
  String.ofList (bytes.flatMap octetDigits)

/-- Reads pairs of hexadecimal digits as octets. -/
def decodeChars? : List Char → Option (List UInt8)
  | [] => some []
  | hi :: lo :: rest => do
    let h ← digitValue? hi
    let l ← digitValue? lo
    let tail ← decodeChars? rest
    pure ((h * 16 + l).toUInt8 :: tail)
  | [_] => none

/-- Reads hexadecimal text as octets. -/
def decode? (text : String) : Option (List UInt8) :=
  decodeChars? text.toList

end FormIntegrity.Hex
