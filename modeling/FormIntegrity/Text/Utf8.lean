/-!
# UTF-8 octets

Writing a text gives the octets of its characters in order. Reading is strict: it refuses overlong
forms, surrogate halves, values above U+10FFFF, stray continuation octets and a character cut short,
so reading accepts exactly the octets that some text writes.
-/

namespace FormIntegrity.Utf8

/-- The octets of a list of characters. -/
def encodeChars (cs : List Char) : List UInt8 :=
  cs.flatMap String.utf8EncodeChar

/-- The octets of a text. -/
def encode (text : String) : List UInt8 :=
  encodeChars text.toList

/-- Reads octets while `owed` continuation octets of a character are still due. The bits read so
far are `acc`, and the next continuation octet must lie in `lo .. hi`; the bounds of the first one
rule out overlong forms, surrogates and values above U+10FFFF. -/
def decodeFrom : List UInt8 → (owed acc lo hi : Nat) → Option (List Char)
  | [], 0, _, _, _ => some []
  | [], _ + 1, _, _, _ => none
  | b :: rest, 0, _, _, _ =>
    let v := b.toNat
    if v < 0x80 then (decodeFrom rest 0 0 0x80 0xBF).map (Char.ofNat v :: ·)
    else if 0xC2 ≤ v ∧ v ≤ 0xDF then decodeFrom rest 1 (v % 32) 0x80 0xBF
    else if v = 0xE0 then decodeFrom rest 2 0 0xA0 0xBF
    else if v = 0xED then decodeFrom rest 2 13 0x80 0x9F
    else if 0xE1 ≤ v ∧ v ≤ 0xEF then decodeFrom rest 2 (v % 16) 0x80 0xBF
    else if v = 0xF0 then decodeFrom rest 3 0 0x90 0xBF
    else if 0xF1 ≤ v ∧ v ≤ 0xF3 then decodeFrom rest 3 (v % 8) 0x80 0xBF
    else if v = 0xF4 then decodeFrom rest 3 4 0x80 0x8F
    else none
  | b :: rest, owed + 1, acc, lo, hi =>
    let v := b.toNat
    if lo ≤ v ∧ v ≤ hi then
      let acc' := acc * 64 + v % 64
      if owed = 0 then (decodeFrom rest 0 0 0x80 0xBF).map (Char.ofNat acc' :: ·)
      else decodeFrom rest owed acc' 0x80 0xBF
    else none

/-- The characters of well-formed UTF-8 octets. -/
def decodeChars? (bytes : List UInt8) : Option (List Char) :=
  decodeFrom bytes 0 0 0x80 0xBF

/-- The text of well-formed UTF-8 octets. -/
def decode? (bytes : List UInt8) : Option String :=
  (decodeChars? bytes).map String.ofList

end FormIntegrity.Utf8
