import FormIntegrity.Query
import FormIntegrity.Text.Base64Url
import Mathlib.Tactic.SplitIfs

/-!
# Reading back what was written

The text codecs are inverse to their writers. The octets of a text read back as the text: each
character's octets read back as the character whatever follows them, because every character is a
scalar value, so its lead octet falls in the range its length allows and the bounds on its second
octet (no overlong form, no surrogate, nothing above U+10FFFF) hold. The base64url text of octets
reads back as the octets, three octets to four symbols at a time. And a query component with no `+`
and no `%` decodes to itself: only `%` itself is written as the octet `%`, every octet of a longer
character being at least `0x80`.
-/

namespace FormIntegrity

namespace Utf8

variable {b : UInt8} {rest : List UInt8} {acc lo hi : Nat}

theorem decodeFrom_ascii (small : b.toNat < 0x80) :
    decodeFrom (b :: rest) 0 acc lo hi = (decodeFrom rest 0 0 0x80 0xBF).map (Char.ofNat b.toNat :: ·) := by
  simp [decodeFrom, small]

theorem decodeFrom_lead2 (range : 0xC2 ≤ b.toNat ∧ b.toNat ≤ 0xDF) :
    decodeFrom (b :: rest) 0 acc lo hi = decodeFrom rest 1 (b.toNat % 32) 0x80 0xBF := by
  simp only [decodeFrom]
  rw [if_neg (by omega), if_pos range]

/-- A three-octet lead: after `E0` the next octet must be at least `A0` (no overlong form), after
`ED` at most `9F` (no surrogate). -/
theorem decodeFrom_lead3 (range : 0xE0 ≤ b.toNat ∧ b.toNat ≤ 0xEF) :
    decodeFrom (b :: rest) 0 acc lo hi = decodeFrom rest 2 (b.toNat % 16)
      (if b.toNat = 0xE0 then 0xA0 else 0x80) (if b.toNat = 0xED then 0x9F else 0xBF) := by
  simp only [decodeFrom]
  rw [if_neg (by omega), if_neg (by omega)]
  by_cases first : b.toNat = 0xE0
  · simp [first]
  · by_cases surrogates : b.toNat = 0xED
    · simp [surrogates]
    · rw [if_neg first, if_neg surrogates, if_pos (by omega)]
      simp [first, surrogates]

/-- A four-octet lead: after `F0` the next octet must be at least `90` (no overlong form), after
`F4` at most `8F` (nothing above U+10FFFF). -/
theorem decodeFrom_lead4 (range : 0xF0 ≤ b.toNat ∧ b.toNat ≤ 0xF4) :
    decodeFrom (b :: rest) 0 acc lo hi = decodeFrom rest 3 (b.toNat % 8)
      (if b.toNat = 0xF0 then 0x90 else 0x80) (if b.toNat = 0xF4 then 0x8F else 0xBF) := by
  simp only [decodeFrom]
  rw [if_neg (by omega), if_neg (by omega), if_neg (by omega), if_neg (by omega), if_neg (by omega)]
  by_cases first : b.toNat = 0xF0
  · simp [first]
  · by_cases last : b.toNat = 0xF4
    · simp [last]
    · rw [if_neg first, if_pos (by omega)]
      simp [first, last]

theorem decodeFrom_last (within : lo ≤ b.toNat ∧ b.toNat ≤ hi) :
    decodeFrom (b :: rest) 1 acc lo hi =
      (decodeFrom rest 0 0 0x80 0xBF).map (Char.ofNat (acc * 64 + b.toNat % 64) :: ·) := by
  simp [decodeFrom, within]

theorem decodeFrom_more {owed : Nat} (within : lo ≤ b.toNat ∧ b.toNat ≤ hi) :
    decodeFrom (b :: rest) (owed + 2) acc lo hi =
      decodeFrom rest (owed + 1) (acc * 64 + b.toNat % 64) 0x80 0xBF := by
  simp [decodeFrom, within]

/-- The octets of one character read back as the character, whatever follows them. -/
theorem decodeFrom_encodeChar (c : Char) (rest : List UInt8) :
    decodeFrom (String.utf8EncodeChar c ++ rest) 0 0 0x80 0xBF =
      (decodeFrom rest 0 0 0x80 0xBF).map (c :: ·) := by
  have bounded : c.toNat < 0xD800 ∨ (0xDFFF < c.toNat ∧ c.toNat < 0x110000) := c.valid
  have same : ∀ {n : Nat}, n = c.toNat → Char.ofNat n = c := by
    rintro n rfl
    exact Char.ofNat_toNat c
  have octet : ∀ {n : Nat}, n < 256 → (UInt8.ofNat n).toNat = n := fun small => by
    simp [Nat.mod_eq_of_lt small]
  have toNatEq : c.val.toNat = c.toNat := rfl
  unfold String.utf8EncodeChar
  simp only [toNatEq]
  by_cases one : c.toNat ≤ 127
  · rw [if_pos one, List.cons_append, List.nil_append, decodeFrom_ascii (by rw [octet (by omega)]; omega),
      octet (by omega), same rfl]
  · by_cases two : c.toNat ≤ 2047
    · rw [if_neg one, if_pos two, List.cons_append, List.cons_append, List.nil_append,
        decodeFrom_lead2 (by rw [octet (by omega)]; omega),
        decodeFrom_last (by rw [octet (by omega)]; omega), octet (by omega), octet (by omega),
        same (by omega)]
    · by_cases three : c.toNat ≤ 65535
      · rw [if_neg one, if_neg two, if_pos three]
        simp only [List.cons_append, List.nil_append]
        -- the bounds on the second octet rule out overlong forms and surrogates
        rw [decodeFrom_lead3 (by rw [octet (by omega)]; omega),
          decodeFrom_more (by rw [octet (by omega), octet (by omega)]; constructor <;> split <;> omega),
          decodeFrom_last (by rw [octet (by omega)]; omega), octet (by omega), octet (by omega),
          octet (by omega), same (by omega)]
      · rw [if_neg one, if_neg two, if_neg three]
        simp only [List.cons_append, List.nil_append]
        -- the bounds on the second octet rule out overlong forms and values above U+10FFFF
        rw [decodeFrom_lead4 (by rw [octet (by omega)]; omega),
          decodeFrom_more (by rw [octet (by omega), octet (by omega)]; constructor <;> split <;> omega),
          decodeFrom_more (by rw [octet (by omega)]; omega),
          decodeFrom_last (by rw [octet (by omega)]; omega), octet (by omega), octet (by omega),
          octet (by omega), octet (by omega), same (by omega)]

theorem decodeChars?_encodeChars (cs : List Char) : decodeChars? (encodeChars cs) = some cs := by
  induction cs with
  | nil => rfl
  | cons c rest ih =>
    unfold decodeChars? encodeChars at *
    rw [List.flatMap_cons, decodeFrom_encodeChar, ih]
    rfl

/-- **The octets of a text read back as the text.** -/
theorem decode?_encode (text : String) : decode? (encode text) = some text := by
  simp [decode?, encode, decodeChars?_encodeChars]

/-- A character below U+0080 is one octet, its own value; every octet of a longer character is
at least `0x80`. -/
theorem toNat_mem_utf8EncodeChar {c : Char} {b : UInt8} (mem : b ∈ String.utf8EncodeChar c) :
    (c.toNat ≤ 127 ∧ b.toNat = c.toNat) ∨ (127 < c.toNat ∧ 128 ≤ b.toNat) := by
  have toNatEq : c.val.toNat = c.toNat := rfl
  have bounded : c.toNat < 0x110000 := by
    have := c.valid
    unfold UInt32.isValidChar Nat.isValidChar at this
    omega
  unfold String.utf8EncodeChar at mem
  simp only [toNatEq] at mem
  split_ifs at mem with one two three <;>
    simp only [List.mem_cons, List.not_mem_nil, or_false] at mem <;>
    rcases mem with rfl | rfl | rfl | rfl <;> simp only [UInt8.toNat_ofNat', Nat.reducePow] <;> omega

end Utf8

namespace Base64Url

theorem sextet?_symbol : ∀ n < 64, sextet? (symbol n) = some n := by
  decide

theorem toUInt8_eq {m : Nat} {a : UInt8} (same : m % 256 = a.toNat) : m.toUInt8 = a :=
  UInt8.toNat_inj.mp (by simpa [Nat.toUInt8] using same)

/-- **The base64url text of octets reads back as the octets.** -/
theorem decodeList_encodeList : ∀ bytes : List UInt8, decodeList (encodeList bytes) = some bytes
  | a :: b :: c :: rest => by
    have := a.toNat_lt
    have := b.toNat_lt
    have := c.toNat_lt
    -- three octets make a 24-bit number, written as four sextets
    generalize group : a.toNat * 65536 + b.toNat * 256 + c.toNat = n
    have whole : ((n / 262144 * 64 + n / 4096 % 64) * 64 + n / 64 % 64) * 64 + n % 64 = n := by omega
    simp only [encodeList, decodeList, group, sextet?_symbol (n / 262144) (by omega),
      sextet?_symbol (n / 4096 % 64) (by omega), sextet?_symbol (n / 64 % 64) (by omega),
      sextet?_symbol (n % 64) (by omega), decodeList_encodeList rest, Option.map_eq_map,
      Option.map_some, Seq.seq, Option.bind_eq_bind, Option.bind_some, whole]
    rw [toUInt8_eq (show n / 65536 % 256 = a.toNat by omega),
      toUInt8_eq (show n / 256 % 256 % 256 = b.toNat by omega),
      toUInt8_eq (show n % 256 % 256 = c.toNat by omega)]
    rfl
  | [a, b] => by
    have := a.toNat_lt
    have := b.toNat_lt
    -- two octets are sixteen bits, written as three sextets with two zero bits after them
    generalize group : a.toNat * 256 + b.toNat = n
    have whole : (n / 1024 * 64 + n / 16 % 64) * 64 + n % 16 * 4 = 4 * n := by omega
    simp only [encodeList, decodeList, group, sextet?_symbol (n / 1024) (by omega),
      sextet?_symbol (n / 16 % 64) (by omega), sextet?_symbol (n % 16 * 4) (by omega),
      Option.map_eq_map, Option.map_some, Seq.seq, Option.bind_eq_bind, Option.bind_some, whole]
    rw [if_pos (by omega), toUInt8_eq (show 4 * n / 1024 % 256 = a.toNat by omega),
      toUInt8_eq (show 4 * n / 4 % 256 % 256 = b.toNat by omega)]
    rfl
  | [a] => by
    have := a.toNat_lt
    -- one octet is written as two sextets with four zero bits after them
    have whole : a.toNat / 4 * 64 + a.toNat % 4 * 16 = 16 * a.toNat := by omega
    simp only [encodeList, decodeList, sextet?_symbol (a.toNat / 4) (by omega),
      sextet?_symbol (a.toNat % 4 * 16) (by omega), Option.map_eq_map, Option.map_some, Seq.seq,
      Option.bind_eq_bind, Option.bind_some, whole]
    rw [if_pos (by omega), toUInt8_eq (show 16 * a.toNat / 16 % 256 = a.toNat by omega)]
    rfl
  | [] => rfl

end Base64Url

namespace Query

theorem unescape_cons {b : UInt8} (notPercent : b ≠ 0x25) (rest : List UInt8) :
    unescape (b :: rest) = b :: unescape rest := by
  rw [unescape]
  intro hi lo more same
  exact absurd same notPercent

theorem unescape_of_forall {bytes : List UInt8} (none : ∀ b ∈ bytes, b ≠ 0x25) :
    unescape bytes = bytes := by
  induction bytes with
  | nil => simp [unescape]
  | cons b rest ih =>
    rw [unescape_cons (none b List.mem_cons_self), ih (fun x mem => none x (List.mem_cons_of_mem b mem))]

/-- A component with no `+` and no `%` decodes to itself. -/
theorem decodeComponent?_of_plain {text : String} (plain : ∀ c ∈ text.toList, c ≠ '+' ∧ c ≠ '%') :
    decodeComponent? text = some text := by
  have spaced : text.toList.map (fun c => if c = '+' then ' ' else c) = text.toList := by
    conv => rhs; rw [← List.map_id text.toList]
    exact List.map_congr_left fun c mem => by simp [(plain c mem).1]
  -- the octet `%` is written only for the character `%`
  have noPercent : ∀ b ∈ Utf8.encodeChars text.toList, b ≠ 0x25 := by
    intro b mem
    obtain ⟨c, member, within⟩ := List.mem_flatMap.mp mem
    rintro rfl
    have notPercent : c.toNat ≠ 0x25 := fun same => (plain c member).2 (by
      rw [← Char.ofNat_toNat c, same])
    rcases Utf8.toNat_mem_utf8EncodeChar within with ⟨-, same⟩ | ⟨-, large⟩
    · exact notPercent (by simpa using same.symm)
    · simp at large
  simp only [decodeComponent?, spaced, unescape_of_forall noPercent]
  exact Utf8.decode?_encode text

end Query

end FormIntegrity
