/-!
# Decimal numerals

Unsigned numbers written as plain ASCII digits. Reading takes one or more digits, leading zeros
included, and refuses a value that does not fit in 64 bits; a sign, a blank or a digit of another
script is no digit. Writing gives the shortest numeral, so a written number reads back.
-/

namespace FormIntegrity.Decimal

/-- The value of a run of ASCII digits, the most significant first. -/
def digitsValue (ds : List Char) : Nat :=
  ds.foldl (fun acc d => acc * 10 + (d.toNat - '0'.toNat)) 0

/-- Whether a text is one or more ASCII digits. -/
def isNumeral (ds : List Char) : Bool :=
  !ds.isEmpty && ds.all Char.isDigit

/-- Reads one or more ASCII digits as a number below `2 ^ 64`. -/
def readU64? (ds : List Char) : Option UInt64 :=
  if isNumeral ds then
    let v := digitsValue ds
    if v < Nat.pow 2 64 then some v.toUInt64 else none
  else none

/-- The shortest decimal numeral of a number. -/
def write (n : Nat) : String :=
  String.ofList (Nat.toDigits 10 n)

/-- The value of digits is the standard left-to-right reading of decimal digits. -/
theorem digitsValue_eq (ds : List Char) : digitsValue ds = Nat.ofDigitChars 10 ds 0 := by
  simp only [digitsValue, Nat.ofDigitChars]
  congr 1
  funext acc d
  rw [Nat.mul_comm]

theorem isNumeral_iff {ds : List Char} :
    isNumeral ds = true ↔ ds ≠ [] ∧ ∀ c ∈ ds, c.isDigit = true := by
  simp [isNumeral]

/-- Reading succeeds exactly on one or more digits, with their value as the result. -/
theorem readU64?_eq_some_iff (ds : List Char) (i : UInt64) :
    readU64? ds = some i ↔
      ds ≠ [] ∧ (∀ c ∈ ds, c.isDigit = true) ∧ Nat.ofDigitChars 10 ds 0 = i.toNat := by
  unfold readU64?
  rw [← digitsValue_eq]
  by_cases hn : isNumeral ds = true
  · rw [if_pos hn]
    obtain ⟨hne, hall⟩ := isNumeral_iff.mp hn
    by_cases hv : digitsValue ds < Nat.pow 2 64
    · rw [if_pos hv, Option.some.injEq]
      constructor
      · intro h
        refine ⟨hne, hall, ?_⟩
        rw [← h]
        simp [Nat.toUInt64, UInt64.toNat_ofNat_of_lt' hv]
      · rintro ⟨-, -, h⟩
        rw [h]
        simp
    · rw [if_neg hv]
      simp only [reduceCtorEq, false_iff]
      rintro ⟨-, -, h⟩
      exact hv (h ▸ i.toNat_lt)
  · rw [if_neg hn]
    simp only [reduceCtorEq, false_iff]
    rintro ⟨hne, hall, -⟩
    exact hn (isNumeral_iff.mpr ⟨hne, hall⟩)

/-- The numeral of a 64-bit number reads back as that number. -/
theorem readU64?_toDigits (i : UInt64) : readU64? (Nat.toDigits 10 i.toNat) = some i := by
  rw [readU64?_eq_some_iff]
  exact ⟨Nat.toDigits_ne_nil, fun c hc => Nat.isDigit_of_mem_toDigits (by decide) (by decide) hc,
    Nat.ofDigitChars_ten_toDigits⟩

end FormIntegrity.Decimal
