import FormIntegrity.Text.Decimal

/-!
# Confidential placeholders

With confidentiality on, a non-editable value is shown to the client as `~` and its position among
the parameter's values. Reading a placeholder takes `~` and one or more ASCII digits whose value is
below `2 ^ 64`; leading zeros are allowed, so several texts read as one index.
-/

namespace FormIntegrity.Placeholder

/-- The placeholder shown for the value at `index`. -/
def write (index : Nat) : String :=
  "~" ++ Decimal.write index

/-- The index a placeholder stands for. -/
def read? (value : String) : Option UInt64 :=
  match value.toList with
  | '~' :: digits => Decimal.readU64? digits
  | _ => none

theorem toList_write (n : Nat) : (write n).toList = '~' :: Nat.toDigits 10 n := by
  simp [write, Decimal.write]

/-- The placeholder of a 64-bit index reads back as that index. -/
theorem read?_write (i : UInt64) : read? (write i.toNat) = some i := by
  rw [read?, toList_write]
  exact Decimal.readU64?_toDigits i

/-- A text reads as an index exactly when it is `~` and one or more digits of that value. -/
theorem read?_eq_some_iff (v : String) (i : UInt64) :
    read? v = some i ↔ ∃ ds, v.toList = '~' :: ds ∧ ds ≠ [] ∧ (∀ c ∈ ds, c.isDigit = true) ∧
      Nat.ofDigitChars 10 ds 0 = i.toNat := by
  unfold read?
  split
  · rename_i ds h
    rw [Decimal.readU64?_eq_some_iff]
    constructor
    · intro hd
      exact ⟨ds, h, hd⟩
    · rintro ⟨ds', h', hd⟩
      rw [h, List.cons.injEq] at h'
      exact h'.2 ▸ hd
  · rename_i h
    simp only [reduceCtorEq, false_iff, not_exists, not_and]
    intro ds hv
    exact absurd hv (h ds)

end FormIntegrity.Placeholder
