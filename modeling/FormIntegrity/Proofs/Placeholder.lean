import FormIntegrity.Placeholder
import Mathlib.Data.List.Induction

/-!
# Placeholders read back

A placeholder is `~` followed by the shortest decimal numeral of an index. Reading a placeholder
inverts writing one, for every 64-bit index (`Placeholder.read?_write`), and a text reads as an index
exactly when it is `~` followed by one or more ASCII digits whose value is that index
(`Placeholder.read?_eq_some_iff`). Since reading allows leading zeros, several texts read as one
index; the one that writing gives back is the numeral without a leading zero.

The last fact rests on two statements about numerals: the shortest numeral of a number has no
leading zero (`toDigits_canonical`), and a numeral without a leading zero is the shortest numeral of
its value (`toDigits_ofDigitChars`).
-/

namespace FormIntegrity.Placeholder

/-- A numeral without a leading zero: one or more digits, the first of which is not `0` unless it
is the only one. -/
def Canonical (ds : List Char) : Prop :=
  ds ≠ [] ∧ (∀ c ∈ ds, c.isDigit = true) ∧ (ds.head? = some '0' → ds = ['0'])

/-- A digit character is the digit of its value. -/
theorem digitChar_of_isDigit {c : Char} (hc : c.isDigit = true) :
    c.toNat - 48 < 10 ∧ Nat.digitChar (c.toNat - 48) = c := by
  have h48 : 48 ≤ c.toNat ∧ c.toNat ≤ 57 := by
    simp only [Char.isDigit, Bool.and_eq_true, decide_eq_true_eq] at hc
    exact ⟨hc.1, hc.2⟩
  have hlt : c.toNat - 48 < 10 := by omega
  refine ⟨hlt, ?_⟩
  rw [← Char.toNat_inj, Nat.toNat_digitChar_of_lt_ten hlt]
  omega

/-- A numeral whose first digit is not `0` has a positive value. -/
theorem ofDigitChars_pos {c : Char} {cs : List Char} (hc : c.isDigit = true) (h0 : c ≠ '0') :
    0 < Nat.ofDigitChars 10 (c :: cs) 0 := by
  have hd := digitChar_of_isDigit hc
  have hpos : 0 < c.toNat - 48 := by
    rcases Nat.eq_zero_or_pos (c.toNat - 48) with hz | hp
    · exact absurd (hd.2 ▸ (hz ▸ rfl : Nat.digitChar (c.toNat - 48) = Nat.digitChar 0)) h0
    · exact hp
  rw [Nat.ofDigitChars_cons, Nat.ofDigitChars_eq_ofDigitChars_zero]
  have : 0 < 10 ^ cs.length * (10 * 0 + (c.toNat - '0'.toNat)) :=
    Nat.mul_pos (Nat.pow_pos (by decide)) (by simpa using hpos)
  omega

/-- A numeral without a leading zero is the shortest numeral of its value. -/
theorem toDigits_ofDigitChars (ds : List Char) (h : Canonical ds) :
    Nat.toDigits 10 (Nat.ofDigitChars 10 ds 0) = ds := by
  induction ds using List.reverseRecOn with
  | nil => exact absurd rfl h.1
  | append_singleton init d ih =>
    obtain ⟨-, hall, hzero⟩ := h
    have hd := digitChar_of_isDigit (hall d (by simp))
    rw [Nat.ofDigitChars_append, Nat.ofDigitChars_cons, Nat.ofDigitChars_nil]
    rcases init with _ | ⟨c, cs⟩
    · simp only [Nat.ofDigitChars_nil, Nat.mul_zero, Nat.zero_add, List.nil_append]
      rw [Nat.toDigits_of_lt_base (by simpa using hd.1)]
      simpa using hd.2
    · have hc : c.isDigit = true := hall c (by simp)
      have hc0 : c ≠ '0' := by
        intro hc0
        have := hzero (by simp [hc0])
        simp at this
      have hinit : Canonical (c :: cs) :=
        ⟨by simp, fun x hx => hall x (List.mem_append_left [d] hx),
          fun h => absurd (by simpa using h) hc0⟩
      have hpos := @ofDigitChars_pos c cs hc hc0
      have hdl : d.toNat - '0'.toNat < 10 := by simpa using hd.1
      rw [← Nat.toDigits_append_toDigits (by decide) hpos hdl, ih hinit,
        Nat.toDigits_of_lt_base hdl]
      simpa using hd.2

/-- The numeral `0` is the shortest numeral of zero only. -/
theorem eq_zero_of_toDigits_eq {n : Nat} (h : Nat.toDigits 10 n = ['0']) : n = 0 := by
  have hval := congrArg (fun ds => Nat.ofDigitChars 10 ds 0) h
  simp only [Nat.ofDigitChars_ten_toDigits] at hval
  exact hval.trans (by decide)

/-- The shortest numeral of a number has no leading zero. -/
theorem toDigits_canonical (n : Nat) : Canonical (Nat.toDigits 10 n) := by
  refine ⟨Nat.toDigits_ne_nil, fun c hc => Nat.isDigit_of_mem_toDigits (by decide) (by decide) hc,
    ?_⟩
  induction n using Nat.strongRecOn with
  | ind n ih =>
    rw [Nat.toDigits_eq_if (by decide)]
    split
    · intro h
      simpa using h
    · rename_i hge
      have hlt : n / 10 < n := Nat.div_lt_self (by omega) (by decide)
      intro hhead
      have hne : Nat.toDigits 10 (n / 10) ≠ [] := Nat.toDigits_ne_nil
      have hhead' : (Nat.toDigits 10 (n / 10)).head? = some '0' := by
        obtain ⟨x, xs, hx⟩ := List.exists_cons_of_ne_nil hne
        rw [hx] at hhead ⊢
        simpa using hhead
      have := eq_zero_of_toDigits_eq (ih (n / 10) hlt hhead')
      omega

/-- Reading a placeholder inverts writing one; a text reads as an index exactly when it is `~` and
one or more digits of that value; and writing the index read gives the text back exactly when its
digits have no leading zero. -/
theorem read?_inverts_write :
    (∀ i : UInt64, read? (write i.toNat) = some i) ∧
    (∀ (v : String) (i : UInt64), read? v = some i ↔
      ∃ ds, v.toList = '~' :: ds ∧ ds ≠ [] ∧ (∀ c ∈ ds, c.isDigit = true) ∧
        Nat.ofDigitChars 10 ds 0 = i.toNat) ∧
    (∀ (v : String) (i : UInt64) (ds : List Char), v.toList = '~' :: ds → read? v = some i →
      (write i.toNat = v ↔ ds.head? ≠ some '0' ∨ ds = ['0'])) := by
  refine ⟨read?_write, read?_eq_some_iff, ?_⟩
  intro v i ds hv hread
  obtain ⟨ds', hv', hne, hall, hval⟩ := (read?_eq_some_iff v i).mp hread
  have hds : ds' = ds := by
    rw [hv] at hv'
    exact (List.cons.inj hv').2.symm
  rw [hds] at hne hall hval
  constructor
  · intro hw
    have hlist : '~' :: Nat.toDigits 10 i.toNat = '~' :: ds := by
      rw [← toList_write, hw, hv]
    rw [List.cons.injEq] at hlist
    have hcanon := toDigits_canonical i.toNat
    rw [hlist.2] at hcanon
    by_cases h0 : ds.head? = some '0'
    · exact Or.inr (hcanon.2.2 h0)
    · exact Or.inl h0
  · intro hcanon
    have hc : Canonical ds :=
      ⟨hne, hall, fun h0 => hcanon.elim (fun h => absurd h0 h) id⟩
    apply String.toList_injective
    rw [toList_write, hv, ← hval, toDigits_ofDigitChars ds hc]

end FormIntegrity.Placeholder
