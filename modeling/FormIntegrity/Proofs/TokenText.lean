import FormIntegrity.Token
import FormIntegrity.Proofs.TextCodecs
import Mathlib.Data.List.TakeDrop

/-!
# Reading a token's text back

A memory token is written as its page id and its state index in decimal and its nonce, joined by
`-`, after the scope's prefix and its own `-`. Decimal digits and hexadecimal digits are never `-`,
and a numeral never starts with the `C` that marks a cipher payload, so reading the text of a memory
token whose nonce is a run of hexadecimal digits gives the token back: its scope, page id, state
index and nonce. Page nonces are written as hexadecimal octets, so every token a page hands out
reads back. A cipher token is its `C` and the payload in base64url after the scope's prefix; no
scope prefix starts with `C`, so its text reads back as the token too.
-/

namespace FormIntegrity

namespace StateToken

theorem span_append_dash (xs ys : List Char) (noDash : ∀ x ∈ xs, x ≠ '-') :
    (xs ++ '-' :: ys).span (· ≠ '-') = (xs, '-' :: ys) := by
  rw [List.span_eq_takeWhile_dropWhile]
  induction xs with
  | nil => simp
  | cons x xs ih =>
    have notDash : x ≠ '-' := noDash x (by simp)
    have rest := ih (fun y mem => noDash y (by simp [mem]))
    simp [notDash] at rest ⊢
    exact rest

theorem isDigit_of_mem_toDigits {n : Nat} {c : Char} (mem : c ∈ Nat.toDigits 10 n) :
    c.isDigit = true :=
  Nat.isDigit_of_mem_toDigits (by decide) (by decide) mem

theorem ne_dash_of_mem_toDigits {n : Nat} {c : Char} (mem : c ∈ Nat.toDigits 10 n) : c ≠ '-' := by
  rintro rfl
  exact absurd (isDigit_of_mem_toDigits mem) (by decide)

theorem ne_dash_of_hex {c : Char} (digit : Hex.isDigit c = true) : c ≠ '-' := by
  rintro rfl
  exact absurd digit (by decide)

/-- The body of a memory token: its page id and its state index in decimal, then its nonce. -/
theorem bodyText_memory (id index : UInt64) (nonce : String) :
    (bodyText (.memory id index nonce)).toList =
      Nat.toDigits 10 id.toNat ++ '-' :: (Nat.toDigits 10 index.toNat ++ '-' :: nonce.toList) := by
  simp [bodyText, Decimal.write]

theorem parseBody_memory (id index : UInt64) (nonce : String) (valid : validNonce nonce.toList = true) :
    parseBody (bodyText (.memory id index nonce)).toList = .ok (.memory id index nonce) := by
  rw [bodyText_memory]
  have nonceNoDash : '-' ∉ nonce.toList := fun mem => by
    simp only [validNonce, Bool.and_eq_true, List.all_eq_true] at valid
    exact ne_dash_of_hex (valid.2 '-' mem) rfl
  -- the three segments come apart at the two dashes
  have segments : (Nat.toDigits 10 id.toNat ++ '-' ::
      (Nat.toDigits 10 index.toNat ++ '-' :: nonce.toList)).splitOn '-' =
      [Nat.toDigits 10 id.toNat, Nat.toDigits 10 index.toNat, nonce.toList] := by
    rw [List.splitOn_append_cons_self_of_not_mem (fun mem => ne_dash_of_mem_toDigits mem rfl),
      List.splitOn_append_cons_self_of_not_mem (fun mem => ne_dash_of_mem_toDigits mem rfl),
      List.splitOn_eq_singleton nonceNoDash]
  -- and the body starts with a digit, so it is not read as a payload
  obtain ⟨c, cs, digits⟩ := List.exists_cons_of_ne_nil (Nat.toDigits_ne_nil (n := id.toNat) (b := 10))
  have notC : c ≠ 'C' := by
    have digit := isDigit_of_mem_toDigits (n := id.toNat) (c := c) (by simp [digits])
    rintro rfl
    exact absurd digit (by decide)
  unfold parseBody
  rw [digits] at segments ⊢
  simp only [List.cons_append] at segments ⊢
  split
  · rename_i encoded same
    simp at same
    exact absurd same.1 notC
  · rw [segments]
    simp [Decimal.readU64?_toDigits, ← digits, valid]

/-- A run of text starting with a digit names no scope. -/
theorem ofTokenPrefix?_digit {c : Char} {cs : List Char} (digit : c.isDigit = true) :
    Scope.ofTokenPrefix? (c :: cs) = none := by
  have notU : c ≠ 'U' := by rintro rfl; exact absurd digit (by decide)
  have notA : c ≠ 'A' := by rintro rfl; exact absurd digit (by decide)
  unfold Scope.ofTokenPrefix?
  split
  · rename_i same; exact absurd (List.cons.inj same).1 notU
  · rename_i same; exact absurd (List.cons.inj same).1 notA
  · rfl

/-- The text of a memory token splits into its scope and its body. -/
theorem splitScope_render_memory (scope : Scope) (id index : UInt64) (nonce : String) :
    splitScope (render ⟨scope, .memory id index nonce⟩).toList =
      (scope, (bodyText (.memory id index nonce)).toList) := by
  cases scope with
  | page =>
    -- no prefix: the text before the first dash is the page id, which names no scope
    simp only [render, Scope.tokenPrefix?, bodyText_memory, splitScope]
    rw [span_append_dash _ _ (fun c mem => ne_dash_of_mem_toDigits mem)]
    obtain ⟨c, cs, digits⟩ := List.exists_cons_of_ne_nil (Nat.toDigits_ne_nil (n := id.toNat) (b := 10))
    have digit := isDigit_of_mem_toDigits (n := id.toNat) (c := c) (by simp [digits])
    simp only [digits, ofTokenPrefix?_digit digit]
  | userSession =>
    -- the prefix and its dash come first, and the prefix names the scope
    simp only [render, Scope.tokenPrefix?, splitScope, String.toList_append]
    simp only [String.toList_ofList, List.cons_append]
    simp [List.span_eq_takeWhile_dropWhile, Scope.ofTokenPrefix?]
  | application =>
    -- the prefix and its dash come first, and the prefix names the scope
    simp only [render, Scope.tokenPrefix?, splitScope, String.toList_append]
    simp only [String.toList_ofList, List.cons_append]
    simp [List.span_eq_takeWhile_dropWhile, Scope.ofTokenPrefix?]

/-- The text of a memory token with a hexadecimal nonce reads back as the token. -/
theorem parse_render_memory (scope : Scope) (id index : UInt64) (nonce : String)
    (valid : validNonce nonce.toList = true) :
    parse (render ⟨scope, .memory id index nonce⟩) = .ok ⟨scope, .memory id index nonce⟩ := by
  simp only [parse, splitScope_render_memory, parseBody_memory id index nonce valid]
  rfl

theorem ofTokenPrefix?_C (cs : List Char) : Scope.ofTokenPrefix? ('C' :: cs) = none := by
  unfold Scope.ofTokenPrefix?
  split <;> simp_all

/-- A body that starts with the `C` of a payload is read with no scope prefix, whether or not the
payload holds a `-`. -/
theorem splitScope_C (encoded : List Char) : splitScope ('C' :: encoded) = (.page, 'C' :: encoded) := by
  unfold splitScope
  split
  · rename_i pre dash rest spanned
    -- the text before the first dash starts with `C`, which no scope prefix does
    rw [List.span_eq_takeWhile_dropWhile, List.takeWhile_cons] at spanned
    simp only [Prod.mk.injEq] at spanned
    rw [← spanned.1]
    simp [ofTokenPrefix?_C]
  · rfl

/-- The text of a cipher token reads back as the token, for any payload but the empty one. -/
theorem parse_render_cipher (scope : Scope) {payload : List UInt8} (nonempty : payload ≠ []) :
    parse (render ⟨scope, .cipher payload⟩) = .ok ⟨scope, .cipher payload⟩ := by
  have body : parseBody ('C' :: Base64Url.encodeList payload) = .ok (.cipher payload) := by
    obtain ⟨b, bs, rfl⟩ := List.exists_cons_of_ne_nil nonempty
    simp [parseBody, Base64Url.decodeList_encodeList]
  cases scope with
  | page => simp [parse, render, Scope.tokenPrefix?, bodyText, Base64Url.encode, splitScope_C, body]
  | userSession | application =>
    simp [parse, render, Scope.tokenPrefix?, bodyText, Base64Url.encode, splitScope,
      List.span_eq_takeWhile_dropWhile, Scope.ofTokenPrefix?, body]

end StateToken

theorem Hex.isDigit_digit : ∀ n, n < 16 → Hex.isDigit (Hex.digit n) = true := by
  decide

/-- Octets written in hexadecimal make a valid nonce, as long as there is one. -/
theorem StateToken.validNonce_encode {bytes : List UInt8} (nonempty : bytes ≠ []) :
    StateToken.validNonce (Hex.encode bytes).toList = true := by
  simp only [StateToken.validNonce, Hex.encode, String.toList_ofList, Bool.and_eq_true,
    Bool.not_eq_true', List.isEmpty_eq_false_iff, ne_eq, List.all_eq_true, List.mem_flatMap]
  refine ⟨?_, ?_⟩
  · obtain ⟨b, rest, rfl⟩ := List.exists_cons_of_ne_nil nonempty
    simp [Hex.octetDigits]
  · rintro c ⟨b, -, digit⟩
    simp only [Hex.octetDigits, List.mem_cons, List.not_mem_nil, or_false] at digit
    rcases digit with rfl | rfl
    · have small : b.toNat < 256 := b.toNat_lt
      exact Hex.isDigit_digit _ (by omega)
    · exact Hex.isDigit_digit _ (Nat.mod_lt _ (by decide))

end FormIntegrity
