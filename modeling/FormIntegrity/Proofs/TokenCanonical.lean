import FormIntegrity.Proofs.TokenText
import FormIntegrity.Proofs.JsonRoundTrip
import FormIntegrity.Proofs.Calls
import FormIntegrity.Proofs.Placeholder

/-!
# Token text is canonical

Writing a token and reading the text back gives the token (`parse_render_memory`,
`parse_render_cipher`). This module proves the converse: a text that reads as a token is the text of
that token exactly when its page-id and state-index numerals have no leading zeros
(`StateToken.render_eq_iff`), so writing is a bijection from tokens onto the unpadded texts
(`StateToken.text_canonical_bijection`).

Two facts carry it. Digits without a leading zero are the shortest numeral of their value
(`Placeholder.toDigits_ofDigitChars`), and reading base64url is strict: a text that decodes is the text its
octets are written as (`Base64Url.encodeList_decodeList`), so a payload has one text only. The scope
is split off the text at its first dash, and the text is the scope's prefix followed by the body in
every case (`StateToken.splitScope_spec`), whether the body is a payload holding dashes or a page
token with no prefix at all.
-/

namespace FormIntegrity

namespace Decimal

/-- Whether a numeral is written without leading zeros: one that starts with `0` is `0` itself. -/
def Unpadded (ds : List Char) : Prop :=
  ds.head? = some '0' → ds = ['0']

instance (ds : List Char) : Decidable (Unpadded ds) :=
  inferInstanceAs (Decidable (_ → _))

/-- Digits are the shortest numeral of their value exactly when they have no leading zero. -/
theorem toDigits_value_eq_iff {ds : List Char} (nonempty : ds ≠ []) (digits : ∀ c ∈ ds, c.isDigit = true) :
    Nat.toDigits 10 (Nat.ofDigitChars 10 ds 0) = ds ↔ Unpadded ds := by
  constructor
  · intro same
    rw [← same]
    exact (Placeholder.toDigits_canonical _).2.2
  · intro unpadded
    exact Placeholder.toDigits_ofDigitChars ds ⟨nonempty, digits, unpadded⟩

end Decimal

end FormIntegrity

namespace FormIntegrity.Base64Url

/-- No character past ASCII is a symbol. -/
theorem sextet?_of_large {c : Char} (large : 128 ≤ c.toNat) : sextet? c = none := by
  have upper : ¬('A' ≤ c ∧ c ≤ 'Z') := fun within => by have : c.toNat ≤ 90 := within.2; omega
  have lower : ¬('a' ≤ c ∧ c ≤ 'z') := fun within => by have : c.toNat ≤ 122 := within.2; omega
  have digit : ¬('0' ≤ c ∧ c ≤ '9') := fun within => by have : c.toNat ≤ 57 := within.2; omega
  have dash : c ≠ '-' := by rintro rfl; exact absurd large (by decide)
  have underscore : c ≠ '_' := by rintro rfl; exact absurd large (by decide)
  simp [sextet?, upper, lower, digit, dash, underscore]

/-- A symbol stands for a six-bit value, and the symbol of that value is the symbol itself. -/
theorem symbol_of_sextet? {c : Char} {v : Nat} (read : sextet? c = some v) : v < 64 ∧ symbol v = c := by
  have ascii : c.toNat < 128 := by
    by_contra large
    rw [sextet?_of_large (by omega)] at read
    cases read
  -- the ASCII characters are few enough to check one by one
  have table : ∀ n < 128, (sextet? (Char.ofNat n)).all (fun v => v < 64 && symbol v == Char.ofNat n) := by
    decide
  have checked := table c.toNat ascii
  rw [Char.ofNat_toNat, read] at checked
  simpa using checked

theorem toNat_toUInt8 (m : Nat) : m.toUInt8.toNat = m % 256 := by
  simp [Nat.toUInt8, UInt8.toNat_ofNat']

/-- Four sextets are the symbols of the three octets they spell. -/
theorem encodeList_four {w x y z : Nat} (w64 : w < 64) (x64 : x < 64) (y64 : y < 64) (z64 : z < 64)
    (tail : List UInt8) :
    encodeList (((((w * 64 + x) * 64 + y) * 64 + z) / 65536).toUInt8 ::
        ((((w * 64 + x) * 64 + y) * 64 + z) / 256 % 256).toUInt8 ::
        ((((w * 64 + x) * 64 + y) * 64 + z) % 256).toUInt8 :: tail) =
      symbol w :: symbol x :: symbol y :: symbol z :: encodeList tail := by
  simp only [encodeList, toNat_toUInt8]
  rw [show ((((w * 64 + x) * 64 + y) * 64 + z) / 65536 % 256 * 65536 +
      (((w * 64 + x) * 64 + y) * 64 + z) / 256 % 256 % 256 * 256 +
      (((w * 64 + x) * 64 + y) * 64 + z) % 256 % 256) = ((w * 64 + x) * 64 + y) * 64 + z by omega]
  rw [show (((w * 64 + x) * 64 + y) * 64 + z) / 262144 = w by omega,
    show (((w * 64 + x) * 64 + y) * 64 + z) / 4096 % 64 = x by omega,
    show (((w * 64 + x) * 64 + y) * 64 + z) / 64 % 64 = y by omega,
    show (((w * 64 + x) * 64 + y) * 64 + z) % 64 = z by omega]

/-- Three sextets whose last two bits are zero are the symbols of the two octets they spell. -/
theorem encodeList_three {x y z : Nat} (x64 : x < 64) (y64 : y < 64) (z64 : z < 64)
    (aligned : ((x * 64 + y) * 64 + z) % 4 = 0) :
    encodeList [(((x * 64 + y) * 64 + z) / 1024).toUInt8, (((x * 64 + y) * 64 + z) / 4 % 256).toUInt8] =
      [symbol x, symbol y, symbol z] := by
  simp only [encodeList, toNat_toUInt8]
  rw [show (((x * 64 + y) * 64 + z) / 1024 % 256 * 256 + ((x * 64 + y) * 64 + z) / 4 % 256 % 256) =
      ((x * 64 + y) * 64 + z) / 4 by omega]
  rw [show ((x * 64 + y) * 64 + z) / 4 / 1024 = x by omega,
    show ((x * 64 + y) * 64 + z) / 4 / 16 % 64 = y by omega,
    show ((x * 64 + y) * 64 + z) / 4 % 16 * 4 = z by omega]

/-- Two sextets whose last four bits are zero are the symbols of the octet they spell. -/
theorem encodeList_two {x y : Nat} (x64 : x < 64) (y64 : y < 64) (aligned : (x * 64 + y) % 16 = 0) :
    encodeList [((x * 64 + y) / 16).toUInt8] = [symbol x, symbol y] := by
  simp only [encodeList, toNat_toUInt8]
  rw [show (x * 64 + y) / 16 % 256 / 4 = x by omega, show (x * 64 + y) / 16 % 256 % 4 * 16 = y by omega]

/-- **Reading base64url accepts only the text of what it reads**: a text that decodes is the text
its octets are written as, so no padded or trailing-bit variant is read. -/
theorem encodeList_decodeList : ∀ {symbols : List Char} {bytes : List UInt8},
    decodeList symbols = some bytes → encodeList bytes = symbols
  | a :: b :: c :: d :: rest, bytes, decoded => by
    simp only [decodeList, Option.map_eq_map, Seq.seq, Option.bind_eq_bind, Option.bind_eq_some_iff,
      Option.map_eq_some_iff] at decoded
    obtain ⟨n, ⟨-, ⟨-, ⟨-, ⟨w, hw, rfl⟩, x, hx, rfl⟩, y, hy, rfl⟩, z, hz, rfl⟩, tail, htail, done⟩ :=
      decoded
    cases done
    obtain ⟨w64, rfl⟩ := symbol_of_sextet? hw
    obtain ⟨x64, rfl⟩ := symbol_of_sextet? hx
    obtain ⟨y64, rfl⟩ := symbol_of_sextet? hy
    obtain ⟨z64, rfl⟩ := symbol_of_sextet? hz
    rw [← encodeList_decodeList htail]
    exact encodeList_four w64 x64 y64 z64 tail
  | [a, b, c], bytes, decoded => by
    simp only [decodeList, Option.map_eq_map, Seq.seq, Option.bind_eq_bind, Option.bind_eq_some_iff,
      Option.map_eq_some_iff] at decoded
    obtain ⟨n, ⟨-, ⟨-, ⟨x, hx, rfl⟩, y, hy, rfl⟩, z, hz, rfl⟩, done⟩ := decoded
    obtain ⟨x64, rfl⟩ := symbol_of_sextet? hx
    obtain ⟨y64, rfl⟩ := symbol_of_sextet? hy
    obtain ⟨z64, rfl⟩ := symbol_of_sextet? hz
    split at done
    · cases done
      exact encodeList_three x64 y64 z64 ‹_›
    · cases done
  | [a, b], bytes, decoded => by
    simp only [decodeList, Option.map_eq_map, Seq.seq, Option.bind_eq_bind, Option.bind_eq_some_iff,
      Option.map_eq_some_iff] at decoded
    obtain ⟨n, ⟨-, ⟨x, hx, rfl⟩, y, hy, rfl⟩, done⟩ := decoded
    obtain ⟨x64, rfl⟩ := symbol_of_sextet? hx
    obtain ⟨y64, rfl⟩ := symbol_of_sextet? hy
    split at done
    · cases done
      exact encodeList_two x64 y64 ‹_›
    · cases done
  | [_], bytes, decoded => by cases decoded
  | [], bytes, decoded => by cases decoded; rfl

end FormIntegrity.Base64Url

namespace FormIntegrity.StateToken

/-- The characters a token's text starts with for its scope: the scope's prefix and a dash, or
nothing for the page scope. -/
def prefixChars (scope : Scope) : List Char :=
  match scope.tokenPrefix? with
  | some p => [p, '-']
  | none => []

theorem render_toList (t : StateToken) :
    (render t).toList = prefixChars t.scope ++ (bodyText t.body).toList := by
  unfold render prefixChars
  cases t.scope.tokenPrefix? <;> simp

theorem prefixChars_of_ofTokenPrefix? {pre : List Char} {scope : Scope}
    (named : Scope.ofTokenPrefix? pre = some scope) : prefixChars scope = pre ++ ['-'] := by
  unfold Scope.ofTokenPrefix? at named
  split at named <;> cases named <;> rfl

/-- A token's text is the prefix of the scope read from it, followed by what is left to read. -/
theorem splitScope_spec (raw : List Char) : raw = prefixChars (splitScope raw).1 ++ (splitScope raw).2 := by
  unfold splitScope
  split
  · rename_i pre c rest spanned
    rw [List.span_eq_takeWhile_dropWhile, Prod.mk.injEq] at spanned
    -- the text is cut at its first dash
    have whole : raw = pre ++ c :: rest := by
      rw [← spanned.1, ← spanned.2, List.takeWhile_append_dropWhile]
    have dash : c = '-' := by
      have stop := List.head?_dropWhile_not (· ≠ '-') raw
      rw [spanned.2] at stop
      simpa using stop
    split
    · rename_i scope named
      rw [prefixChars_of_ofTokenPrefix? named, whole, dash]
      simp
    · rfl
  · rfl

/-- The page-id and state-index segments of a token body: its first two `-`-separated segments. A
payload, which starts with `C`, has none. -/
def numeralsOf : List Char → List (List Char)
  | 'C' :: _ => []
  | rest => (rest.splitOn '-').take 2

/-- The page-id and state-index segments of a token's text, after the scope's prefix. -/
def numeralSegments (raw : String) : List (List Char) :=
  numeralsOf (splitScope raw.toList).2

/-- Reading a token text reads the scope off its prefix and the body from the rest. -/
theorem parse_eq_ok {raw : String} {t : StateToken} (parsed : parse raw = .ok t) :
    (splitScope raw.toList).1 = t.scope ∧ parseBody (splitScope raw.toList).2 = .ok t.body := by
  unfold parse at parsed
  rcases cut : splitScope raw.toList with ⟨scope, rest⟩
  rw [cut] at parsed
  obtain ⟨body, bodyRead, rfl⟩ := Except.map_eq_ok.mp parsed
  exact ⟨rfl, bodyRead⟩

/-- What reading a token body accepts: a `C` and base64url text, or three `-`-separated segments
that are two numerals below `2 ^ 64` and a hexadecimal nonce. -/
theorem parseBody_eq_ok {rest : List Char} {body : TokenBody} (parsed : parseBody rest = .ok body) :
    (∃ encoded payload, rest = 'C' :: encoded ∧ Base64Url.decodeList encoded = some payload ∧
      body = .cipher payload) ∨
    (∃ page index nonce id idx, rest.head? ≠ some 'C' ∧ rest.splitOn '-' = [page, index, nonce] ∧
      Decimal.readU64? page = some id ∧ Decimal.readU64? index = some idx ∧
      validNonce nonce = true ∧ body = .memory id idx (String.ofList nonce)) := by
  unfold parseBody at parsed
  split at parsed
  · rename_i encoded
    split at parsed
    · cases parsed
    · cases parsed
    · rename_i payload _ decoded
      cases parsed
      exact .inl ⟨encoded, payload, rfl, decoded, rfl⟩
  · rename_i notCipher
    have head : rest.head? ≠ some 'C' := by
      intro starts
      obtain ⟨encoded, rfl⟩ : ∃ encoded, rest = 'C' :: encoded := by
        cases rest with
        | nil => cases starts
        | cons c more => exact ⟨more, by simpa using starts⟩
      exact notCipher encoded rfl
    split at parsed
    · rename_i page index nonce segments
      split at parsed
      · cases parsed
      · rename_i id pageRead
        split at parsed
        · cases parsed
        · rename_i idx indexRead
          split at parsed
          · rename_i valid
            cases parsed
            exact .inr ⟨page, index, nonce, id, idx, head, segments, pageRead, indexRead, valid, rfl⟩
          · cases parsed
    · cases parsed

theorem splitOn_memoryText (id index : UInt64) {nonce : List Char} (noDash : '-' ∉ nonce) :
    (Nat.toDigits 10 id.toNat ++ '-' :: (Nat.toDigits 10 index.toNat ++ '-' :: nonce)).splitOn '-' =
      [Nat.toDigits 10 id.toNat, Nat.toDigits 10 index.toNat, nonce] := by
  rw [List.splitOn_append_cons_self_of_not_mem (fun mem => ne_dash_of_mem_toDigits mem rfl),
    List.splitOn_append_cons_self_of_not_mem (fun mem => ne_dash_of_mem_toDigits mem rfl),
    List.splitOn_eq_singleton noDash]

theorem not_dash_of_validNonce {nonce : List Char} (valid : validNonce nonce = true) : '-' ∉ nonce := by
  intro mem
  simp only [validNonce, Bool.and_eq_true, List.all_eq_true] at valid
  exact ne_dash_of_hex (valid.2 '-' mem) rfl

/-- A numeral segment that reads as a number is that number's numeral exactly when it has no
leading zero. -/
theorem toDigits_eq_iff_unpadded {segment : List Char} {n : UInt64}
    (read : Decimal.readU64? segment = some n) :
    Nat.toDigits 10 n.toNat = segment ↔ Decimal.Unpadded segment := by
  obtain ⟨nonempty, digits, value⟩ := (Decimal.readU64?_eq_some_iff segment n).mp read
  rw [← value]
  exact Decimal.toDigits_value_eq_iff nonempty digits

/-- **A token's text is written back exactly when its numerals have no leading zeros.** Reading a
text and writing the token it reads gives the text again precisely when the page-id and state-index
segments are unpadded; a payload is always written back, since base64url reading is strict. -/
theorem render_eq_iff {raw : String} {t : StateToken} (parsed : parse raw = .ok t) :
    render t = raw ↔ ∀ seg ∈ numeralSegments raw, Decimal.Unpadded seg := by
  obtain ⟨sameScope, bodyRead⟩ := parse_eq_ok parsed
  have whole := splitScope_spec raw.toList
  rw [numeralSegments]
  generalize (splitScope raw.toList).2 = rest at whole bodyRead ⊢
  rw [sameScope] at whole
  -- the prefixes agree, so the texts agree when the bodies do
  have texts : render t = raw ↔ (bodyText t.body).toList = rest := by
    rw [← String.toList_inj, render_toList, whole, List.append_cancel_left_eq]
  rw [texts]
  rcases parseBody_eq_ok bodyRead with ⟨encoded, payload, rfl, decoded, bodyIs⟩ |
    ⟨page, index, nonce, id, idx, head, cut, pageRead, indexRead, valid, bodyIs⟩ <;> rw [bodyIs]
  · -- a payload is written as the strict base64url text it was read from
    simp [bodyText, Base64Url.encode, Base64Url.encodeList_decodeList decoded, numeralsOf]
  · have restIs : rest = page ++ '-' :: (index ++ '-' :: nonce) :=
      calc rest = ['-'].intercalate (rest.splitOn '-') := (List.intercalate_splitOn '-').symm
        _ = page ++ '-' :: (index ++ '-' :: nonce) := by simp [cut]
    have notCipher : numeralsOf rest = [page, index] := by
      unfold numeralsOf
      split
      · simp at head
      · simp [cut]
    rw [notCipher, bodyText_memory, String.toList_ofList, restIs]
    constructor
    · intro same
      have pieces := congrArg (List.splitOn '-') same
      rw [splitOn_memoryText id idx (not_dash_of_validNonce valid), ← restIs, cut] at pieces
      simp only [List.cons.injEq, and_true] at pieces
      simp only [List.mem_cons, List.not_mem_nil, or_false, forall_eq_or_imp, forall_eq]
      exact ⟨(toDigits_eq_iff_unpadded pageRead).mp pieces.1, (toDigits_eq_iff_unpadded indexRead).mp pieces.2⟩
    · intro unpadded
      simp only [List.mem_cons, List.not_mem_nil, or_false, forall_eq_or_imp, forall_eq] at unpadded
      rw [(toDigits_eq_iff_unpadded pageRead).mpr unpadded.1, (toDigits_eq_iff_unpadded indexRead).mpr unpadded.2]

/-- **Token text is a bijection onto canonical text.** A memory token with a hexadecimal nonce and a
cipher token with a payload read back from their text as themselves, for every scope, page id,
state index, nonce and payload; and a text that reads as a token is that token's text exactly when
its page-id and state-index numerals have no leading zeros. -/
theorem text_canonical_bijection :
    (∀ (scope : Scope) (id index : UInt64) (nonce : String), validNonce nonce.toList = true →
      parse (render ⟨scope, .memory id index nonce⟩) = .ok ⟨scope, .memory id index nonce⟩) ∧
    (∀ (scope : Scope) (payload : List UInt8), payload ≠ [] →
      parse (render ⟨scope, .cipher payload⟩) = .ok ⟨scope, .cipher payload⟩) ∧
    ∀ (raw : String) (t : StateToken), parse raw = .ok t →
      (render t = raw ↔ ∀ seg ∈ numeralSegments raw, Decimal.Unpadded seg) :=
  ⟨parse_render_memory, fun scope _ nonempty => parse_render_cipher scope nonempty,
    fun _ _ parsed => render_eq_iff parsed⟩

/-- The user-session token `U-42-3-ff` reads back from its text, while the padded text `U-042-3-ff`
reads as the same token and is not its text. -/
theorem text_canonical_bijection_padded :
    validNonce "ff".toList = true ∧
    parse (render ⟨.userSession, .memory 42 3 "ff"⟩) = .ok ⟨.userSession, .memory 42 3 "ff"⟩ ∧
    parse "U-042-3-ff" = .ok ⟨.userSession, .memory 42 3 "ff"⟩ ∧
    render ⟨.userSession, .memory 42 3 "ff"⟩ ≠ "U-042-3-ff" := by
  have valid : validNonce "ff".toList = true := by decide
  have padded : parse "U-042-3-ff" = .ok ⟨.userSession, .memory 42 3 "ff"⟩ := by rfl
  refine ⟨valid, text_canonical_bijection.1 _ _ _ _ valid, padded, fun same => ?_⟩
  have unpadded := (text_canonical_bijection.2.2 _ _ padded).mp same
  have segments : numeralSegments "U-042-3-ff" = [['0', '4', '2'], ['3']] := by rfl
  rw [segments] at unpadded
  exact absurd (unpadded _ List.mem_cons_self rfl) (by decide)

end FormIntegrity.StateToken
