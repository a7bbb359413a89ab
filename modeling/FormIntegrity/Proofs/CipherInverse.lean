import FormIntegrity.Cipher.Basic

/-!
# Opening what was sealed

A payload sealed under a key with a 24-byte nonce opens under the same key to the plaintext. The key
stream is xored onto the message block by block, so xoring it again gives the message back; the tag
has sixteen bytes, so opening cuts the sealed bytes where sealing joined them and recomputes the tag
it finds there.
-/

namespace FormIntegrity.Cipher

variable {key nonce : List UInt8} {counter : UInt32}

@[simp] theorem length_writeLE (count n : Nat) : (writeLE count n).length = count := by
  induction count generalizing n with
  | zero => rfl
  | succ count ih => simp [writeLE, ih]

theorem length_wordBytes (words : List UInt32) : (wordBytes words).length = 4 * words.length := by
  induction words with
  | nil => rfl
  | cons w rest ih =>
    simp only [wordBytes, List.flatMap_cons, List.length_append, length_writeLE, List.length_cons] at ih ⊢
    omega

theorem length_block (key : List UInt8) (counter : UInt32) (nonce : List UInt8) :
    (block key counter nonce).length = 64 := by
  simp [block, length_wordBytes]

@[simp] theorem length_xorBytes (a b : List UInt8) : (xorBytes a b).length = min a.length b.length :=
  List.length_zipWith

theorem length_poly1305 (key message : List UInt8) : (poly1305 key message).length = 16 := by
  simp [poly1305]

/-- Xoring a second time with a key stream at least as long gives the bytes back. -/
theorem xorBytes_xorBytes {a b : List UInt8} (within : a.length ≤ b.length) :
    xorBytes (xorBytes a b) b = a := by
  induction a generalizing b with
  | nil => rfl
  | cons x rest ih =>
    cases b with
    | nil => simp at within
    | cons y more =>
      simp only [xorBytes, List.zipWith_cons_cons, UInt8.xor_assoc, UInt8.xor_self, UInt8.xor_zero,
        List.cons.injEq, true_and]
      exact ih (by simpa using within)

theorem applyStream_nil : applyStream key counter nonce [] = [] := by
  simp [applyStream, blocks]

/-- The key stream is applied one 64-byte block at a time, the counter going up by one each block. -/
theorem applyStream_cons {message : List UInt8} (nonempty : message ≠ []) :
    applyStream key counter nonce message =
      xorBytes (message.take 64) (block key counter nonce) ++
        applyStream key (counter + 1) nonce (message.drop 64) := by
  have cut : blocks 64 message = message.take 64 :: blocks 64 (message.drop 64) := by
    rw [blocks, if_pos ⟨by decide, List.length_pos_iff.mpr nonempty⟩]
  have start : counter + Nat.toUInt32 0 = counter := by simp [Nat.toUInt32]
  simp only [applyStream, cut, List.zipIdx_cons, List.map_cons, List.flatten_cons, List.zipIdx_succ,
    List.map_map, start]
  refine congrArg (fun rest => xorBytes (message.take 64) (block key counter nonce) ++ rest.flatten)
    (List.map_congr_left ?_)
  -- block `i + 1` of the stream from `counter` is block `i` of the stream from `counter + 1`
  rintro ⟨chunk, i⟩ -
  simp only [Function.comp_apply, Nat.toUInt32, UInt32.ofNat_add]
  congr 2
  ac_rfl

theorem length_applyStream (counter : UInt32) (message : List UInt8) :
    (applyStream key counter nonce message).length = message.length := by
  by_cases empty : message = []
  · simp [empty, applyStream_nil]
  · rw [applyStream_cons empty, List.length_append, length_applyStream (counter + 1) (message.drop 64)]
    simp only [length_xorBytes, length_block, List.length_take, List.length_drop]
    omega
termination_by message.length
decreasing_by simp only [List.length_drop]; have := List.length_pos_iff.mpr empty; omega

/-- Applying the key stream twice from the same counter gives the message back. -/
theorem applyStream_applyStream (counter : UInt32) (message : List UInt8) :
    applyStream key counter nonce (applyStream key counter nonce message) = message := by
  by_cases empty : message = []
  · simp [empty, applyStream_nil]
  · have sealedNonempty : applyStream key counter nonce message ≠ [] := by
      rw [← List.length_pos_iff, length_applyStream]
      exact List.length_pos_iff.mpr empty
    rw [applyStream_cons sealedNonempty, applyStream_cons empty]
    -- the first block of the stream covers the first block of the message exactly
    have cut : ∀ (first rest : List UInt8), first.length = min message.length 64 →
        rest.length = message.length - 64 →
        (first ++ rest).take 64 = first ∧ (first ++ rest).drop 64 = rest := by
      intro first rest firstLength restLength
      by_cases short : message.length ≤ 64
      · have : rest = [] := List.eq_nil_of_length_eq_zero (by omega)
        subst this
        simp only [List.append_nil]
        exact ⟨List.take_of_length_le (by omega), List.drop_of_length_le (by omega)⟩
      · rw [List.take_append, List.drop_append, List.take_of_length_le (by omega),
          List.drop_of_length_le (by omega), show 64 - first.length = 0 by omega]
        simp
    obtain ⟨firstBlock, restBlocks⟩ := cut (xorBytes (message.take 64) (block key counter nonce))
      (applyStream key (counter + 1) nonce (message.drop 64)) (by simp [length_block, Nat.min_comm])
      (by simp [length_applyStream])
    rw [firstBlock, restBlocks, xorBytes_xorBytes (by simp only [List.length_take, length_block]; omega),
      applyStream_applyStream (counter + 1) (message.drop 64), List.take_append_drop]
termination_by message.length
decreasing_by simp only [List.length_drop]; have := List.length_pos_iff.mpr empty; omega

/-- **Sealing is undone by opening.** A plaintext sealed under a key with a nonce of the cipher's
length opens under that key to the plaintext. -/
theorem decrypt_encrypt (key : CipherKey) {nonce : List UInt8} (long : nonce.length = nonceLength)
    (plaintext : List UInt8) : decrypt key (encrypt key nonce plaintext) = .ok plaintext := by
  rcases derived : keys key nonce with ⟨tagKey, subkey, short⟩
  have sealedEq : encrypt key nonce plaintext = nonce ++ (applyStream subkey 1 short plaintext ++
      poly1305 tagKey (authenticated (applyStream subkey 1 short plaintext))) := by
    simp [encrypt, derived]
  have tagLong := length_poly1305 tagKey (authenticated (applyStream subkey 1 short plaintext))
  -- opening finds the nonce, the ciphertext and the tag where sealing put them
  have body : ∀ (ciphertext tag : List UInt8), tag.length = 16 →
      (ciphertext ++ tag).take ((ciphertext ++ tag).length - 16) = ciphertext ∧
        (ciphertext ++ tag).drop ((ciphertext ++ tag).length - 16) = tag := by
    intro ciphertext tag tagLong
    simp [tagLong]
  obtain ⟨cipherPart, tagPart⟩ := body (applyStream subkey 1 short plaintext)
    (poly1305 tagKey (authenticated (applyStream subkey 1 short plaintext))) tagLong
  unfold decrypt tagLength
  rw [sealedEq, if_neg (by simp only [List.length_append, long, tagLong, nonceLength]; omega),
    List.take_left' long, List.drop_left' long]
  simp only [cipherPart, tagPart, derived, if_true, applyStream_applyStream]

end FormIntegrity.Cipher
