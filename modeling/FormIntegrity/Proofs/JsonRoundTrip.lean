import FormIntegrity.Json.Reader
import Mathlib.Tactic.SplitIfs
import Mathlib.Data.List.TakeDrop

/-!
# Reading back a written document

The reader inverts the writer on every plain value: one that holds no number written with a
fraction or an exponent and no text kept as written. A string literal reads back as its string,
since every escape the writer uses is one the reader knows and no character is half of a surrogate
pair; an integer reads back as itself, since the shortest numeral has no leading zero and the
writer puts only a comma, a closing bracket or nothing after it; arrays and objects read back item
by item and member by member. The fuel the reader is given, about twice the length of the text,
is always enough: each value needs one step more than its text has characters.
-/

namespace FormIntegrity

theorem Hex.digitValue?_digit : ∀ n < 16, Hex.digitValue? (Hex.digit n) = some n := by
  decide

namespace Json

mutual
/-- A value the reader reads back as it was: no number written with a fraction or an exponent,
and no text kept as written. -/
def Value.Plain : Value → Prop
  | .real _ _ => False
  | .unpaired _ => False
  | .arr items => Value.PlainItems items
  | .obj members => Value.PlainMembers members
  | _ => True

/-- Array items that are all plain. -/
def Value.PlainItems : List Value → Prop
  | [] => True
  | v :: rest => v.Plain ∧ Value.PlainItems rest

/-- Object members whose values are all plain. -/
def Value.PlainMembers : List (String × Value) → Prop
  | [] => True
  | (_, v) :: rest => v.Plain ∧ Value.PlainMembers rest
end

/-- Reading the escaped form of one character gives its code point and leaves what follows. -/
theorem readUnits_escapeChar (c : Char) (fuel : Nat) (acc : List Nat) (more : List Char) :
    readUnits (fuel + 1) acc (escapeChar c ++ more) = readUnits fuel (c.toNat :: acc) more := by
  have same : ∀ {n : Nat}, n = c.toNat → Char.ofNat n = c := by
    rintro n rfl
    exact Char.ofNat_toNat c
  unfold escapeChar
  split_ifs with quote backslash newline ret tab bs ff control
  · subst quote; simp [readUnits, escapeValue?]
  · subst backslash; simp [readUnits, escapeValue?]
  · subst newline; simp [readUnits, escapeValue?]
  · subst ret; simp [readUnits, escapeValue?]
  · subst tab; simp [readUnits, escapeValue?]
  · simp [readUnits, escapeValue?, bs]
  · simp [readUnits, escapeValue?, ff]
  · -- a control character is written as `\u00` and its two hexadecimal digits
    have high : c.toNat / 16 < 16 := by omega
    have low : c.toNat % 16 < 16 := Nat.mod_lt _ (by decide)
    have zero : Hex.digitValue? '0' = some 0 := by decide
    have value : ((0 * 16 + 0) * 16 + c.toNat / 16) * 16 + c.toNat % 16 = c.toNat := by omega
    simp only [readUnits, hex4, List.cons_append, List.nil_append, Hex.digitValue?_digit _ high,
      Hex.digitValue?_digit _ low, zero, Option.bind_eq_bind, Option.bind_some, value]
    simp
  · -- any other character is written as it is
    have notQuote : c ≠ '"' := quote
    simp [readUnits, quote, backslash, control]

theorem readUnits_escaped (s : List Char) (fuel : Nat) (acc : List Nat) (rest : List Char)
    (enough : s.length < fuel) :
    readUnits fuel acc (s.flatMap escapeChar ++ '"' :: rest) =
      some (acc.reverse ++ s.map Char.toNat, rest) := by
  induction s generalizing fuel acc with
  | nil =>
    obtain ⟨f, rfl⟩ : ∃ f, fuel = f + 1 := ⟨fuel - 1, by simp at enough; omega⟩
    simp [readUnits]
  | cons c s ih =>
    obtain ⟨f, rfl⟩ : ∃ f, fuel = f + 1 := ⟨fuel - 1, by simp at enough; omega⟩
    rw [List.flatMap_cons, List.append_assoc, readUnits_escapeChar, ih f _ (by simp at enough; omega)]
    simp

/-- No character is half of a surrogate pair. -/
theorem not_surrogate (c : Char) : isLeading c.toNat = false ∧ isTrailing c.toNat = false := by
  have bounded : c.toNat < 0xD800 ∨ (0xDFFF < c.toNat ∧ c.toNat < 0x110000) := c.valid
  simp only [isLeading, isTrailing, Bool.and_eq_false_iff, decide_eq_false_iff_not, Nat.not_le]
  omega

theorem pairSurrogates_map_toNat : ∀ s : List Char, pairSurrogates (s.map Char.toNat) = some s
  | [] => by simp [pairSurrogates]
  | [c] => by simp [pairSurrogates, (not_surrogate c).1, (not_surrogate c).2, Char.ofNat_toNat]
  | c :: d :: rest => by
    have tail := pairSurrogates_map_toNat (d :: rest)
    simp only [List.map_cons] at tail ⊢
    rw [pairSurrogates, if_neg (by simp [(not_surrogate c).1]), if_neg (by simp [(not_surrogate c).2]), tail]
    simp [Char.ofNat_toNat]

theorem length_le_flatMap_escapeChar (s : List Char) : s.length ≤ (s.flatMap escapeChar).length := by
  induction s with
  | nil => simp
  | cons c s ih =>
    have : 0 < (escapeChar c).length := by unfold escapeChar; split_ifs <;> simp
    simp only [List.flatMap_cons, List.length_append, List.length_cons]
    omega

/-- A string literal reads back as its string, whatever follows it. -/
theorem readString_quote (s : String) (rest : List Char) :
    readString (s.toList.flatMap escapeChar ++ '"' :: rest) = some (some s, rest) := by
  have longer := length_le_flatMap_escapeChar s.toList
  unfold readString
  rw [readUnits_escaped _ _ _ _ (by simp only [List.length_append, List.length_cons]; omega)]
  simp [pairSurrogates_map_toNat]

/-- The shortest numeral of a positive number does not start with `0`. -/
theorem head?_toDigits_ne_zero {n : Nat} (pos : 0 < n) : (Nat.toDigits 10 n).head? ≠ some '0' := by
  induction n using Nat.strongRecOn with
  | ind n ih =>
    by_cases small : n < 10
    · have digit : ∀ k < 10, k.digitChar = '0' → k = 0 := by decide
      rw [Nat.toDigits_of_lt_base small]
      intro same
      exact absurd (digit n small (by simpa using same)) (by omega)
    · rw [Nat.toDigits_of_base_le (by decide) (by omega), List.head?_append,
        Option.or_of_isSome (by simp [List.isSome_head?])]
      exact ih (n / 10) (by omega) (by omega)

/-- Text that may follow a value in a document: nothing, a comma, or the end of a container. -/
def Follows (rest : List Char) : Prop :=
  ∀ c ∈ rest.head?, c = ',' ∨ c = ']' ∨ c = '}'

theorem span_isDigit (digits rest : List Char) (allDigits : ∀ c ∈ digits, c.isDigit = true)
    (follows : Follows rest) : (digits ++ rest).span Char.isDigit = (digits, rest) := by
  have stops : rest.takeWhile Char.isDigit = [] ∧ rest.dropWhile Char.isDigit = rest := by
    cases rest with
    | nil => simp
    | cons c more =>
      have notDigit : c.isDigit = false := by
        rcases follows c rfl with rfl | rfl | rfl <;> rfl
      simp [notDigit]
  rw [List.span_eq_takeWhile_dropWhile, List.takeWhile_append_of_pos allDigits,
    List.dropWhile_append_of_pos allDigits, stops.1, stops.2, List.append_nil]

/-- The shortest numeral of a number has no leading zero. -/
theorem toDigits_leadingZero {n : Nat} {h : Char} {t : List Char}
    (digits : Nat.toDigits 10 n = '0' :: h :: t) :
    False := by
  by_cases zero : n = 0
  · subst zero
    simp at digits
  · have := head?_toDigits_ne_zero (n := n) (by omega)
    simp [digits] at this

theorem digitsValue_toDigits (n : Nat) : Decimal.digitsValue (Nat.toDigits 10 n) = n := by
  rw [Decimal.digitsValue_eq, Nat.ofDigitChars_ten_toDigits]

/-- The numeral of an integer reads back as the integer, when a delimiter or nothing follows it. -/
theorem readNumber_intText (i : Int) (rest : List Char) (follows : Follows rest) :
    readNumber ((intText i).toList ++ rest) = some (.int i, rest) := by
  have allDigits : ∀ c ∈ Nat.toDigits 10 i.natAbs, c.isDigit = true :=
    fun c mem => Nat.isDigit_of_mem_toDigits (by decide) (by decide) mem
  have spanned := span_isDigit _ _ allDigits follows
  obtain ⟨d, ds, digits⟩ := List.exists_cons_of_ne_nil (Nat.toDigits_ne_nil (n := i.natAbs) (b := 10))
  have notDash : d ≠ '-' := by
    have := allDigits d (by simp [digits])
    rintro rfl
    exact absurd this (by decide)
  -- what follows the digits is the end of the text or a delimiter
  have ends : rest = [] ∨ ∃ c r, rest = c :: r ∧ (c = ',' ∨ c = ']' ∨ c = '}') := by
    cases rest with
    | nil => exact .inl rfl
    | cons c r => exact .inr ⟨c, r, rfl, follows c rfl⟩
  by_cases negative : i < 0
  · have text : (intText i).toList = '-' :: Nat.toDigits 10 i.natAbs := by
      simp [intText, negative, Decimal.write]
    rw [text]
    unfold readNumber
    simp only [List.cons_append, spanned]
    split
    · exact (toDigits_leadingZero ‹_›).elim
    · -- the digits read back as the magnitude, named so that no normal form of it gets in the way
      obtain ⟨n, natAbsIs⟩ : ∃ n, i.natAbs = n := ⟨_, rfl⟩
      have magnitude : -(n : Int) = i := by omega
      have nonzero : n ≠ 0 := by omega
      rw [natAbsIs]
      rcases ends with rfl | ⟨c, r, rfl, rfl | rfl | rfl⟩ <;>
        simp [digitsValue_toDigits, magnitude, nonzero]
  · have text : (intText i).toList = Nat.toDigits 10 i.natAbs := by
      simp [intText, negative, Decimal.write]
    rw [text]
    unfold readNumber
    split
    rename_i sign more signed
    split at signed
    · -- a numeral never starts with `-`
      rename_i more same
      rw [digits, List.cons_append] at same
      exact absurd (List.cons.inj same).1 notDash
    · simp only [Prod.mk.injEq] at signed
      obtain ⟨rfl, rfl⟩ := signed
      simp only [spanned]
      split
      · exact (toDigits_leadingZero ‹_›).elim
      · obtain ⟨n, natAbsIs⟩ : ∃ n, i.natAbs = n := ⟨_, rfl⟩
        have magnitude : (n : Int) = i := by omega
        rw [natAbsIs]
        rcases ends with rfl | ⟨c, r, rfl, rfl | rfl | rfl⟩ <;> simp [digitsValue_toDigits, magnitude]


theorem skipBlanks_of_not_blank {c : Char} (cs : List Char)
    (notBlank : c ≠ ' ' ∧ c ≠ '\t' ∧ c ≠ '\n' ∧ c ≠ '\r') :
    skipBlanks (c :: cs) = c :: cs := by
  simp [skipBlanks, notBlank]

/-- A value written from a digit or a `-` is read as a number. -/
theorem readValue_number {c : Char} (cs : List Char) (lead : c.isDigit = true ∨ c = '-') (fuel : Nat) :
    readValue (fuel + 1) (c :: cs) = readNumber (c :: cs) := by
  have notOther : c ≠ ' ' ∧ c ≠ '\t' ∧ c ≠ '\n' ∧ c ≠ '\r' ∧ c ≠ 'n' ∧ c ≠ 't' ∧ c ≠ 'f' ∧ c ≠ '"' ∧
      c ≠ '[' ∧ c ≠ '{' := by
    rcases lead with digit | rfl
    · refine ⟨?_, ?_, ?_, ?_, ?_, ?_, ?_, ?_, ?_, ?_⟩ <;> (rintro rfl; revert digit; decide)
    · decide
  obtain ⟨sp, tab, lf, cr, n, t, f, quote, bracket, brace⟩ := notOther
  unfold readValue
  rw [skipBlanks_of_not_blank cs ⟨sp, tab, lf, cr⟩]
  split <;> simp_all

/-- The text of an integer: a `-` before the numeral of its magnitude when it is negative. -/
theorem intText_toList (i : Int) :
    (intText i).toList = (if i < 0 then ['-'] else []) ++ Nat.toDigits 10 i.natAbs := by
  by_cases negative : i < 0 <;> simp [intText, negative, Decimal.write]

/-- The text of an integer starts with a digit or a `-`. -/
theorem intText_head (i : Int) :
    ∃ c cs, (intText i).toList = c :: cs ∧ (c.isDigit = true ∨ c = '-') := by
  rw [intText_toList]
  by_cases negative : i < 0
  · exact ⟨'-', Nat.toDigits 10 i.natAbs, by simp [negative], .inr rfl⟩
  · obtain ⟨d, ds, digits⟩ := List.exists_cons_of_ne_nil (Nat.toDigits_ne_nil (n := i.natAbs) (b := 10))
    exact ⟨d, ds, by simp [negative, digits],
      .inl (Nat.isDigit_of_mem_toDigits (b := 10) (n := i.natAbs) (by decide) (by decide)
        (by simp [digits]))⟩

/-- Every plain value is written from a character that is no blank and no closing bracket. -/
theorem write_head (v : Value) (plain : v.Plain) : ∃ c cs, v.write.toList = c :: cs ∧
    c ≠ ' ' ∧ c ≠ '\t' ∧ c ≠ '\n' ∧ c ≠ '\r' ∧ c ≠ ']' ∧ c ≠ '}' := by
  cases v with
  | null => exact ⟨'n', ['u', 'l', 'l'], by simp [Value.write], by decide⟩
  | bool b =>
    cases b
    · exact ⟨'f', ['a', 'l', 's', 'e'], by simp [Value.write], by decide⟩
    · exact ⟨'t', ['r', 'u', 'e'], by simp [Value.write], by decide⟩
  | int i =>
    obtain ⟨c, cs, text, lead⟩ := intText_head i
    refine ⟨c, cs, text, ?_⟩
    rcases lead with digit | rfl
    · refine ⟨?_, ?_, ?_, ?_, ?_, ?_⟩ <;> (rintro rfl; revert digit; decide)
    · decide
  | real m e => exact plain.elim
  | str s => exact ⟨'"', s.toList.flatMap escapeChar ++ ['"'], by simp [Value.write, quote], by decide⟩
  | arr items => exact ⟨'[', (writeItems items).toList ++ [']'], by simp [Value.write], by decide⟩
  | obj members =>
    exact ⟨'\x7b', (writeMembers members).toList ++ ['\x7d'], by simp [Value.write], by decide⟩
  | unpaired text => exact plain.elim

/-- The text of items starts with the text of the first. -/
theorem writeItems_cons (v : Value) (more : List Value) :
    ∃ tail, (writeItems (v :: more)).toList = v.write.toList ++ tail := by
  cases more with
  | nil => exact ⟨[], by simp [writeItems]⟩
  | cons w rest => exact ⟨',' :: (writeItems (w :: rest)).toList, by simp [writeItems]⟩

/-- The text of members starts with the quote of the first name. -/
theorem writeMembers_cons (m : String × Value) (more : List (String × Value)) :
    ∃ tail, (writeMembers (m :: more)).toList = '"' :: tail := by
  obtain ⟨k, v⟩ := m
  cases more with
  | nil =>
    exact ⟨k.toList.flatMap escapeChar ++ '"' :: ':' :: v.write.toList, by simp [writeMembers, quote]⟩
  | cons n rest =>
    exact ⟨k.toList.flatMap escapeChar ++ '"' :: ':' ::
        (v.write.toList ++ ',' :: (writeMembers (n :: rest)).toList),
      by simp [writeMembers, quote]⟩

theorem follows_comma (r : List Char) : Follows (',' :: r) := fun c same => by
  cases same; exact .inl rfl

theorem follows_bracket (r : List Char) : Follows (']' :: r) := fun c same => by
  cases same; exact .inr (.inl rfl)

theorem follows_brace (r : List Char) : Follows ('}' :: r) := fun c same => by
  cases same; exact .inr (.inr rfl)

mutual

/-- The text of a plain value reads back as the value, with enough fuel and a delimiter or nothing
after it. -/
theorem readValue_write (v : Value) (plain : v.Plain) (fuel : Nat) (rest : List Char)
    (enough : v.write.toList.length < fuel) (follows : Follows rest) :
    readValue fuel (v.write.toList ++ rest) = some (v, rest) := by
  obtain ⟨f, rfl⟩ : ∃ f, fuel = f + 1 := ⟨fuel - 1, by omega⟩
  cases v with
  | null => simp [Value.write, readValue, skipBlanks]
  | bool b => cases b <;> simp [Value.write, readValue, skipBlanks]
  | int i =>
    obtain ⟨c, cs, text, lead⟩ := intText_head i
    simp only [Value.write]
    rw [text, List.cons_append, readValue_number _ lead, ← List.cons_append, ← text,
      readNumber_intText i rest follows]
  | real m e => exact plain.elim
  | str s => simp [Value.write, quote, readValue, skipBlanks, readString_quote]
  | arr items =>
    cases items with
    | nil => simp [Value.write, writeItems, readValue, skipBlanks]
    | cons v more =>
      -- the items start with the text of the first, which is no blank and no `]`
      obtain ⟨c, cs, head, sp, tab, lf, cr, close, -⟩ := write_head v plain.1
      obtain ⟨tail, items⟩ := writeItems_cons v more
      have enoughItems : (writeItems (v :: more)).toList.length + 1 < f := by
        simp only [Value.write, String.toList_append] at enough
        simp at enough
        omega
      have read := readItems_writeItems (v :: more) plain (List.cons_ne_nil _ _) f [] rest enoughItems
        follows
      rw [items, head] at read
      have opening : "[".toList = ['['] := rfl
      have closing : "]".toList = [']'] := rfl
      simp only [Value.write, String.toList_append, items, head, opening, closing, List.cons_append,
        List.append_assoc, readValue]
      rw [skipBlanks_of_not_blank _ (by decide)]
      simp only [List.nil_append]
      rw [skipBlanks_of_not_blank _ ⟨sp, tab, lf, cr⟩]
      split
      · rename_i r same
        exact absurd (List.cons.inj same).1 close
      · simpa using read
  | obj members =>
    cases members with
    | nil => simp [Value.write, writeMembers, readValue, skipBlanks]
    | cons m more =>
      -- the members start with the quote of the first name
      obtain ⟨tail, members⟩ := writeMembers_cons m more
      have enoughMembers : (writeMembers (m :: more)).toList.length + 1 < f := by
        simp only [Value.write, String.toList_append] at enough
        simp at enough
        omega
      have read := readMembers_writeMembers (m :: more) plain (List.cons_ne_nil _ _) f [] rest
        enoughMembers follows
      rw [members, List.cons_append] at read
      simp [Value.write, members, readValue, skipBlanks, read]
  | unpaired text => exact plain.elim

theorem readItems_writeItems (items : List Value) (plain : Value.PlainItems items) (nonempty : items ≠ [])
    (fuel : Nat) (acc : List Value) (rest : List Char)
    (enough : (writeItems items).toList.length + 1 < fuel) (follows : Follows rest) :
    readItems fuel acc ((writeItems items).toList ++ ']' :: rest) =
      some (.arr (acc.reverse ++ items), rest) := by
  obtain ⟨g, rfl⟩ : ∃ g, fuel = g + 1 := ⟨fuel - 1, by omega⟩
  cases items with
  | nil => exact absurd rfl nonempty
  | cons v more =>
    cases more with
    | nil =>
      -- the last item, then the closing bracket
      have enoughItem : v.write.toList.length < g := by simp [writeItems] at enough; omega
      simp only [writeItems]
      simp [readItems, readValue_write v plain.1 g _ enoughItem (follows_bracket rest), skipBlanks]
    | cons w more =>
      -- an item and a comma, then the other items
      have enoughItem : v.write.toList.length < g := by simp [writeItems] at enough; omega
      have enoughRest : (writeItems (w :: more)).toList.length + 1 < g := by
        simp [writeItems] at enough ⊢; omega
      have tail := readItems_writeItems (w :: more) plain.2 (List.cons_ne_nil _ _) g (v :: acc) rest
        enoughRest follows
      simp only [writeItems, String.toList_append, List.append_assoc]
      simp [readItems, readValue_write v plain.1 g _ enoughItem (follows_comma _), skipBlanks, tail]

theorem readMembers_writeMembers (members : List (String × Value)) (plain : Value.PlainMembers members)
    (nonempty : members ≠ []) (fuel : Nat) (acc : List (String × Value)) (rest : List Char)
    (enough : (writeMembers members).toList.length + 1 < fuel) (follows : Follows rest) :
    readMembers fuel (some acc) ((writeMembers members).toList ++ '}' :: rest) =
      some (some (acc.reverse ++ members), rest) := by
  obtain ⟨g, rfl⟩ : ∃ g, fuel = g + 1 := ⟨fuel - 1, by omega⟩
  cases members with
  | nil => exact absurd rfl nonempty
  | cons m more =>
    obtain ⟨k, v⟩ := m
    cases more with
    | nil =>
      -- the last member, then the closing brace
      have enoughValue : v.write.toList.length < g := by simp [writeMembers] at enough; omega
      simp only [writeMembers, quote, String.toList_append, List.append_assoc]
      simp [readMembers, skipBlanks, readString_quote,
        readValue_write v plain.1 g _ enoughValue (follows_brace rest)]
    | cons n more =>
      -- a member and a comma, then the other members
      have enoughValue : v.write.toList.length < g := by simp [writeMembers] at enough; omega
      have enoughRest : (writeMembers (n :: more)).toList.length + 1 < g := by
        simp [writeMembers] at enough ⊢; omega
      have tail := readMembers_writeMembers (n :: more) plain.2 (List.cons_ne_nil _ _) g ((k, v) :: acc) rest
        enoughRest follows
      simp only [writeMembers, quote, String.toList_append, List.append_assoc]
      simp [readMembers, skipBlanks, readString_quote,
        readValue_write v plain.1 g _ enoughValue (follows_comma _), tail]

end

/-- **A plain document reads back as the value it was written from.** -/
theorem read?_write (v : Value) (plain : v.Plain) : read? v.write = some v := by
  have read := readValue_write v plain (2 * v.write.toList.length + 2) [] (by omega)
    (fun c none => by simp at none)
  rw [List.append_nil] at read
  simp [read?, read, skipBlanks]

end Json

end FormIntegrity
