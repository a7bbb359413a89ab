import FormIntegrity.Proofs.ClassRanges

/-!
# What an expression matches

`Regex.Matches w re i j` says that the expression `re` matches the stretch of the text `w` from
position `i` to position `j`, with assertions judged on the characters around a position: the one
before it (none at the start) and the one after it (none at the end). A counted repetition matches
as many copies of its inner expression in a row as its least count asks, and no more than its bound
allows (`matches_rep_iff`, through `Copies`).

The expressions a pattern compiles to are `Bounded`: their classes are canonical and no counted
repetition has a bound below its least count.
-/

namespace FormIntegrity.Pattern

/-- The character before a position of a text; none at its start. -/
def charBefore (w : List Char) : Nat → Option Char
  | 0 => none
  | i + 1 => w[i]?

namespace Regex

/-- The expression matches the text from one position to another. -/
inductive Matches (w : List Char) : Regex → Nat → Nat → Prop
  | empty {i : Nat} (within : i ≤ w.length) : Matches w .empty i i
  | chars {cls : CharClass} {i : Nat} {c : Char} (read : w[i]? = some c)
      (member : cls.contains c.toNat = true) : Matches w (.chars cls) i (i + 1)
  | look {l : Look} {i : Nat} (within : i ≤ w.length) (holds : l.holds (charBefore w i) w[i]? = true) :
      Matches w (.look l) i i
  | cat {a b : Regex} {i j k : Nat} (left : Matches w a i j) (right : Matches w b j k) :
      Matches w (.cat a b) i k
  | altLeft {a b : Regex} {i j : Nat} (left : Matches w a i j) : Matches w (.alt a b) i j
  | altRight {a b : Regex} {i j : Nat} (right : Matches w b i j) : Matches w (.alt a b) i j
  | repDone {r : Regex} {max : Option Nat} {i : Nat} (within : i ≤ w.length) :
      Matches w (.rep r 0 max) i i
  | repMore {r : Regex} {min : Nat} {max : Option Nat} {i j k : Nat} (room : max ≠ some 0)
      (first : Matches w r i j) (rest : Matches w (.rep r (min - 1) (max.map (· - 1))) j k) :
      Matches w (.rep r min max) i k

/-- `n` matches of an expression in a row. -/
inductive Copies (w : List Char) (r : Regex) : Nat → Nat → Nat → Prop
  | zero {i : Nat} (within : i ≤ w.length) : Copies w r 0 i i
  | succ {n i j k : Nat} (first : Matches w r i j) (rest : Copies w r n j k) : Copies w r (n + 1) i k

/-- Expressions whose classes are canonical and whose counted repetitions have a bound no lower
than their least count. -/
def Bounded : Regex → Prop
  | .chars cls => cls.Canonical
  | .cat a b => a.Bounded ∧ b.Bounded
  | .alt a b => a.Bounded ∧ b.Bounded
  | .rep r min max => r.Bounded ∧ ∀ m, max = some m → min ≤ m
  | .empty | .look _ => True

variable {w : List Char}

/-- A match runs forwards and stays within the text. -/
theorem Matches.within {re : Regex} {i j : Nat} (matched : Matches w re i j) :
    i ≤ j ∧ j ≤ w.length := by
  induction matched with
  | empty within | look within _ | repDone within => exact ⟨le_refl _, within⟩
  | chars read _ =>
    have := (List.getElem?_eq_some_iff.mp read).1
    omega
  | cat _ _ left right | repMore _ _ _ left right => omega
  | altLeft _ ih | altRight _ ih => exact ih

theorem Copies.within {r : Regex} {n i j : Nat} (copies : Copies w r n i j) : i ≤ j ∧ j ≤ w.length := by
  induction copies with
  | zero within => exact ⟨le_refl _, within⟩
  | succ first _ ih =>
    have := first.within
    omega

theorem matches_empty_iff {i j : Nat} : Matches w .empty i j ↔ i = j ∧ j ≤ w.length := by
  constructor
  · intro matched
    cases matched with
    | empty within => exact ⟨rfl, within⟩
  · rintro ⟨rfl, within⟩
    exact .empty within

theorem matches_chars_iff {cls : CharClass} {i j : Nat} :
    Matches w (.chars cls) i j ↔ j = i + 1 ∧ ∃ c, w[i]? = some c ∧ cls.contains c.toNat = true := by
  constructor
  · intro matched
    cases matched with
    | chars read member => exact ⟨rfl, _, read, member⟩
  · rintro ⟨rfl, c, read, member⟩
    exact .chars read member

theorem matches_look_iff {l : Look} {i j : Nat} :
    Matches w (.look l) i j ↔ i = j ∧ j ≤ w.length ∧ l.holds (charBefore w i) w[i]? = true := by
  constructor
  · intro matched
    cases matched with
    | look within holds => exact ⟨rfl, within, holds⟩
  · rintro ⟨rfl, within, holds⟩
    exact .look within holds

theorem matches_cat_iff {a b : Regex} {i k : Nat} :
    Matches w (.cat a b) i k ↔ ∃ j, Matches w a i j ∧ Matches w b j k := by
  constructor
  · intro matched
    cases matched with
    | cat left right => exact ⟨_, left, right⟩
  · rintro ⟨j, left, right⟩
    exact .cat left right

theorem matches_alt_iff {a b : Regex} {i j : Nat} :
    Matches w (.alt a b) i j ↔ Matches w a i j ∨ Matches w b i j := by
  constructor
  · intro matched
    cases matched with
    | altLeft left => exact .inl left
    | altRight right => exact .inr right
  · rintro (left | right)
    · exact .altLeft left
    · exact .altRight right

/-! ## Repetition as copies in a row -/

/-- A repetition matches some number of copies in a row, no fewer than its least count and no more
than its bound. -/
theorem matches_rep_iff {r : Regex} {min : Nat} {max : Option Nat} {i k : Nat} :
    Matches w (.rep r min max) i k ↔
      ∃ n, min ≤ n ∧ (∀ m, max = some m → n ≤ m) ∧ Copies w r n i k := by
  constructor
  · intro matched
    generalize shape : Regex.rep r min max = re at matched
    induction matched generalizing min max with
    | repDone within =>
      cases shape
      exact ⟨0, le_refl _, fun _ _ => Nat.zero_le _, .zero within⟩
    | repMore room first _ _ ih =>
      -- one copy, then the repetition with one fewer required and allowed
      cases shape
      obtain ⟨n, least, most, copies⟩ := ih rfl
      refine ⟨n + 1, by omega, fun m bound => ?_, .succ first copies⟩
      subst bound
      have : n ≤ m - 1 := most (m - 1) rfl
      have : m ≠ 0 := fun zero => room (by rw [zero])
      omega
    | _ => cases shape
  · rintro ⟨n, least, most, copies⟩
    revert least most
    induction copies generalizing min max with
    | zero within =>
      intro least most
      have : min = 0 := by omega
      subst this
      exact .repDone within
    | succ first _ ih =>
      intro least most
      refine .repMore (fun zero => ?_) first (ih (by omega) fun m bound => ?_)
      · have := most 0 zero
        omega
      · cases max with
        | none => cases bound
        | some top =>
          simp only [Option.map_some, Option.some.injEq] at bound
          have := most top rfl
          omega

theorem Copies.append {r : Regex} {a b i j k : Nat} (first : Copies w r a i j) (second : Copies w r b j k) :
    Copies w r (a + b) i k := by
  induction first with
  | zero => simpa using second
  | succ head _ ih =>
    rw [Nat.add_right_comm]
    exact .succ head (ih second)

theorem copies_add_iff {r : Regex} {a b i k : Nat} :
    Copies w r (a + b) i k ↔ ∃ j, Copies w r a i j ∧ Copies w r b j k := by
  constructor
  · intro copies
    induction a generalizing i with
    | zero =>
      rw [Nat.zero_add] at copies
      exact ⟨i, Copies.zero (copies.within.1.trans copies.within.2), copies⟩
    | succ a ih =>
      rw [Nat.add_right_comm] at copies
      cases copies with
      | succ first rest =>
        obtain ⟨j, front, back⟩ := ih rest
        exact ⟨j, .succ first front, back⟩
  · rintro ⟨j, front, back⟩
    exact front.append back

end Regex

end FormIntegrity.Pattern
