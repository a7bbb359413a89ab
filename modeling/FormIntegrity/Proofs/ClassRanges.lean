import FormIntegrity.Pattern.Automaton
import Mathlib.Data.List.Chain

/-!
# Canonical classes and the search over their ranges

A class keeps its members as ranges that hold a code point each and come in ascending order, each
ending more than one below the start of the next (`CharClass.Canonical`). Every class the library
builds from lists of ranges is canonical whatever the ranges were (`canonical_normalize` and the
operations through it), and complements keep canonical classes canonical (`Canonical.complementUpTo`).

On a canonical class the automaton's binary search over the ranges finds a code point exactly when
the class contains it (`inRanges_eq_contains`).
-/

namespace FormIntegrity.Pattern

namespace CharClass

/-- Ranges that each hold a code point and that come in ascending order, neither overlapping nor
touching. -/
def Separated (rs : List (Nat × Nat)) : Prop :=
  (∀ r ∈ rs, r.1 ≤ r.2) ∧ rs.IsChain fun a b => a.2 + 1 < b.1

/-- A class whose ranges are separated. -/
def Canonical (cls : CharClass) : Prop :=
  Separated cls.ranges

theorem separated_nil : Separated [] :=
  ⟨by simp, .nil⟩

theorem separated_cons {r : Nat × Nat} {rs : List (Nat × Nat)} :
    Separated (r :: rs) ↔ r.1 ≤ r.2 ∧ (∀ s ∈ rs.head?, r.2 + 1 < s.1) ∧ Separated rs := by
  cases rs with
  | nil => simp [Separated]
  | cons s rest =>
    simp only [Separated, List.mem_cons, forall_eq_or_imp, List.isChain_cons_cons, List.head?_cons,
      Option.mem_def, Option.some.injEq, forall_eq']
    tauto

/-- In separated ranges every range ends below the start of every later one. -/
theorem Separated.pairwise {rs : List (Nat × Nat)} (separated : Separated rs) :
    rs.Pairwise fun a b => a.2 < b.1 := by
  induction rs with
  | nil => exact .nil
  | cons r rest ih =>
    obtain ⟨-, below, restSeparated⟩ := separated_cons.mp separated
    refine .cons (fun s member => ?_) (ih restSeparated)
    -- the next range starts above `r`, and every later one above the next
    cases rest with
    | nil => cases member
    | cons t more =>
      have next : r.2 + 1 < t.1 := below t rfl
      rcases List.mem_cons.mp member with rfl | later
      · omega
      · have := List.rel_of_pairwise_cons (ih restSeparated) later
        have := restSeparated.1 t (by simp)
        omega

theorem canonical_empty : empty.Canonical :=
  separated_nil

theorem canonical_single (c : Nat) : (single c).Canonical := by
  simp [Canonical, single, separated_cons, separated_nil]

/-! ## Sorting and merging -/

/-- Ranges in ascending order of starts. -/
def StartSorted (rs : List (Nat × Nat)) : Prop :=
  rs.IsChain fun a b => a.1 ≤ b.1

theorem mem_insertByStart {r s : Nat × Nat} {rs : List (Nat × Nat)} :
    s ∈ insertByStart r rs ↔ s = r ∨ s ∈ rs := by
  induction rs with
  | nil => simp [insertByStart]
  | cons t rest ih =>
    unfold insertByStart
    split <;> simp [ih, or_left_comm]

theorem head?_insertByStart (r t : Nat × Nat) (rs : List (Nat × Nat)) :
    ∃ u, (insertByStart r (t :: rs)).head? = some u ∧ (u = r ∨ u = t) := by
  unfold insertByStart
  split <;> simp

theorem StartSorted.insertByStart {rs : List (Nat × Nat)} (sorted : StartSorted rs) (r : Nat × Nat) :
    StartSorted (insertByStart r rs) := by
  induction rs with
  | nil => exact .singleton r
  | cons t rest ih =>
    unfold CharClass.insertByStart
    split
    case isTrue before => exact .cons_cons before sorted
    case isFalse after =>
      -- `r` goes into the tail, whose new head is `r` or the old one, both above `t`
      have restSorted : StartSorted rest := sorted.tail
      cases rest with
      | nil => exact .cons_cons (by omega) (.singleton r)
      | cons u more =>
        obtain ⟨v, head, either⟩ := head?_insertByStart r u more
        have tu : t.1 ≤ u.1 := (List.isChain_cons_cons.mp sorted).1
        match inserted : CharClass.insertByStart r (u :: more), head with
        | v' :: others, head =>
          cases head
          rw [inserted] at ih
          refine .cons_cons ?_ (ih restSorted)
          rcases either with rfl | rfl <;> omega

theorem startSorted_sortByStart (rs : List (Nat × Nat)) : StartSorted (sortByStart rs) := by
  induction rs with
  | nil => exact .nil
  | cons r rest ih => exact ih.insertByStart r

theorem mem_sortByStart {r : Nat × Nat} {rs : List (Nat × Nat)} :
    r ∈ sortByStart rs ↔ r ∈ rs := by
  induction rs with
  | nil => simp [sortByStart]
  | cons s rest ih =>
    simp only [sortByStart, List.foldr_cons] at ih ⊢
    rw [mem_insertByStart, ih, List.mem_cons]

/-- Merging ranges sorted by their starts leaves them separated, and keeps the first start. -/
theorem mergeSorted_separated (rs : List (Nat × Nat)) (sorted : StartSorted rs)
    (valid : ∀ r ∈ rs, r.1 ≤ r.2) :
    Separated (mergeSorted rs) ∧ (mergeSorted rs).head?.map Prod.fst = rs.head?.map Prod.fst := by
  fun_induction mergeSorted rs with
  | case1 a b c d rest touching ih =>
    -- the two first ranges join into one that starts at `a`
    have ac : a ≤ c := (List.isChain_cons_cons.mp sorted).1
    have joinedSorted : StartSorted ((a, max b d) :: rest) := by
      cases rest with
      | nil => exact .singleton _
      | cons e more =>
        have ce : c ≤ e.1 := (List.isChain_cons_cons.mp (List.isChain_cons_cons.mp sorted).2).1
        exact .cons_cons (by simp only; omega) sorted.tail.tail
    have joinedValid : ∀ r ∈ (a, max b d) :: rest, r.1 ≤ r.2 := by
      intro r member
      rcases List.mem_cons.mp member with rfl | later
      · have := valid (a, b) (by simp)
        simp only
        omega
      · exact valid r (by simp [later])
    obtain ⟨separated, head⟩ := ih joinedSorted joinedValid
    exact ⟨separated, by simpa using head⟩
  | case2 a b c d rest apart ih =>
    -- the first range stays apart from the merged rest, which starts at `c`
    obtain ⟨separated, head⟩ := ih sorted.tail fun r member => valid r (by simp [member])
    refine ⟨separated_cons.mpr ⟨valid (a, b) (by simp), fun s member => ?_, separated⟩, rfl⟩
    have : s.1 = c := by
      rw [Option.mem_def] at member
      simpa [member] using head
    omega
  | case3 rs short =>
    refine ⟨⟨valid, ?_⟩, rfl⟩
    rcases rs with _ | ⟨r, _ | ⟨⟨c, d⟩, rest⟩⟩
    · exact .nil
    · exact .singleton r
    · exact (short r.1 r.2 c d rest rfl).elim

/-- Every list of ranges becomes a canonical class. -/
theorem canonical_normalize (rs : List (Nat × Nat)) : (normalize rs).Canonical := by
  unfold normalize
  -- the ranges merged are those kept by the filter, so none is empty
  refine (mergeSorted_separated _ (startSorted_sortByStart _) fun r member => ?_).1
  simpa using (List.mem_filter.mp (mem_sortByStart.mp member)).2

theorem canonical_range (lo hi : Nat) : (range lo hi).Canonical :=
  canonical_normalize _

theorem canonical_ofChars (cs : List Char) : (ofChars cs).Canonical :=
  canonical_normalize _

theorem canonical_union (a b : CharClass) : (union a b).Canonical :=
  canonical_normalize _

/-! ## Complements -/

/-- The gaps of separated ranges from `start` on are separated and start at `start` or later. -/
theorem gaps_separated (top : Nat) {rs : List (Nat × Nat)} (separated : Separated rs) :
    ∀ start, (∀ r ∈ rs, start ≤ r.1) →
      Separated (gaps top start rs) ∧ ∀ g ∈ gaps top start rs, start ≤ g.1 := by
  induction rs with
  | nil =>
    intro start _
    unfold gaps
    split <;> simp_all [separated_cons, separated_nil]
  | cons r rest ih =>
    intro start above
    obtain ⟨rValid, -, restSeparated⟩ := separated_cons.mp separated
    have later : ∀ s ∈ rest, r.2 + 1 ≤ s.1 := fun s member =>
      List.rel_of_pairwise_cons separated.pairwise member
    obtain ⟨restGaps, restAbove⟩ := ih restSeparated (r.2 + 1) later
    have startBelow : start ≤ r.1 := above r (by simp)
    obtain ⟨lo, hi⟩ := r
    simp only [gaps]
    split
    case isTrue gap =>
      -- one gap below `lo`, then the gaps after `hi`, which start above it
      refine ⟨separated_cons.mpr ⟨by simp only; omega, fun g member => ?_, restGaps⟩, ?_⟩
      · have := restAbove g (List.mem_of_mem_head? member)
        simp only at this ⊢
        omega
      · intro g member
        rcases List.mem_cons.mp member with rfl | rest
        · simp
        · have := restAbove g rest
          simp only at this
          omega
    case isFalse => exact ⟨restGaps, fun g member => by have := restAbove g member; simp only at this; omega⟩

theorem Canonical.complementUpTo {cls : CharClass} (canonical : cls.Canonical) (top : Nat) :
    (cls.complementUpTo top).Canonical :=
  (gaps_separated top canonical 0 fun _ _ => Nat.zero_le _).1

theorem Canonical.complement {cls : CharClass} (canonical : cls.Canonical) :
    cls.complement.Canonical :=
  canonical.complementUpTo maxCode

theorem canonical_inter (a b : CharClass) : (inter a b).Canonical :=
  (canonical_union _ _).complement

theorem canonical_diff (a b : CharClass) : (diff a b).Canonical :=
  canonical_inter _ _

theorem canonical_symmDiff (a b : CharClass) : (symmDiff a b).Canonical :=
  canonical_diff _ _

theorem canonical_caseFold (cls : CharClass) : cls.caseFold.Canonical :=
  canonical_union _ _

theorem canonical_asciiCaseFold (cls : CharClass) : cls.asciiCaseFold.Canonical :=
  canonical_union _ _

end CharClass

/-! ## Binary search -/

open CharClass in
/-- The search between two indices of ascending separated ranges finds a code point exactly when one
of the ranges between them holds it. -/
theorem inRanges_go_iff {ranges : Array (Nat × Nat)} (separated : Separated ranges.toList) (c : Nat)
    (lo hi : Nat) (within : hi ≤ ranges.size) :
    inRanges.go ranges c lo hi = true ↔
      ∃ k, ∃ inside : k < ranges.size, lo ≤ k ∧ k < hi ∧ ranges[k].1 ≤ c ∧ c ≤ ranges[k].2 := by
  have ordered := separated.pairwise
  -- ranges further on lie further up
  have ascending : ∀ k m (hk : k < ranges.size) (hm : m < ranges.size), k < m →
      ranges[k].2 < ranges[m].1 := fun k m hk hm before => by
    have := List.pairwise_iff_getElem.mp ordered k m (by simpa using hk) (by simpa using hm) before
    simpa using this
  have valid : ∀ k (hk : k < ranges.size), ranges[k].1 ≤ ranges[k].2 := fun k hk =>
    separated.1 _ (by simp)
  fun_induction inRanges.go ranges c lo hi with
  | case1 lo hi nonempty mid a b found below ih =>
    -- `c` lies below the middle range, so no range from the middle on holds it
    have midEq : mid = (lo + hi) / 2 := rfl
    have inside : mid < ranges.size := by omega
    have middle : ranges[mid] = (a, b) := by simpa [inside] using found
    refine (ih (by omega)).trans ?_
    constructor
    · rintro ⟨k, hk, low, high, holds⟩
      exact ⟨k, hk, low, by omega, holds⟩
    · rintro ⟨k, hk, low, high, first, last⟩
      refine ⟨k, hk, low, ?_, first, last⟩
      by_contra above
      have : a ≤ ranges[k].1 := by
        rcases Nat.lt_or_ge mid k with lt | ge
        · have := ascending mid k inside hk lt
          have := valid mid inside
          rw [middle] at *
          simp only at *
          omega
        · have same : k = mid := by omega
          subst same
          rw [middle]
      omega
  | case2 lo hi nonempty mid a b found notBelow above ih =>
    -- `c` lies above the middle range, so no range up to the middle holds it
    have midEq : mid = (lo + hi) / 2 := rfl
    have inside : mid < ranges.size := by omega
    have middle : ranges[mid] = (a, b) := by simpa [inside] using found
    refine (ih within).trans ?_
    constructor
    · rintro ⟨k, hk, low, high, holds⟩
      exact ⟨k, hk, by omega, high, holds⟩
    · rintro ⟨k, hk, low, high, first, last⟩
      refine ⟨k, hk, ?_, high, first, last⟩
      by_contra early
      have : ranges[k].2 ≤ b := by
        rcases Nat.lt_or_ge k mid with lt | ge
        · have := ascending k mid hk inside lt
          have := valid k hk
          rw [middle] at *
          simp only at *
          omega
        · have same : k = mid := by omega
          subst same
          rw [middle]
      omega
  | case3 lo hi nonempty mid a b found notBelow notAbove =>
    -- the middle range holds `c`
    have midEq : mid = (lo + hi) / 2 := rfl
    have inside : mid < ranges.size := by omega
    have middle : ranges[mid] = (a, b) := by simpa [inside] using found
    simp only [true_iff]
    exact ⟨mid, inside, by omega, by omega, by rw [middle]; omega, by rw [middle]; omega⟩
  | case4 lo hi empty =>
    simp only [Bool.false_eq_true, false_iff, not_exists, not_and]
    intro k _ low high
    omega

/-- On a canonical class the binary search over its ranges decides membership. -/
theorem inRanges_eq_contains {cls : CharClass} (canonical : cls.Canonical) (c : Nat) :
    inRanges cls.ranges.toArray c = cls.contains c := by
  have separated : CharClass.Separated cls.ranges.toArray.toList := by
    rw [List.toList_toArray]
    exact canonical
  have search := inRanges_go_iff separated c 0 cls.ranges.length (by simp)
  unfold inRanges
  rw [Bool.eq_iff_iff, List.size_toArray, search]
  simp only [CharClass.contains, List.any_eq_true, Bool.and_eq_true, decide_eq_true_eq,
    List.getElem_toArray, List.size_toArray, Nat.zero_le, true_and, Prod.exists]
  constructor
  · rintro ⟨k, hk, -, first, last⟩
    exact ⟨_, _, List.getElem_mem hk, first, last⟩
  · rintro ⟨lo, hi, member, first, last⟩
    obtain ⟨k, hk, at_k⟩ := List.getElem_of_mem member
    exact ⟨k, hk, hk, by rw [at_k]; exact first, by rw [at_k]; exact last⟩

end FormIntegrity.Pattern
