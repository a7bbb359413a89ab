import FormIntegrity.Proofs.ParsedTrees
import FormIntegrity.Proofs.PikeSearch

/-!
# What a compiled pattern tests

A pattern compiles exactly when the text `^(?:` source `)$` parses, and the compiled pattern then
finds a match in a text exactly when the tree of that text matches some stretch of it
(`compile_tests_wrapped_tree`): the parsed tree is good, so its automaton searches correctly.

For a source that is an expression on its own, the wrapped text reads as the source's own tree
between the two anchors, built by the simplified concatenation, which matches as the plain one
(`Tree.matches_concat`). Its pattern then matches a text exactly when the source's own tree matches
the whole of it (`test_iff_matches_whole`), and where the wrapped text reads exactly when the source
does, the source compiles exactly when it is an expression on its own (`compile_tests_own_tree`).

Whether that stretch is the whole text depends on the tree. A tree anchored at its start
(`Tree.startsAnchored`) matches only from the start of the text and one anchored at its end only up
to its end (`Tree.Good.start_eq_zero`, `Tree.Good.end_eq_length`), so for a wrapped tree anchored at
both ends a match is a match of the whole text. A source that closes the wrapping group early gives a
tree that is not anchored at both ends, and its pattern matches parts of texts
(`compile_reads_group_closing_source`).
-/

namespace FormIntegrity.Pattern

namespace Regex

variable {w : List Char}

theorem matches_concat_cons {r : Regex} {rs : List Regex} {i k : Nat} :
    Matches w (concat (r :: rs)) i k ↔ ∃ j, Matches w r i j ∧ Matches w (concat rs) j k := by
  cases rs with
  | nil =>
    simp only [concat, matches_empty_iff]
    constructor
    · intro matched
      exact ⟨k, matched, rfl, matched.within.2⟩
    · rintro ⟨j, matched, rfl, -⟩
      exact matched
  | cons s rest =>
    rw [concat, matches_cat_iff]
    exact List.cons_ne_nil s rest

/-- Matching the empty text first changes nothing. -/
theorem matches_empty_then_iff {r : Regex} {i k : Nat} :
    (∃ j, Matches w .empty i j ∧ Matches w r j k) ↔ Matches w r i k := by
  constructor
  · rintro ⟨j, before, matched⟩
    rw [(matches_empty_iff.mp before).1]
    exact matched
  · intro matched
    exact ⟨i, matches_empty_iff.mpr ⟨rfl, matched.within.1.trans matched.within.2⟩, matched⟩

/-- A concatenation of two lists matches as the first list followed by the second. -/
theorem matches_concat_append (xs ys : List Regex) {i k : Nat} :
    Matches w (concat (xs ++ ys)) i k ↔ ∃ j, Matches w (concat xs) i j ∧ Matches w (concat ys) j k := by
  induction xs generalizing i with
  | nil =>
    rw [List.nil_append, concat]
    exact matches_empty_then_iff.symm
  | cons x rest ih =>
    rw [List.cons_append, matches_concat_cons]
    constructor
    · rintro ⟨j, first, more⟩
      obtain ⟨m, middle, last⟩ := ih.mp more
      exact ⟨m, matches_concat_cons.mpr ⟨j, first, middle⟩, last⟩
    · rintro ⟨m, front, last⟩
      obtain ⟨j, first, middle⟩ := matches_concat_cons.mp front
      exact ⟨j, first, ih.mpr ⟨m, middle, last⟩⟩

theorem matches_alternation_iff {rs : List Regex} (nonempty : rs ≠ []) {i j : Nat} :
    Matches w (alternation rs) i j ↔ ∃ r ∈ rs, Matches w r i j := by
  induction rs with
  | nil => exact absurd rfl nonempty
  | cons r rest ih =>
    cases rest with
    | nil => simp [alternation]
    | cons s more =>
      rw [alternation, matches_alt_iff, ih (List.cons_ne_nil s more)]
      · simp
      · exact List.cons_ne_nil s more

/-- A concatenation of expressions that match only the empty text matches only the empty text. -/
theorem eq_of_matches_concat {rs : List Regex} (empty : ∀ r ∈ rs, ∀ i j, Matches w r i j → i = j)
    {i j : Nat} (matched : Matches w (concat rs) i j) : i = j := by
  induction rs generalizing i with
  | nil => exact (matches_empty_iff.mp matched).1
  | cons r rest ih =>
    obtain ⟨k, first, more⟩ := matches_concat_cons.mp matched
    rw [empty r List.mem_cons_self i k first]
    exact ih (fun s member => empty s (List.mem_cons_of_mem r member)) more

theorem Copies.eq_of_empty {r : Regex} (empty : ∀ i j, Matches w r i j → i = j) {n i j : Nat}
    (copies : Copies w r n i j) : i = j := by
  induction copies with
  | zero => rfl
  | succ first _ ih => exact (empty _ _ first).trans ih

theorem Copies.first {r : Regex} {n i j : Nat} (copies : Copies w r (n + 1) i j) :
    ∃ k, Matches w r i k := by
  cases copies with
  | succ first _ => exact ⟨_, first⟩

theorem Copies.last {r : Regex} {n i j : Nat} (copies : Copies w r (n + 1) i j) :
    ∃ k, Matches w r k j := by
  obtain ⟨k, -, final⟩ := copies_add_iff.mp copies
  cases final with
  | succ last rest =>
    cases rest
    exact ⟨k, last⟩

end Regex

/-- The character before a position of a text is missing only at its start. -/
theorem eq_zero_of_charBefore {w : List Char} {i : Nat} (within : i ≤ w.length)
    (missing : charBefore w i = none) : i = 0 := by
  cases i with
  | zero => rfl
  | succ i =>
    rw [charBefore, List.getElem?_eq_none_iff] at missing
    omega

namespace Tree

variable {w : List Char}

theorem allOnlyEmpty_iff {ts : List Tree} : allOnlyEmpty ts = true ↔ ∀ t ∈ ts, t.onlyEmpty = true := by
  induction ts with
  | nil => simp [allOnlyEmpty]
  | cons t rest ih => simp [allOnlyEmpty, ih]

theorem allStartAnchored_iff {ts : List Tree} :
    allStartAnchored ts = true ↔ ∀ t ∈ ts, t.startsAnchored = true := by
  induction ts with
  | nil => simp [allStartAnchored]
  | cons t rest ih => simp [allStartAnchored, ih]

theorem allEndAnchored_iff {ts : List Tree} :
    allEndAnchored ts = true ↔ ∀ t ∈ ts, t.endsAnchored = true := by
  induction ts with
  | nil => simp [allEndAnchored]
  | cons t rest ih => simp [allEndAnchored, ih]

theorem toRegex_cat (items : List Tree) : (cat items).toRegex = Regex.concat (items.map toRegex) := by
  rw [toRegex, toRegexList_eq_map]

theorem toRegex_alt (branches : List Tree) :
    (alt branches).toRegex = Regex.alternation (branches.map toRegex) := by
  rw [toRegex, toRegexList_eq_map]

/-! ### The simplified concatenation

`concat` flattens concatenations, drops empty trees and joins literals in a row; none of it changes
what the concatenation matches (`matches_concat`). -/

/-- The items a tree adds to a concatenation match as the tree. -/
theorem matches_concat_catItems (t : Tree) {i k : Nat} :
    Regex.Matches w (Regex.concat ((catItems t).map toRegex)) i k ↔ t.toRegex.Matches w i k := by
  cases t with
  | cat items => rw [catItems, toRegex_cat]
  | empty | literal | cls | look | rep | capture | alt => exact Iff.rfl

theorem matches_concat_flatMap_catItems (ts : List Tree) {i k : Nat} :
    Regex.Matches w (Regex.concat ((ts.flatMap catItems).map toRegex)) i k ↔
      Regex.Matches w (Regex.concat (ts.map toRegex)) i k := by
  induction ts generalizing i with
  | nil => exact Iff.rfl
  | cons t rest ih =>
    rw [List.flatMap_cons, List.map_append, Regex.matches_concat_append, List.map_cons,
      Regex.matches_concat_cons]
    exact exists_congr fun j => and_congr (matches_concat_catItems t) ih

/-- A literal of two runs matches as the first run followed by the second. -/
theorem matches_literal_append {cs ds : List Char} {i k : Nat} :
    (literal (cs ++ ds)).toRegex.Matches w i k ↔
      ∃ j, (literal cs).toRegex.Matches w i j ∧ (literal ds).toRegex.Matches w j k := by
  rw [toRegex, List.map_append, Regex.matches_concat_append]
  rfl

/-- The literal of pending runs, if any, in front of expressions matches as the runs, joined,
followed by them. -/
theorem matches_concat_pendingLiteral (pending : List (List Char)) (rest : List Regex) {i k : Nat} :
    Regex.Matches w (Regex.concat ((pendingLiteral pending).map toRegex ++ rest)) i k ↔
      ∃ j, (literal pending.reverse.flatten).toRegex.Matches w i j ∧
        Regex.Matches w (Regex.concat rest) j k := by
  cases pending with
  | nil => exact Regex.matches_concat_append [] rest
  | cons run runs => exact Regex.matches_concat_cons

/-- Joining literals in a row keeps what a concatenation matches: the joined items match as the
pending runs, joined, followed by the trees. -/
theorem matches_concat_joinLiterals (pending : List (List Char)) (ts : List Tree) :
    ∀ {i k : Nat}, Regex.Matches w (Regex.concat ((joinLiterals pending ts).map toRegex)) i k ↔
      ∃ j, (literal pending.reverse.flatten).toRegex.Matches w i j ∧
        Regex.Matches w (Regex.concat (ts.map toRegex)) j k := by
  fun_induction joinLiterals pending ts with
  | case1 pending cs rest ih =>
    -- the literal joins the pending runs, as their last run
    intro i k
    rw [ih, List.reverse_cons, List.flatten_append, List.flatten_singleton, List.map_cons]
    constructor
    · rintro ⟨m, joined, more⟩
      obtain ⟨j, early, last⟩ := matches_literal_append.mp joined
      exact ⟨j, early, Regex.matches_concat_cons.mpr ⟨m, last, more⟩⟩
    · rintro ⟨j, early, after⟩
      obtain ⟨m, last, more⟩ := Regex.matches_concat_cons.mp after
      exact ⟨m, matches_literal_append.mpr ⟨j, early, last⟩, more⟩
  | case2 pending t rest notLiteral ih =>
    -- another tree ends the pending runs; what follows it starts with none
    intro i k
    rw [List.map_append, matches_concat_pendingLiteral, List.map_cons, List.map_cons]
    refine exists_congr fun j => and_congr_right' ?_
    rw [Regex.matches_concat_cons, Regex.matches_concat_cons]
    refine exists_congr fun m => and_congr_right' ?_
    rw [ih]
    exact Regex.matches_empty_then_iff
  | case3 pending =>
    intro i k
    have pendingOnly := matches_concat_pendingLiteral (w := w) pending [] (i := i) (k := k)
    rwa [List.append_nil] at pendingOnly

/-- **The simplified concatenation matches as the concatenation** of its trees. -/
theorem matches_concat (ts : List Tree) {i k : Nat} :
    (concat ts).toRegex.Matches w i k ↔ Regex.Matches w (Regex.concat (ts.map toRegex)) i k := by
  have joined := matches_concat_joinLiterals (w := w) [] (ts.flatMap catItems) (i := i) (k := k)
  -- with no pending runs, the joined items match as the items, that is as the trees
  have items : (∃ j, (literal ([] : List (List Char)).reverse.flatten).toRegex.Matches w i j ∧
        Regex.Matches w (Regex.concat ((ts.flatMap catItems).map toRegex)) j k) ↔
      Regex.Matches w (Regex.concat (ts.map toRegex)) i k :=
    (Regex.matches_concat_append [] _).symm.trans (matches_concat_flatMap_catItems ts)
  rw [← items, ← joined]
  unfold concat
  generalize joinLiterals [] (ts.flatMap catItems) = items
  rcases items with _ | ⟨t, _ | ⟨u, rest⟩⟩
  · exact Iff.rfl
  · exact Iff.rfl
  · exact toRegex_cat _ ▸ Iff.rfl

/-- A good tree that matches only the empty text matches only the empty text. -/
theorem Good.eq_of_onlyEmpty {t : Tree} (good : t.Good) :
    t.onlyEmpty = true → ∀ i j, t.toRegex.Matches w i j → i = j := by
  induction good with
  | empty => exact fun _ i j matched => (Regex.matches_empty_iff.mp matched).1
  | look => exact fun _ i j matched => (Regex.matches_look_iff.mp matched).1
  | literal | cls => exact fun only => nomatch only
  | @rep t min max greedy _ _ ih =>
    intro only i j matched
    rw [toRegex, Regex.matches_rep_iff] at matched
    obtain ⟨n, -, most, copies⟩ := matched
    cases max with
    | none => cases only
    | some m =>
      -- either no copy is allowed, or every copy is empty
      rcases Bool.or_eq_true_iff.mp only with none | inner
      · have : n = 0 := by
          have := most m rfl
          simp only [decide_eq_true_eq] at none
          omega
        subst this
        cases copies
        rfl
      · exact copies.eq_of_empty (ih inner)
  | capture _ ih => exact ih
  | cat _ ih =>
    intro only i j matched
    rw [toRegex_cat] at matched
    refine Regex.eq_of_matches_concat (fun r member => ?_) matched
    obtain ⟨t, mem, rfl⟩ := List.mem_map.mp member
    exact ih t mem (allOnlyEmpty_iff.mp only t mem)
  | alt nonempty _ ih =>
    intro only i j matched
    rw [toRegex_alt, Regex.matches_alternation_iff (by simpa using nonempty)] at matched
    obtain ⟨r, member, matched⟩ := matched
    obtain ⟨t, mem, rfl⟩ := List.mem_map.mp member
    exact ih t mem (allOnlyEmpty_iff.mp only t mem) i j matched

/-- Items anchoring the start of their concatenation: one of them is anchored, after items that
match only the empty text. -/
theorem start_eq_zero_of_items {items : List Tree} (each : ∀ t ∈ items, t.Good)
    (anchoredItem : ∀ t ∈ items, t.startsAnchored = true → ∀ i j, t.toRegex.Matches w i j → i = 0)
    (anchored : startsAnchoredList items = true) {i j : Nat}
    (matched : (Regex.concat (items.map toRegex)).Matches w i j) : i = 0 := by
  induction items generalizing i with
  | nil => cases anchored
  | cons t rest ih =>
    obtain ⟨k, first, more⟩ := Regex.matches_concat_cons.mp matched
    rcases Bool.or_eq_true_iff.mp anchored with here | later
    · exact anchoredItem t List.mem_cons_self here i k first
    · rw [Bool.and_eq_true] at later
      have empty : i = k := (each t List.mem_cons_self).eq_of_onlyEmpty later.1 i k first
      subst empty
      exact ih (fun u member => each u (List.mem_cons_of_mem t member))
        (fun u member => anchoredItem u (List.mem_cons_of_mem t member)) later.2 more

/-- Items anchoring the end of their concatenation: one of them is anchored, before items that
match only the empty text. -/
theorem end_eq_length_of_items {items : List Tree} (each : ∀ t ∈ items, t.Good)
    (anchoredItem : ∀ t ∈ items, t.endsAnchored = true → ∀ i j, t.toRegex.Matches w i j → j = w.length)
    (anchored : endsAnchoredList items = true) {i j : Nat}
    (matched : (Regex.concat (items.map toRegex)).Matches w i j) : j = w.length := by
  induction items generalizing i with
  | nil => cases anchored
  | cons t rest ih =>
    have restGood : ∀ u ∈ rest, u.Good := fun u member => each u (List.mem_cons_of_mem t member)
    obtain ⟨k, first, more⟩ := Regex.matches_concat_cons.mp matched
    rcases Bool.or_eq_true_iff.mp anchored with here | later
    · rw [Bool.and_eq_true] at here
      -- what follows the anchored item matches only the empty text
      have empty : k = j := by
        refine Regex.eq_of_matches_concat (fun r member => ?_) more
        obtain ⟨u, mem, rfl⟩ := List.mem_map.mp member
        exact (restGood u mem).eq_of_onlyEmpty (allOnlyEmpty_iff.mp here.1 u mem)
      rw [← empty]
      exact anchoredItem t List.mem_cons_self here.2 i k first
    · exact ih restGood (fun u member => anchoredItem u (List.mem_cons_of_mem t member)) later more

/-- A good tree anchored at its start matches only from the start of the text. -/
theorem Good.start_eq_zero {t : Tree} (good : t.Good) :
    t.startsAnchored = true → ∀ i j, t.toRegex.Matches w i j → i = 0 := by
  induction good with
  | look l =>
    intro anchored i j matched
    obtain ⟨rfl, within, holds⟩ := Regex.matches_look_iff.mp matched
    simp only [startsAnchored, beq_iff_eq] at anchored
    subst anchored
    simp only [Look.holds, Option.isNone_iff_eq_none] at holds
    exact eq_zero_of_charBefore within holds
  | empty | literal | cls => exact fun anchored => nomatch anchored
  | rep _ _ ih =>
    intro anchored i j matched
    rw [toRegex, Regex.matches_rep_iff] at matched
    obtain ⟨n, least, -, copies⟩ := matched
    simp only [startsAnchored, Bool.and_eq_true, decide_eq_true_eq] at anchored
    -- at least one copy, and the first starts the match
    obtain ⟨m, rfl⟩ : ∃ m, n = m + 1 := ⟨n - 1, by omega⟩
    obtain ⟨k, first⟩ := copies.first
    exact ih anchored.2 i k first
  | capture _ ih => exact ih
  | cat each ih =>
    intro anchored i j matched
    rw [toRegex_cat] at matched
    exact start_eq_zero_of_items each ih anchored matched
  | alt nonempty _ ih =>
    intro anchored i j matched
    rw [toRegex_alt, Regex.matches_alternation_iff (by simpa using nonempty)] at matched
    obtain ⟨r, member, matched⟩ := matched
    obtain ⟨t, mem, rfl⟩ := List.mem_map.mp member
    exact ih t mem (allStartAnchored_iff.mp anchored t mem) i j matched

/-- A good tree anchored at its end matches only up to the end of the text. -/
theorem Good.end_eq_length {t : Tree} (good : t.Good) :
    t.endsAnchored = true → ∀ i j, t.toRegex.Matches w i j → j = w.length := by
  induction good with
  | look l =>
    intro anchored i j matched
    obtain ⟨rfl, within, holds⟩ := Regex.matches_look_iff.mp matched
    simp only [endsAnchored, beq_iff_eq] at anchored
    subst anchored
    simp only [Look.holds, Option.isNone_iff_eq_none, List.getElem?_eq_none_iff] at holds
    omega
  | empty | literal | cls => exact fun anchored => nomatch anchored
  | rep _ _ ih =>
    intro anchored i j matched
    rw [toRegex, Regex.matches_rep_iff] at matched
    obtain ⟨n, least, -, copies⟩ := matched
    simp only [endsAnchored, Bool.and_eq_true, decide_eq_true_eq] at anchored
    -- at least one copy, and the last ends the match
    obtain ⟨m, rfl⟩ : ∃ m, n = m + 1 := ⟨n - 1, by omega⟩
    obtain ⟨k, last⟩ := copies.last
    exact ih anchored.2 k j last
  | capture _ ih => exact ih
  | cat each ih =>
    intro anchored i j matched
    rw [toRegex_cat] at matched
    exact end_eq_length_of_items each ih anchored matched
  | alt nonempty _ ih =>
    intro anchored i j matched
    rw [toRegex_alt, Regex.matches_alternation_iff (by simpa using nonempty)] at matched
    obtain ⟨r, member, matched⟩ := matched
    obtain ⟨t, mem, rfl⟩ := List.mem_map.mp member
    exact ih t mem (allEndAnchored_iff.mp anchored t mem) i j matched

end Tree

/-! ## The compiled pattern -/

/-- **What a compiled pattern tests.** A source compiles exactly when the wrapped text
`^(?:` source `)$` parses. The compiled pattern then finds a match in a text exactly when the tree
of the wrapped text matches some stretch of it, and, when that tree is anchored at both ends, exactly
when it matches the whole text. -/
theorem compile_tests_wrapped_tree (source : String) :
    ((∃ p, compile source = .ok p) ↔ ∃ t, parse (wrapped source) = .ok t) ∧
    ∀ p, compile source = .ok p → ∃ t, parse (wrapped source) = .ok t ∧
      (∀ text, p.test text = true ↔ ∃ i j, t.toRegex.Matches text.toList i j) ∧
      (t.startsAnchored = true → t.endsAnchored = true →
        ∀ text, p.test text = true ↔ t.toRegex.Matches text.toList 0 text.toList.length) := by
  have compiled_iff : ∀ p, compile source = .ok p ↔
      ∃ t, parse (wrapped source) = .ok t ∧ p = ⟨source, Automaton.compile t.toRegex⟩ := by
    intro p
    unfold compile
    cases parse (wrapped source) with
    | error e => simp
    | ok t => simp [eq_comm]
  refine ⟨⟨fun ⟨p, compiled⟩ => ?_, fun ⟨t, parsed⟩ => ⟨_, (compiled_iff _).mpr ⟨t, parsed, rfl⟩⟩⟩,
    fun p compiled => ?_⟩
  · obtain ⟨t, parsed, -⟩ := (compiled_iff p).mp compiled
    exact ⟨t, parsed⟩
  obtain ⟨t, parsed, rfl⟩ := (compiled_iff p).mp compiled
  -- the parsed tree is good, so the search of its automaton is correct
  have good : t.Good := parseChars_good ((parse_eq _).symm.trans parsed)
  have tests : ∀ text, (⟨source, Automaton.compile t.toRegex⟩ : Pattern).test text = true ↔
      ∃ i j, t.toRegex.Matches text.toList i j :=
    fun text => Automaton.search_compile t.toRegex good.bounded text
  refine ⟨t, parsed, tests, fun starts ends text => (tests text).trans ⟨?_, fun whole => ⟨_, _, whole⟩⟩⟩
  rintro ⟨i, j, matched⟩
  have atStart := good.start_eq_zero starts i j matched
  have atEnd := good.end_eq_length ends i j matched
  subst atStart atEnd
  exact matched

/-- A pattern whose wrapped text reads as a tree between the assertions of the start and the end
of the text matches a text exactly when the tree matches the whole of it. -/
theorem test_iff_matches_whole {source : String} {t : Tree}
    (grouped : parse (wrapped source) = .ok (Tree.concat [.look .textStart, t, .look .textEnd])) :
    ∃ p, compile source = .ok p ∧
      ∀ text, p.test text = true ↔ t.toRegex.Matches text.toList 0 text.toList.length := by
  obtain ⟨p, compiled⟩ := (compile_tests_wrapped_tree source).1.mpr ⟨_, grouped⟩
  obtain ⟨wrappedTree, parsed, tests, -⟩ := (compile_tests_wrapped_tree source).2 p compiled
  rw [grouped, Except.ok.injEq] at parsed
  subst parsed
  refine ⟨p, compiled, fun text => (tests text).trans ?_⟩
  simp only [Tree.matches_concat, List.map_cons, List.map_nil, Tree.toRegex]
  constructor
  · -- the assertions pin the match of `t` to the start and the end of the text
    rintro ⟨i, j, matched⟩
    obtain ⟨m, atStart, rest⟩ := Regex.matches_concat_cons.mp matched
    obtain ⟨n, middle, atEnd⟩ := Regex.matches_concat_cons.mp rest
    obtain ⟨rfl, within, starts⟩ := Regex.matches_look_iff.mp atStart
    obtain ⟨rfl, -, ends⟩ := Regex.matches_look_iff.mp atEnd
    have zero : i = 0 := eq_zero_of_charBefore within (by simpa [Look.holds] using starts)
    have whole : n = text.toList.length := by
      simp only [Look.holds, Option.isNone_iff_eq_none, List.getElem?_eq_none_iff] at ends
      exact le_antisymm middle.within.2 ends
    subst zero whole
    exact middle
  · intro whole
    have starts : Regex.Matches text.toList (.look .textStart) 0 0 :=
      Regex.matches_look_iff.mpr ⟨rfl, Nat.zero_le _, rfl⟩
    have ends : Regex.Matches text.toList (.look .textEnd) text.toList.length text.toList.length :=
      Regex.matches_look_iff.mpr ⟨rfl, le_refl _, by simp [Look.holds]⟩
    exact ⟨0, _, Regex.matches_concat_cons.mpr ⟨0, starts, Regex.matches_concat_cons.mpr ⟨_, whole, ends⟩⟩⟩

/-- **Patterns match whole texts of their source's own language**, for a source whose wrapped text
reads as its own tree between the anchors of the start and the end of the text, and fails to read
when the source does. Such a source compiles exactly when it is an expression on its own, with a
tree `t`, and its pattern then matches a text exactly when `t` matches the whole of it. -/
theorem compile_tests_own_tree {source : String}
    (grouped : (parse (wrapped source)).toOption =
      (parse source).toOption.map fun t => Tree.concat [.look .textStart, t, .look .textEnd]) :
    ((∃ p, compile source = .ok p) ↔ ∃ t, parse source = .ok t) ∧
    ∀ t, parse source = .ok t → ∃ p, compile source = .ok p ∧
      ∀ text, p.test text = true ↔ t.toRegex.Matches text.toList 0 text.toList.length := by
  have wrappedOf : ∀ t, parse source = .ok t →
      parse (wrapped source) = .ok (Tree.concat [.look .textStart, t, .look .textEnd]) := by
    intro t own
    rw [own] at grouped
    exact ok_of_toOption_eq_some grouped
  refine ⟨⟨fun ⟨p, compiled⟩ => ?_, fun ⟨t, own⟩ => ?_⟩, fun t own => test_iff_matches_whole (wrappedOf t own)⟩
  · -- the wrapped text reads, so the source does
    obtain ⟨wrappedTree, parsed⟩ := (compile_tests_wrapped_tree source).1.mp ⟨p, compiled⟩
    rw [parsed] at grouped
    cases own : parse source with
    | error e => simp [own, Except.toOption] at grouped
    | ok t => exact ⟨t, rfl⟩
  · obtain ⟨p, compiled, -⟩ := test_iff_matches_whole (wrappedOf t own)
    exact ⟨p, compiled⟩

/-- `ab` is read as one literal and wrapped as that literal between the anchors: it compiles, and
its pattern matches exactly the texts the literal matches whole. -/
theorem compile_tests_own_tree_letters :
    parse "ab" = .ok (.literal ['a', 'b']) ∧
    (parse (wrapped "ab")).toOption =
      (parse "ab").toOption.map (fun t => Tree.concat [.look .textStart, t, .look .textEnd]) ∧
    ((∃ p, compile "ab" = .ok p) ↔ ∃ t, parse "ab" = .ok t) ∧
    ∀ t, parse "ab" = .ok t → ∃ p, compile "ab" = .ok p ∧
      ∀ text, p.test text = true ↔ t.toRegex.Matches text.toList 0 text.toList.length := by
  have own : parse "ab" = .ok (.literal ['a', 'b']) := by rfl
  have grouped : (parse (wrapped "ab")).toOption =
      (parse "ab").toOption.map (fun t => Tree.concat [.look .textStart, t, .look .textEnd]) := by
    rfl
  exact ⟨own, grouped, compile_tests_own_tree grouped⟩

set_option maxRecDepth 20000 in
/-- A source that closes the wrapping group is no expression on its own, yet it compiles: `a)|(b`
is read as `^(?:a)|(b)$`, the alternation of `^a` and `b$`, which is anchored at neither end, and its
pattern matches texts that only start or only end as the source says. -/
theorem compile_reads_group_closing_source :
    (parse "a)|(b").toOption = none ∧
      ∃ p, compile "a)|(b" = .ok p ∧ p.test "ax" = true ∧ p.test "xb" = true := by
  have refused : (parse "a)|(b").toOption = none := by
    rw [parse_eq]
    decide +kernel
  have matched : (compile "a)|(b").toOption.map (fun p => (p.test "ax", p.test "xb")) =
      some (true, true) := by
    rw [compile_eq]
    decide +kernel
  obtain ⟨p, compiled, tests⟩ := exists_of_toOption_map matched
  simp only [Prod.mk.injEq] at tests
  exact ⟨refused, p, compiled, tests⟩

end FormIntegrity.Pattern
