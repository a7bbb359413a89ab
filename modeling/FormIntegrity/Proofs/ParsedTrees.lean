import FormIntegrity.Proofs.ParsedClasses
import FormIntegrity.Proofs.RegexLanguage
import FormIntegrity.Proofs.WholeText

/-!
# The trees a pattern is read into are well formed

A tree is `Tree.Good` when its classes are canonical, no counted repetition has a bound below its
least count, and every alternation has a branch. The simplifying builders the parser uses keep trees
good (`good_concat`, `good_alternation`, `good_repetition`, `good_ofClass`), and a good tree stands
for a bounded expression (`Tree.Good.bounded`), the kind the automaton is proved correct for.

The parser keeps every tree it holds good: the items of the branch being read, the finished
branches, and those of every group around it (`Reader.Good`). Each turn of its loop keeps this
(`parseLoop_good`), so every pattern it reads gives a good tree (`parseChars_good`).
-/

namespace FormIntegrity.Pattern

open CharClass

namespace Tree

/-- Trees whose classes are canonical, whose counted repetitions have a bound no lower than their
least count, and whose alternations have a branch. -/
inductive Good : Tree → Prop
  | empty : Good .empty
  | literal (cs : List Char) : Good (.literal cs)
  | cls {c : CharClass} {octets : Bool} (canonical : c.Canonical) : Good (.cls c octets)
  | look (l : Look) : Good (.look l)
  | rep {t : Tree} {min : Nat} {max : Option Nat} {greedy : Bool} (inner : Good t)
      (ordered : ∀ m, max = some m → min ≤ m) : Good (.rep t min max greedy)
  | capture {index : Nat} {t : Tree} (inner : Good t) : Good (.capture index t)
  | cat {items : List Tree} (each : ∀ t ∈ items, Good t) : Good (.cat items)
  | alt {branches : List Tree} (nonempty : branches ≠ []) (each : ∀ t ∈ branches, Good t) :
      Good (.alt branches)

/-! ## The builders keep trees good -/

theorem good_ofClass {c : CharClass} (canonical : c.Canonical) (octets : Bool) :
    (ofClass c octets).Good := by
  unfold ofClass
  split
  · exact .cls canonical_empty
  · split
    · exact .literal _
    · exact .cls canonical
  · exact .cls canonical

theorem good_fail : fail.Good :=
  .cls canonical_empty

theorem good_catItems {t : Tree} (good : t.Good) : ∀ u ∈ catItems t, u.Good := by
  intro u member
  unfold catItems at member
  split at member
  · cases member
  · cases good with
    | cat each => exact each u member
  · rw [List.mem_singleton.mp member]
    exact good

theorem good_pendingLiteral (runs : List (List Char)) : ∀ u ∈ pendingLiteral runs, u.Good := by
  intro u member
  unfold pendingLiteral at member
  split at member
  · cases member
  · rw [List.mem_singleton.mp member]
    exact .literal _

/-- Joining literals in a row keeps the other items and makes only literals. -/
theorem good_joinLiterals (pending : List (List Char)) {ts : List Tree} (each : ∀ t ∈ ts, t.Good) :
    ∀ u ∈ joinLiterals pending ts, u.Good := by
  fun_induction joinLiterals pending ts with
  | case1 pending cs rest ih => exact ih fun u member => each u (List.mem_cons_of_mem _ member)
  | case2 pending t rest notLiteral ih =>
    intro u member
    rcases List.mem_append.mp member with pendingMember | later
    · exact good_pendingLiteral pending u pendingMember
    · rcases List.mem_cons.mp later with rfl | joined
      · exact each u List.mem_cons_self
      · exact ih (fun u member => each u (List.mem_cons_of_mem _ member)) u joined
  | case3 pending => exact good_pendingLiteral pending

theorem good_concat {ts : List Tree} (each : ∀ t ∈ ts, t.Good) : (concat ts).Good := by
  have items : ∀ u ∈ joinLiterals [] (ts.flatMap catItems), u.Good := by
    refine good_joinLiterals [] fun u member => ?_
    obtain ⟨t, mem, inItems⟩ := List.mem_flatMap.mp member
    exact good_catItems (each t mem) u inItems
  unfold concat
  generalize joinLiterals [] (ts.flatMap catItems) = js at items
  match js, items with
  | [], _ => exact .empty
  | [t], items => exact items t (List.mem_singleton_self t)
  | _ :: _ :: _, items => exact .cat items

theorem good_altBranches {t : Tree} (good : t.Good) : ∀ u ∈ altBranches t, u.Good := by
  intro u member
  unfold altBranches at member
  split at member
  · cases good with
    | alt _ each => exact each u member
  · rw [List.mem_singleton.mp member]
    exact good

/-- Branches merged into one class give a class of a union or of characters, both canonical. -/
theorem good_of_mergeBranches? {branches : List Tree} {t : Tree}
    (merged : mergeBranches? branches = some t) : t.Good := by
  unfold mergeBranches? at merged
  split at merged
  · cases merged
    exact good_ofClass (canonical_ofChars _) _
  · obtain ⟨cls, -, rfl⟩ := Option.map_eq_some_iff.mp merged
    exact good_ofClass (canonical_foldl _ canonical_union _ canonical_empty) _

theorem mem_of_mapM_eq_some {α β : Type} {f : α → Option β} {l : List α} {l' : List β}
    (mapped : l.mapM f = some l') : ∀ b ∈ l', ∃ a ∈ l, f a = some b := by
  induction l generalizing l' with
  | nil =>
    cases mapped
    intro b member
    cases member
  | cons a rest ih =>
    simp only [List.mapM_cons, Option.bind_eq_bind, Option.bind_eq_some_iff, Option.pure_def,
      Option.some.injEq] at mapped
    obtain ⟨b, fa, bs, restMapped, rfl⟩ := mapped
    intro b' member
    rcases List.mem_cons.mp member with rfl | later
    · exact ⟨a, List.mem_cons_self, fa⟩
    · obtain ⟨a', mem, fa'⟩ := ih restMapped b' later
      exact ⟨a', List.mem_cons_of_mem a mem, fa'⟩

theorem mem_of_mem_commonPrefix {as bs : List Tree} : ∀ t ∈ commonPrefix as bs, t ∈ as := by
  fun_induction commonPrefix as bs with
  | case1 a as b bs same ih =>
    intro t member
    rcases List.mem_cons.mp member with rfl | later
    · exact List.mem_cons_self
    · exact List.mem_cons_of_mem a (ih t later)
  | case2 => exact fun _ member => nomatch member
  | case3 => exact fun _ member => nomatch member

theorem mem_of_mem_foldl_commonPrefix (rest : List (List Tree)) {first : List Tree} :
    ∀ t ∈ rest.foldl commonPrefix first, t ∈ first := by
  induction rest generalizing first with
  | nil => exact fun _ => id
  | cons r rest ih => exact fun t member => mem_of_mem_commonPrefix t (ih t member)

theorem good_of_items? {b : Tree} {l : List Tree} (good : b.Good) (found : items? b = some l) :
    ∀ t ∈ l, t.Good := by
  cases good with
  | cat each =>
    cases found
    exact each
  | _ => cases found

/-- The items shared by the front of concatenations, and what follows them in each, are good. -/
theorem good_of_splitCommon? {branches common : List Tree} {rests : List (List Tree)}
    (split : splitCommon? branches = some (common, rests)) (each : ∀ b ∈ branches, b.Good) :
    (∀ t ∈ common, t.Good) ∧ ∀ r ∈ rests, ∀ t ∈ r, t.Good := by
  unfold splitCommon? at split
  split at split
  · rename_i first rest mapped
    dsimp only at split
    split_ifs at split
    cases split
    -- every list of items is the items of a good concatenation
    have lists : ∀ l ∈ first :: rest, ∀ t ∈ l, t.Good := by
      intro l member
      obtain ⟨b, bMember, found⟩ := mem_of_mapM_eq_some mapped l member
      exact good_of_items? (each b bMember) found
    refine ⟨fun t member => lists first List.mem_cons_self t
      (mem_of_mem_foldl_commonPrefix rest t member), ?_⟩
    intro r member t inR
    obtain ⟨l, lMember, rfl⟩ := List.mem_map.mp member
    exact lists l lMember t (List.mem_of_mem_drop inR)
  · cases split

theorem good_alternationOf (fuel : Nat) {branches : List Tree} (each : ∀ b ∈ branches, b.Good) :
    (alternationOf fuel branches).Good := by
  fun_induction alternationOf fuel branches with
  | case1 => exact good_fail
  | case2 _ t => exact each t (List.mem_singleton_self t)
  | case3 _ branches _ _ t merged =>
    rw [merged]
    exact good_of_mergeBranches? merged
  | case4 branches _ _ k common rests unmerged split ih =>
    -- the shared front, then the alternation of what follows it in each branch
    simp only [unmerged, split]
    obtain ⟨commonGood, restsGood⟩ := good_of_splitCommon? split each
    refine good_concat fun t member => ?_
    rcases List.mem_append.mp member with shared | last
    · exact commonGood t shared
    · rw [List.mem_singleton.mp last]
      refine ih fun b member => ?_
      obtain ⟨u, uMember, inBranches⟩ := List.mem_flatMap.mp member
      obtain ⟨r, rMember, rfl⟩ := List.mem_map.mp uMember
      exact good_altBranches (good_concat (restsGood r rMember)) b inBranches
  | case5 fuel branches notNil _ unmerged unsplit =>
    rw [unmerged]
    dsimp only
    split
    · rename_i k common rests split
      exact (unsplit k common rests rfl split).elim
    · exact .alt (fun nil => notNil nil) each

theorem good_alternation {ts : List Tree} (each : ∀ t ∈ ts, t.Good) : (alternation ts).Good := by
  refine good_alternationOf _ fun b member => ?_
  obtain ⟨t, mem, inBranches⟩ := List.mem_flatMap.mp member
  exact good_altBranches (each t mem) b inBranches

/-- A repetition with ordered bounds is good; a tree that matches only the empty text has its
bounds clamped to at most one, which keeps them ordered. -/
theorem good_repetition {t : Tree} (good : t.Good) {min : Nat} {max : Option Nat}
    (ordered : ∀ m, max = some m → min ≤ m) (greedy : Bool) : (repetition t min max greedy).Good := by
  unfold repetition
  by_cases only : t.onlyEmpty = true
  · rw [if_pos only]
    dsimp only
    split_ifs
    · exact .empty
    · exact good
    · refine .rep good fun m bound => ?_
      cases max with
      | none =>
        cases bound
        simp only [Option.map_none, Option.getD_none, Nat.min_def]
        split_ifs <;> omega
      | some top =>
        cases bound
        have := ordered top rfl
        simp only [Option.map_some, Option.getD_some, Nat.min_def]
        split_ifs <;> omega
  · rw [if_neg only]
    dsimp only
    split_ifs
    · exact .empty
    · exact good
    · exact .rep good ordered

/-! ## Good trees stand for bounded expressions -/

theorem toRegexList_eq_map (ts : List Tree) : toRegexList ts = ts.map toRegex := by
  induction ts with
  | nil => rfl
  | cons t rest ih => simp only [toRegexList, ih, List.map_cons]

end Tree

theorem Regex.bounded_concat {rs : List Regex} (each : ∀ r ∈ rs, r.Bounded) :
    (Regex.concat rs).Bounded := by
  fun_induction Regex.concat rs with
  | case1 => trivial
  | case2 r => exact each r (List.mem_singleton_self r)
  | case3 r rs _ ih =>
    exact ⟨each r List.mem_cons_self, ih fun s member => each s (List.mem_cons_of_mem r member)⟩

theorem Regex.bounded_alternation {rs : List Regex} (each : ∀ r ∈ rs, r.Bounded) :
    (Regex.alternation rs).Bounded := by
  fun_induction Regex.alternation rs with
  | case1 => trivial
  | case2 r => exact each r (List.mem_singleton_self r)
  | case3 r rs _ ih =>
    exact ⟨each r List.mem_cons_self, ih fun s member => each s (List.mem_cons_of_mem r member)⟩

namespace Tree

/-- A good tree stands for a bounded expression. -/
theorem Good.bounded {t : Tree} (good : t.Good) : t.toRegex.Bounded := by
  induction good with
  | empty | look => trivial
  | literal cs =>
    rw [toRegex]
    refine Regex.bounded_concat fun r member => ?_
    obtain ⟨c, -, rfl⟩ := List.mem_map.mp member
    exact canonical_single _
  | cls canonical => exact canonical
  | rep _ ordered ih => exact ⟨ih, ordered⟩
  | capture _ ih => exact ih
  | cat _ ih =>
    rw [toRegex, toRegexList_eq_map]
    refine Regex.bounded_concat fun r member => ?_
    obtain ⟨t, mem, rfl⟩ := List.mem_map.mp member
    exact ih t mem
  | alt _ _ ih =>
    rw [toRegex, toRegexList_eq_map]
    refine Regex.bounded_alternation fun r member => ?_
    obtain ⟨t, mem, rfl⟩ := List.mem_map.mp member
    exact ih t mem

end Tree

/-! ## The parser keeps its trees good -/

theorem primitiveTree_good {f : Flags} {p : Primitive} {t : Tree} (canonical : p.Canonical)
    (made : primitiveTree f p = .ok t) : t.Good := by
  unfold primitiveTree at made
  split at made
  · split_ifs at made
    cases made
    exact Tree.good_ofClass ((canonical_single _).foldNegate f false) _
  · split_ifs at made
    cases made
    exact Tree.good_ofClass canonical _
  · cases made
    exact .look _
  · split_ifs at made <;> cases made
    · exact Tree.good_ofClass (canonical_range _ _) _
    · exact Tree.good_ofClass (canonical_ofChars _).complement _
    · exact Tree.good_ofClass (canonical_single _).complement _

/-- The bounds of `?`, `*` and `+` are ordered. -/
theorem quantifierBounds_ordered (c : Char) :
    ∀ m, (if c = '?' then ((0 : Nat), some (1 : Nat)) else if c = '*' then (0, none) else (1, none)).2 =
        some m →
      (if c = '?' then ((0 : Nat), some (1 : Nat)) else if c = '*' then (0, none) else (1, none)).1 ≤ m := by
  intro m bound
  -- only `?` has a bound, and its least count is 0
  split_ifs at bound ⊢
  exact Nat.zero_le m

/-- A counted repetition is read only with a bound no less than its least count. -/
theorem countedBounds_ordered (f : Flags) (cs : List Char) :
    Yields (fun r : (Nat × Option Nat) × Bool × List Char => ∀ m, r.1.2 = some m → r.1.1 ≤ m)
      (countedBounds f cs) := by
  unfold countedBounds
  dsimp only
  -- every way of reading the counts ends at the check of the bound against the least count
  repeat' first
    | exact Yields.error
    | (refine Yields.bind (fun _ _ => trivial) fun _ _ => ?_)
    | split
  all_goals exact Yields.pure fun _ bound => by cases bound <;> assumption

/-- A group being read whose trees are good: the items of its current branch and of every finished
branch. -/
structure Frame.Good (fr : Frame) : Prop where
  items : ∀ i ∈ fr.items, i.tree.Good
  branches : ∀ b ∈ fr.branches, ∀ i ∈ b, i.tree.Good

/-- A reading position whose trees are good: the group being read and every group around it. -/
structure Reader.Good (r : Reader) : Prop where
  frame : r.frame.Good
  outer : ∀ fr ∈ r.outer, fr.Good

theorem Frame.good_opened (saved : Flags) (capture : Option Nat) :
    Frame.Good { saved, capture } :=
  ⟨fun _ member => (nomatch member), fun _ member => (nomatch member)⟩

theorem Reader.Good.push {r : Reader} {item : Item} (good : r.Good) (tree : item.tree.Good) :
    (r.push item).Good := by
  refine ⟨⟨fun i member => ?_, good.frame.branches⟩, good.outer⟩
  rcases List.mem_cons.mp member with rfl | before
  · exact tree
  · exact good.frame.items i before

/-- Opening a group suspends the group being read, with its trees. -/
theorem Reader.Good.enter {r : Reader} (good : r.Good) (flags : Flags) (inner : Frame)
    (empty : inner.Good) (names : List String) (captures : Nat) :
    Reader.Good { flags, frame := inner, outer := r.frame :: r.outer, names, captures } := by
  refine ⟨empty, fun fr member => ?_⟩
  rcases List.mem_cons.mp member with rfl | around
  · exact good.frame
  · exact good.outer fr around

theorem concatOf_good {items : List Item} (each : ∀ i ∈ items, i.tree.Good) :
    (concatOf items).1.Good := by
  refine Tree.good_concat fun t member => ?_
  obtain ⟨i, kept, rfl⟩ := List.mem_map.mp member
  exact each i (List.mem_filter.mp kept).1

/-- A group's body, the alternation of its branches, is good. -/
theorem groupBody_good {fr : Frame} (good : fr.Good) : (groupBody fr).1.Good := by
  refine Tree.good_alternation fun t member => ?_
  obtain ⟨body, bodyMember, rfl⟩ := List.mem_map.mp member
  obtain ⟨branch, branchMember, rfl⟩ := List.mem_map.mp bodyMember
  refine concatOf_good fun i inBranch => ?_
  rcases List.mem_cons.mp (List.mem_reverse.mp branchMember) with rfl | finished
  · exact good.items i (List.mem_reverse.mp inBranch)
  · exact good.branches branch finished i (List.mem_reverse.mp inBranch)

theorem repeatLast_good {fr fr' : Frame} {min : Nat} {max : Option Nat} {greedy : Bool}
    (repeated : repeatLast fr min max greedy = .ok fr') (good : fr.Good)
    (ordered : ∀ m, max = some m → min ≤ m) : fr'.Good := by
  unfold repeatLast at repeated
  split at repeated
  · rename_i last before items
    split_ifs at repeated
    cases repeated
    refine ⟨fun i member => ?_, good.branches⟩
    have lastGood : last.tree.Good := good.items last (by rw [items]; exact List.mem_cons_self)
    rcases List.mem_cons.mp member with rfl | earlier
    · exact Tree.good_repetition lastGood ordered greedy
    · exact good.items i (by rw [items]; exact List.mem_cons_of_mem last earlier)
  · cases repeated

/-- Opening a group, or setting flags, keeps the trees held good. -/
theorem openParen_good {r : Reader} (good : r.Good) (cs : List Char) :
    Yields (fun result : Reader × List Char => result.1.Good) (openParen r cs) := by
  have captured : r.openCapture.Good := good.enter _ _ (Frame.good_opened _ _) _ _
  unfold openParen
  dsimp only
  split
  · exact Yields.error
  · exact Yields.error
  · exact Yields.error
  · exact Yields.error
  · refine Yields.bind (fun _ _ => trivial) fun _ _ => ?_
    split_ifs
    · exact Yields.error
    · exact Yields.pure ⟨captured.frame, captured.outer⟩
  · refine Yields.bind (fun _ _ => trivial) fun _ _ => ?_
    split_ifs
    · exact Yields.error
    · exact Yields.pure ⟨captured.frame, captured.outer⟩
  · -- flags: for the rest of the group, or for a group of their own
    split
    · exact Yields.error
    · refine Yields.bind (fun _ _ => trivial) fun _ _ => ?_
      have flagged : (r.push ⟨.empty, 0, true⟩).Good := good.push .empty
      split_ifs
      · exact Yields.error
      · exact Yields.pure ⟨flagged.frame, flagged.outer⟩
      · exact Yields.pure (good.enter _ _ (Frame.good_opened _ _) _ _)
  · exact Yields.pure captured

/-- Closing a group adds its body, as one item, to the group around it. -/
theorem closeParen_good {r : Reader} (good : r.Good) : Yields Reader.Good (closeParen r) := by
  unfold closeParen
  split
  · exact Yields.error
  · rename_i parent rest outer
    have parentGood : parent.Good := good.outer parent (by rw [outer]; exact List.mem_cons_self)
    have body := groupBody_good good.frame
    generalize groupBody r.frame = grouped at body
    obtain ⟨tree, height⟩ := grouped
    refine Yields.pure ⟨⟨fun i member => ?_, parentGood.branches⟩,
      fun fr member => good.outer fr (by rw [outer]; exact List.mem_cons_of_mem parent member)⟩
    rcases List.mem_cons.mp member with rfl | earlier
    · dsimp only
      split
      · exact .capture body
      · exact body
    · exact parentGood.items i earlier

/-- Each turn of the parser's loop keeps the trees it holds good, so the tree it ends with is
good. -/
theorem parseLoop_good (fuel : Nat) (r : Reader) (cs : List Char) (good : r.Good) :
    Yields (fun result : Tree × Nat => result.1.Good) (parseLoop fuel r cs) := by
  induction fuel generalizing r cs with
  | zero => exact Yields.error
  | succ fuel ih =>
    unfold parseLoop
    dsimp only
    split
    · -- the end of the pattern closes the outermost group
      split
      · exact Yields.pure (groupBody_good good.frame)
      · exact Yields.error
    · rename_i c rest _
      split
      · split
        · exact Yields.error
        · rename_i r' rest' opened
          exact ih _ _ (openParen_good good _ _ opened)
      · split
        · exact Yields.error
        · rename_i r' closed
          exact ih _ _ (closeParen_good good _ closed)
      · -- `|` finishes a branch
        refine ih _ _ ⟨⟨fun _ member => (nomatch member), fun b member => ?_⟩, good.outer⟩
        rcases List.mem_cons.mp member with rfl | finished
        · exact good.frame.items
        · exact good.frame.branches b finished
      · split
        · exact Yields.error
        · rename_i sized rest' read
          exact ih _ _ (good.push (Tree.good_ofClass (parseClass_canonical read) _))
      · split
        · exact Yields.error
        · rename_i fr repeated
          exact ih _ _ ⟨repeatLast_good repeated good.frame (quantifierBounds_ordered '?'), good.outer⟩
      · split
        · exact Yields.error
        · rename_i fr repeated
          exact ih _ _ ⟨repeatLast_good repeated good.frame (quantifierBounds_ordered '*'), good.outer⟩
      · split
        · exact Yields.error
        · rename_i fr repeated
          exact ih _ _ ⟨repeatLast_good repeated good.frame (quantifierBounds_ordered '+'), good.outer⟩
      · split
        · exact Yields.error
        · rename_i min max lazy rest' counted
          have ordered := countedBounds_ordered _ _ _ counted
          split
          · exact Yields.error
          · rename_i fr repeated
            exact ih _ _ ⟨repeatLast_good repeated good.frame ordered, good.outer⟩
      · -- a character, an escape, `.`, `^` or `$`
        split
        · exact Yields.error
        · rename_i p rest' read
          have canonical : p.Canonical := by
            split at read
            · exact parseEscape_canonical read
            all_goals
              cases read
              trivial
          split
          · exact Yields.error
          · rename_i t made
            exact ih _ _ (good.push (primitiveTree_good canonical made))

/-- Every pattern the parser reads gives a good tree. -/
theorem parseChars_good {cs : List Char} {t : Tree} (parsed : parseChars cs = .ok t) : t.Good := by
  unfold parseChars at parsed
  obtain ⟨⟨tree, height⟩, looped, checked⟩ := Except.bind_eq_ok.mp parsed
  have good := parseLoop_good _ _ cs ⟨Frame.good_opened _ _, fun _ member => by cases member⟩ _ looped
  dsimp only at checked
  split_ifs at checked
  cases checked
  exact good

end FormIntegrity.Pattern
