import FormIntegrity.Proofs.ThompsonFragments
import Mathlib.Logic.Relation

/-!
# The search runs the automaton over every stretch of the text

A search keeps the set of states its threads wait at, one position at a time. At each position it
closes the threads, together with a new thread at the start state, over the moves that read
nothing; the closure visits each state once, marking it seen, and collects the states that read a
character or accept (`mem_settle`, from the invariant `ClosureInv`, with its fuel shown to suffice).
Then every thread waiting at a class that holds the next character moves past it.

So the threads at a position are exactly the waiting states some walk reaches there from the start
state, begun at any earlier position (`Reached`), and the search finds a match exactly when some
walk reaches an accepting state (`search_iff_reached`). For the automaton of a bounded expression
that is exactly when the expression matches some stretch of the text (`search_compile`).
-/

namespace FormIntegrity.Pattern

/-- A node a thread waits at: one that reads a character, or accepts. -/
def Node.Waits : Node → Prop
  | .chars _ _ | .accept => True
  | .look _ _ | .split _ _ => False

namespace Automaton

variable {a : Automaton} {w : List Char} {i : Nat}

/-- A move at position `i` that reads nothing. -/
def Moves (a : Automaton) (w : List Char) (i : Nat) (s t : Nat) : Prop :=
  Step a.nodes w (s, i) (t, i)

/-- The states reached from one of `start` by moves that read nothing at position `i`. -/
def ReachedFrom (a : Automaton) (w : List Char) (i : Nat) (start : List Nat) (t : Nat) : Prop :=
  ∃ s ∈ start, Relation.ReflTransGen (Moves a w i) s t

/-- A state whose node a thread waits at. -/
def Waiting (a : Automaton) (s : Nat) : Prop :=
  ∃ n, a.nodes[s]? = some n ∧ n.Waits

/-- A move leaves a state of the automaton. -/
theorem step_source_lt {p q : Nat × Nat} (step : Step a.nodes w p q) : p.1 < a.nodes.size := by
  cases step with
  | splitLeft node | splitRight node | look node _ | chars node _ _ =>
    exact (Array.getElem?_eq_some_iff.mp node).1

theorem Moves.lt_size {s t : Nat} (move : Moves a w i s t) : s < a.nodes.size :=
  step_source_lt move

theorem Waiting.lt_size {s : Nat} (waiting : Waiting a s) : s < a.nodes.size := by
  obtain ⟨n, node, -⟩ := waiting
  exact (Array.getElem?_eq_some_iff.mp node).1

/-- A waiting state moves nowhere without reading. -/
theorem Waiting.no_moves {s t : Nat} (waiting : Waiting a s) : ¬Moves a w i s t := by
  obtain ⟨n, node, waits⟩ := waiting
  intro move
  cases move with
  | splitLeft found | splitRight found | look found _ =>
    rw [node, Option.some.injEq] at found
    subst found
    exact waits

/-! ## Closing over the moves that read nothing -/

/-- What each turn of the closure keeps true, for the closure of `start` at position `i`: marked
states, pending states and collected states are reached from `start`; every move from a marked state
leads to a seen or a pending state; every marked waiting state is collected; and every state of
`start` is seen or pending. States outside the automaton count as seen. -/
structure ClosureInv (a : Automaton) (w : List Char) (i : Nat) (start todo : List Nat)
    (seen : Array Bool) (found : List Nat) : Prop where
  size : seen.size = a.nodes.size
  marked : ∀ s, seen[s]? = some true → ReachedFrom a w i start s
  pending : ∀ s ∈ todo, ReachedFrom a w i start s
  sound : ∀ s ∈ found, Waiting a s ∧ ReachedFrom a w i start s
  closed : ∀ s, seen[s]? = some true → ∀ t, Moves a w i s t → seen[t]?.getD true = true ∨ t ∈ todo
  collected : ∀ s, seen[s]? = some true → Waiting a s → s ∈ found
  started : ∀ s ∈ start, seen[s]?.getD true = true ∨ s ∈ todo

variable {start todo : List Nat} {seen : Array Bool} {found : List Nat} {s : Nat}

theorem ReachedFrom.move {t u : Nat} (reached : ReachedFrom a w i start t) (move : Moves a w i t u) :
    ReachedFrom a w i start u := by
  obtain ⟨s, member, path⟩ := reached
  exact ⟨s, member, path.tail move⟩

/-- A state seen or pending stays seen or pending once the state popped is seen, as long as the
states seen stay seen and the rest of the pending states stay pending. -/
theorem seen_or_pending_of_pop {seen' : Array Bool} {todo' : List Nat} {t : Nat}
    (popped : seen'[s]?.getD true = true)
    (keeps : ∀ u : Nat, seen[u]?.getD true = true → seen'[u]?.getD true = true)
    (rest : ∀ u ∈ todo, u ∈ todo') (was : seen[t]?.getD true = true ∨ t ∈ s :: todo) :
    seen'[t]?.getD true = true ∨ t ∈ todo' := by
  rcases was with seenT | pending
  · exact .inl (keeps t seenT)
  · rcases List.mem_cons.mp pending with rfl | later
    · exact .inl popped
    · exact .inr (rest t later)

/-- A state already seen is dropped. -/
theorem ClosureInv.skip (inv : ClosureInv a w i start (s :: todo) seen found)
    (isSeen : seen[s]?.getD true = true) : ClosureInv a w i start todo seen found where
  size := inv.size
  marked := inv.marked
  pending := fun t member => inv.pending t (List.mem_cons_of_mem s member)
  sound := inv.sound
  closed := fun u marked t move =>
    seen_or_pending_of_pop isSeen (fun _ seenU => seenU) (fun _ later => later) (inv.closed u marked t move)
  collected := inv.collected
  started := fun t member =>
    seen_or_pending_of_pop isSeen (fun _ seenU => seenU) (fun _ later => later) (inv.started t member)

/-- A state not yet seen is marked; the states it moves to are pushed, and it is collected when a
thread waits at it. -/
theorem ClosureInv.visit (inv : ClosureInv a w i start (s :: todo) seen found)
    (unseen : seen[s]? = some false) (more : List Nat)
    (moves : ∀ t, Moves a w i s t ↔ t ∈ more) (found' : List Nat)
    (collect : ∀ t, t ∈ found' ↔ t ∈ found ∨ (t = s ∧ Waiting a s)) :
    ClosureInv a w i start (more ++ todo) (seen.setIfInBounds s true) found' := by
  have reachedS : ReachedFrom a w i start s := inv.pending s (by simp)
  have inside : s < seen.size := by
    have := (Array.getElem?_eq_some_iff.mp unseen).1
    exact this
  -- a state is marked now when it was before, or it is `s`
  have markedNow : ∀ t, (seen.setIfInBounds s true)[t]? = some true ↔
      seen[t]? = some true ∨ t = s := fun t => by
    rw [Array.getElem?_setIfInBounds]
    by_cases same : s = t
    · subst same
      simp [inside]
    · simp [same, Ne.symm same]
  have seenNow : ∀ t, (seen.setIfInBounds s true)[t]?.getD true = true ↔
      seen[t]?.getD true = true ∨ t = s := fun t => by
    rw [Array.getElem?_setIfInBounds]
    by_cases same : s = t
    · subst same
      simp [inside]
    · simp [same, Ne.symm same]
  have sNow : (seen.setIfInBounds s true)[s]?.getD true = true := (seenNow s).mpr (.inr rfl)
  refine ⟨by simp [inv.size], fun t marked => ?_, fun t member => ?_, fun t member => ?_,
    fun u marked t move => ?_, fun t marked waiting => ?_, fun t member => ?_⟩
  · rcases (markedNow t).mp marked with before | rfl
    · exact inv.marked t before
    · exact reachedS
  · rcases List.mem_append.mp member with pushed | later
    · exact reachedS.move ((moves t).mpr pushed)
    · exact inv.pending t (List.mem_cons_of_mem s later)
  · rcases (collect t).mp member with before | ⟨rfl, waiting⟩
    · exact inv.sound t before
    · exact ⟨waiting, reachedS⟩
  · rcases (markedNow u).mp marked with before | rfl
    · -- a move from an earlier state went to a seen state or a pending one, `s` included
      exact seen_or_pending_of_pop sNow (fun v seenV => (seenNow v).mpr (.inl seenV))
        (fun v later => List.mem_append_right _ later) (inv.closed u before t move)
    · exact .inr (List.mem_append_left _ ((moves t).mp move))
  · rcases (markedNow t).mp marked with before | rfl
    · exact (collect t).mpr (.inl (inv.collected t before waiting))
    · exact (collect t).mpr (.inr ⟨rfl, waiting⟩)
  · exact seen_or_pending_of_pop sNow (fun v seenV => (seenNow v).mpr (.inl seenV))
      (fun v later => List.mem_append_right _ later) (inv.started t member)

/-- Marking a state not yet seen leaves one fewer unseen. -/
theorem count_false_setIfInBounds (unseen : seen[s]? = some false) :
    (seen.setIfInBounds s true).toList.count false + 1 = seen.toList.count false := by
  have inside : s < seen.toList.length := by
    simpa using (Array.getElem?_eq_some_iff.mp unseen).1
  have atS : seen.toList[s] = false := by
    have := (Array.getElem?_eq_some_iff.mp unseen).2
    simpa using this
  have positive : 0 < seen.toList.count false :=
    List.count_pos_iff.mpr (atS ▸ List.getElem_mem inside)
  rw [Array.toList_setIfInBounds, List.count_set inside, atS]
  simp only [beq_self_eq_true, if_true, Bool.true_beq, Bool.false_eq_true, if_false, Nat.add_zero]
  omega

theorem unseen_getElem? (unseen : ¬seen[s]?.getD true = true) : seen[s]? = some false := by
  cases found : seen[s]? with
  | none => simp [found] at unseen
  | some b => cases b <;> simp_all

/-- Visiting a state no thread waits at pushes the states it moves to. -/
theorem ClosureInv.pass {n : Node} (inv : ClosureInv a w i start (s :: todo) seen found)
    (unseen : ¬seen[s]?.getD true = true) (node : a.nodes[s]? = some n) (passes : ¬n.Waits)
    (more : List Nat) (moves : ∀ t, Moves a w i s t ↔ t ∈ more) :
    ClosureInv a w i start (more ++ todo) (seen.setIfInBounds s true) found := by
  refine inv.visit (unseen_getElem? unseen) more moves found fun t => ⟨.inl, ?_⟩
  rintro (before | ⟨-, n', node', waits⟩)
  · exact before
  · rw [node, Option.some.injEq] at node'
    subst node'
    exact (passes waits).elim

/-- Visiting a state a thread waits at collects it. -/
theorem ClosureInv.collect (inv : ClosureInv a w i start (s :: todo) seen found)
    (unseen : ¬seen[s]?.getD true = true) (waiting : Waiting a s) :
    ClosureInv a w i start todo (seen.setIfInBounds s true) (s :: found) := by
  refine inv.visit (unseen_getElem? unseen) [] (fun t => ?_) (s :: found) fun t => ⟨?_, ?_⟩
  · simpa using waiting.no_moves
  · intro member
    rcases List.mem_cons.mp member with rfl | before
    · exact .inr ⟨rfl, waiting⟩
    · exact .inl before
  · rintro (before | ⟨rfl, -⟩)
    · exact List.mem_cons_of_mem _ before
    · exact List.mem_cons_self

/-- The fuel measure: marking an unseen state pays for pushing up to two. -/
theorem enough_of_visit {fuel : Nat} (more : List Nat) (unseen : ¬seen[s]?.getD true = true)
    (enough : 3 * seen.toList.count false + (s :: todo).length < fuel + 1) (pushed : more.length ≤ 2) :
    3 * (seen.setIfInBounds s true).toList.count false + (more ++ todo).length < fuel := by
  have fewer := count_false_setIfInBounds (unseen_getElem? unseen)
  simp only [List.length_cons, List.length_append] at enough ⊢
  omega

/-- With fuel above three for each unseen state plus one for each pending state, the closure ends
with nothing pending. -/
theorem ClosureInv.closure {fuel : Nat} (inv : ClosureInv a w i start todo seen found)
    (enough : 3 * seen.toList.count false + todo.length < fuel) :
    ClosureInv a w i start [] (a.closure (charBefore w i) w[i]? fuel todo seen found).2
      (a.closure (charBefore w i) w[i]? fuel todo seen found).1 := by
  fun_induction a.closure (charBefore w i) w[i]? fuel todo seen found with
  | case1 => omega
  | case2 => exact inv
  | case3 fuel s todo seen found isSeen ih =>
    exact ih (inv.skip isSeen) (by simp only [List.length_cons] at enough; omega)
  | case4 fuel s todo seen found unseen marked x y node ih =>
    refine ih (inv.pass unseen node id [x, y] fun t => ?_) (enough_of_visit [x, y] unseen enough (by simp))
    rw [Moves, step_iff_of_split node]
    simp
  | case5 fuel s todo seen found unseen marked l n node holds ih =>
    refine ih (inv.pass unseen node id [n] fun t => ?_) (enough_of_visit [n] unseen enough (by simp))
    rw [Moves, step_iff_of_look node]
    simp [holds]
  | case6 fuel s todo seen found unseen marked l n node fails ih =>
    refine ih (inv.pass unseen node id [] fun t => ?_) (enough_of_visit [] unseen enough (by simp))
    rw [Moves, step_iff_of_look node]
    simp [fails]
  | case7 fuel s todo seen found unseen marked n notSplit notLook node ih =>
    -- a node that is neither a split nor an assertion reads a character or accepts
    have waits : n.Waits := by
      cases n with
      | split x y => exact notSplit x y rfl
      | look l m => exact notLook l m rfl
      | chars | accept => trivial
    exact ih (inv.collect unseen ⟨n, node, waits⟩) (enough_of_visit [] unseen enough (by simp))
  | case8 fuel s todo seen found unseen marked node ih =>
    -- an unseen state lies inside the automaton, so it has a node
    have inside : s < a.nodes.size := inv.size ▸ (Array.getElem?_eq_some_iff.mp (unseen_getElem? unseen)).1
    have := Array.getElem?_eq_none_iff.mp node
    omega

theorem marked_of_seen (inside : s < seen.size) (isSeen : seen[s]?.getD true = true) :
    seen[s]? = some true := by
  rw [Array.getElem?_eq_getElem inside] at isSeen ⊢
  simpa using isSeen

/-- At the end of a closure with nothing pending, every state reached from the start is seen. -/
theorem ClosureInv.seen_of_reached (inv : ClosureInv a w i start [] seen found) {t : Nat}
    (reached : ReachedFrom a w i start t) : seen[t]?.getD true = true := by
  obtain ⟨s, member, path⟩ := reached
  induction path with
  | refl => simpa using inv.started s member
  | @tail u t _ move ih =>
    have marked := marked_of_seen (inv.size ▸ move.lt_size) ih
    simpa using inv.closed u marked t move

/-- The closure at a position collects exactly the waiting states reached from the start state or
from a thread, by moves that read nothing. -/
theorem mem_settle (a : Automaton) (w : List Char) (i : Nat) (threads : List Nat) (t : Nat) :
    t ∈ a.settle (charBefore w i) w[i]? threads ↔
      Waiting a t ∧ ReachedFrom a w i (a.start :: threads) t := by
  have initial : ClosureInv a w i (a.start :: threads) (a.start :: threads)
      (Array.replicate a.nodes.size false) [] := by
    refine ⟨by simp, fun s marked => ?_, fun s member => ⟨s, member, .refl⟩, by simp,
      fun s marked => ?_, fun s marked => ?_, fun s member => .inr member⟩ <;>
    · rw [Array.getElem?_replicate] at marked
      split at marked <;> simp at marked
  have enough : 3 * (Array.replicate a.nodes.size false).toList.count false +
      (a.start :: threads).length < 3 * a.nodes.size + (a.start :: threads).length + 1 := by
    simp
  have final := initial.closure enough
  dsimp only [settle]
  generalize a.closure _ _ _ _ _ _ = result at final ⊢
  constructor
  · exact final.sound t
  · rintro ⟨waiting, reached⟩
    have inside : t < result.2.size := by
      rw [final.size]
      exact waiting.lt_size
    exact final.collected t (marked_of_seen inside (final.seen_of_reached reached)) waiting

/-! ## Threads from one position to the next -/

/-- The states some thread reaches: the start state, at any position of the text, and every state
one move leads to from a state reached. -/
inductive Reached (a : Automaton) (w : List Char) : Nat → Nat → Prop
  | start {i : Nat} (within : i ≤ w.length) : Reached a w a.start i
  | step {s t i j : Nat} (reached : Reached a w s i) (move : Step a.nodes w (s, i) (t, j)) :
      Reached a w t j

theorem Reached.within {t j : Nat} (reached : Reached a w t j) : j ≤ w.length := by
  induction reached with
  | start within => exact within
  | step _ move ih =>
    rcases move.position with same | ⟨next, inside⟩
    · simp only at same
      omega
    · simp only at next inside
      omega

/-- The threads handed to position `i`: each is reached there, and every move that reads the
character before `i` from a state reached lands on one of them. -/
structure Entered (a : Automaton) (w : List Char) (i : Nat) (threads : List Nat) : Prop where
  reached : ∀ t ∈ threads, Reached a w t i
  complete : ∀ s t j, Reached a w s j → Step a.nodes w (s, j) (t, i) → j ≠ i → t ∈ threads

variable {threads : List Nat}

theorem entered_zero : Entered a w 0 [] where
  reached := fun _ member => nomatch member
  complete := fun _ _ j _ move apart => by
    rcases move.position with same | ⟨next, _⟩
    · exact absurd same.symm apart
    · simp only at next
      omega

/-- At a position with entered threads, the states reached there are those reached from the start
state or a thread by moves that read nothing. -/
theorem Entered.reached_iff (entered : Entered a w i threads) (within : i ≤ w.length) {t : Nat} :
    Reached a w t i ↔ ReachedFrom a w i (a.start :: threads) t := by
  constructor
  · -- a move into `i` either reads nothing, from a state reached at `i`, or reads into a thread
    suffices ∀ t k, Reached a w t k → k = i → ReachedFrom a w i (a.start :: threads) t from
      fun reached => this t i reached rfl
    intro t k reached
    induction reached with
    | start => exact fun _ => ⟨a.start, List.mem_cons_self, .refl⟩
    | @step s t j k reached move ih =>
      intro atI
      subst atI
      by_cases same : j = k
      · subst same
        exact (ih rfl).move move
      · exact ⟨t, List.mem_cons_of_mem _ (entered.complete s t j reached move same), .refl⟩
  · rintro ⟨s, member, path⟩
    induction path with
    | refl =>
      rcases List.mem_cons.mp member with rfl | thread
      · exact .start within
      · exact entered.reached s thread
    | tail _ move ih => exact .step ih move

/-- The closure at a position with entered threads is the set of waiting states reached there. -/
theorem Entered.mem_settle (entered : Entered a w i threads) (within : i ≤ w.length) {t : Nat} :
    t ∈ a.settle (charBefore w i) w[i]? threads ↔ Waiting a t ∧ Reached a w t i := by
  rw [Automaton.mem_settle, entered.reached_iff within]

theorem mem_advance (c : Char) (threads : List Nat) (t : Nat) :
    t ∈ a.advance c threads ↔
      ∃ s ∈ threads, ∃ rs, a.nodes[s]? = some (.chars rs t) ∧ inRanges rs c.toNat = true := by
  simp only [advance, List.mem_filterMap]
  refine exists_congr fun s => and_congr_right fun _ => ?_
  cases a.nodes[s]? with
  | none => simp
  | some n =>
    cases n with
    | chars rs n =>
      by_cases member : inRanges rs c.toNat = true <;> simp [member]
    | look | split | accept => simp

/-- Reading the character at `i` hands the threads that read it on to position `i + 1`. -/
theorem Entered.advance {c : Char} (entered : Entered a w i threads) (within : i ≤ w.length)
    (read : w[i]? = some c) :
    Entered a w (i + 1) (a.advance c (a.settle (charBefore w i) w[i]? threads)) := by
  constructor
  · intro t member
    obtain ⟨s, now, rs, node, inside⟩ := (mem_advance c _ t).mp member
    exact .step ((entered.mem_settle within).mp now).2 (.chars node read inside)
  · intro s t j reached move apart
    -- only a move that reads leaves `j` for `i + 1`, so `j = i` and `s` waits at a class
    have atI : j = i := by
      rcases move.position with same | ⟨next, _⟩
      · exact absurd same.symm apart
      · simp only at next
        omega
    subst atI
    cases move with
    | chars node read' inside =>
      rw [read, Option.some.injEq] at read'
      subst read'
      refine (mem_advance c _ t).mpr ⟨s, (entered.mem_settle within).mpr ⟨?_, reached⟩, _, node, inside⟩
      exact ⟨_, node, trivial⟩

theorem accepts_eq_true_iff (threads : List Nat) :
    a.accepts threads = true ↔ ∃ t ∈ threads, a.nodes[t]? = some .accept := by
  simp only [accepts, List.any_eq_true]
  refine exists_congr fun t => and_congr_right fun _ => ?_
  cases a.nodes[t]? with
  | none => simp
  | some n => cases n <;> simp

theorem drop_eq_cons {rest : List Char} {c : Char} (split : w.drop i = c :: rest) :
    w[i]? = some c ∧ w.drop (i + 1) = rest := by
  have inside : i < w.length := by
    by_contra outside
    rw [List.drop_eq_nil_iff.mpr (by omega)] at split
    cases split
  rw [List.drop_eq_getElem_cons inside, List.cons.injEq] at split
  exact ⟨by rw [List.getElem?_eq_getElem inside, split.1], split.2⟩

/-- From a position with entered threads, the run accepts exactly when an accepting state is
reached at that position or a later one. -/
theorem Entered.run (entered : Entered a w i threads) (within : i ≤ w.length) :
    a.run (charBefore w i) threads (w.drop i) = true ↔
      ∃ t j, i ≤ j ∧ Reached a w t j ∧ a.nodes[t]? = some .accept := by
  generalize split : w.drop i = rest
  induction rest generalizing i threads with
  | nil =>
    have atEnd : i = w.length := by
      have := List.drop_eq_nil_iff.mp split
      omega
    have none_eq : (none : Option Char) = w[i]? := by simp [atEnd]
    rw [Automaton.run, none_eq, accepts_eq_true_iff]
    constructor
    · rintro ⟨t, member, accept⟩
      exact ⟨t, i, le_refl i, ((entered.mem_settle within).mp member).2, accept⟩
    · rintro ⟨t, j, later, reached, accept⟩
      have : j = i := by
        have := reached.within
        omega
      subst this
      exact ⟨t, (entered.mem_settle within).mpr ⟨⟨_, accept, trivial⟩, reached⟩, accept⟩
  | cons c rest ih =>
    obtain ⟨read, next⟩ := drop_eq_cons split
    have inside : i < w.length := (List.getElem?_eq_some_iff.mp read).1
    have later := ih (entered.advance within read) inside next
    change a.run w[i]? _ rest = true ↔ _ at later
    dsimp only [Automaton.run]
    rw [← read]
    by_cases acceptsNow : a.accepts (a.settle (charBefore w i) w[i]? threads) = true
    · simp only [acceptsNow, if_true, true_iff]
      obtain ⟨t, member, accept⟩ := (accepts_eq_true_iff _).mp acceptsNow
      exact ⟨t, i, le_refl i, ((entered.mem_settle within).mp member).2, accept⟩
    · simp only [acceptsNow, if_false, Bool.false_eq_true]
      refine later.trans ⟨fun ⟨t, j, after, found⟩ => ⟨t, j, by omega, found⟩, ?_⟩
      rintro ⟨t, j, after, reached, accept⟩
      -- an accepting state reached at `i` would have been accepted there
      rcases Nat.eq_or_lt_of_le after with rfl | after
      · exact absurd ((accepts_eq_true_iff _).mpr
          ⟨t, (entered.mem_settle within).mpr ⟨⟨_, accept, trivial⟩, reached⟩, accept⟩) acceptsNow
      · exact ⟨t, j, after, reached, accept⟩

/-- A search finds a match exactly when some walk from the start state, begun anywhere in the text,
reaches an accepting state. -/
theorem search_iff_reached (a : Automaton) (text : String) :
    a.search text = true ↔ ∃ t j, Reached a text.toList t j ∧ a.nodes[t]? = some .accept := by
  rw [search]
  refine (entered_zero.run (Nat.zero_le _)).trans ?_
  exact exists_congr fun t => ⟨fun ⟨j, _, found⟩ => ⟨j, found⟩, fun ⟨j, found⟩ => ⟨j, Nat.zero_le j, found⟩⟩

/-! ## The automaton of an expression -/

/-- The states reached are those some walk reaches from the start state. -/
theorem reached_iff_walk {t j : Nat} :
    Reached a w t j ↔ ∃ i ≤ w.length, Walk a.nodes w 0 a.nodes.size (a.start, i) (t, j) := by
  constructor
  · intro reached
    induction reached with
    | start within => exact ⟨_, within, .refl _⟩
    | step _ move ih =>
      obtain ⟨i, within, walk⟩ := ih
      exact ⟨i, within, walk.trans (.step ⟨Nat.zero_le _, step_source_lt move⟩ move (.refl _))⟩
  · rintro ⟨i, within, walk⟩
    suffices ∀ p q, Walk a.nodes w 0 a.nodes.size p q → Reached a w p.1 p.2 → Reached a w q.1 q.2 from
      this _ _ walk (.start within)
    intro p q walk
    induction walk with
    | refl => exact id
    | step _ first _ ih => exact fun reached => ih (.step reached first)

/-- The automaton of a bounded expression finds a match in a text exactly when the expression
matches some stretch of it. -/
theorem search_compile (re : Regex) (bounded : re.Bounded) (text : String) :
    (compile re).search text = true ↔ ∃ i j, re.Matches text.toList i j := by
  have frag := compile_fragment re bounded
  set a := compile re
  -- the first state accepts, and it is the only one that does: the others move on
  have acceptAt : a.nodes[0]? = some .accept := frag.keeps 0 (by decide)
  have onlyAccept : ∀ t, a.nodes[t]? = some .accept → t = 0 := by
    intro t node
    by_contra other
    have inside : t < a.nodes.size := (Array.getElem?_eq_some_iff.mp node).1
    obtain ⟨n, node', targets⟩ := frag.closed t (by simp; omega) (by simpa using inside)
    rw [node, Option.some.injEq] at node'
    subst node'
    exact targets
  have start : (1 ≤ a.start ∧ a.start < a.nodes.size) ∨ a.start = 0 := by
    rcases frag.entered with same | inside
    · exact .inr same
    · exact .inl (by simpa using inside)
  rw [search_iff_reached]
  constructor
  · rintro ⟨t, j, reached, accept⟩
    obtain rfl := onlyAccept t accept
    obtain ⟨i, within, walk⟩ := reached_iff_walk.mp reached
    obtain ⟨k, inner, -⟩ := walk.exit frag.closed start (by simp)
    exact ⟨i, k, (frag.walks text.toList i k within).mp (by simpa using inner)⟩
  · rintro ⟨i, k, matched⟩
    have within := matched.within
    have walk := (frag.walks text.toList i k (by omega)).mpr matched
    refine ⟨0, k, reached_iff_walk.mpr ⟨i, by omega, ?_⟩, acceptAt⟩
    exact walk.mono (Nat.zero_le _) (le_refl _)

end Automaton


end FormIntegrity.Pattern
