import FormIntegrity.Proofs.RegexLanguage

/-!
# Compiled expressions as automaton fragments

An automaton moves between states at positions of a text (`Automaton.Step`): a split moves to
either target, an assertion moves on where it holds, and a class reads the character at the
position. Compiling an expression to continue at a state `next` appends nodes that form a
*fragment* (`FragmentOf`): they move only among themselves and to `next`, and the walks through them
from the entry to `next` are exactly the matches of the expression (`compileTo_fragment`). A
fragment's nodes are entered only at its entry and left only at `next`, so a walk through a larger
automaton splits where it leaves a fragment (`Walk.exit`); that is what lets the fragments of a
concatenation, an alternation and a repetition be put together (`FragmentOf.seq`,
`FragmentOf.alt`, `FragmentOf.star`). The automaton of an expression accepts at its first node
exactly the matches of the expression (`compile_walks`).
-/

namespace FormIntegrity.Pattern

/-- All the states a node moves to satisfy `P`; an accepting node is not allowed. -/
def Node.TargetsIn (P : Nat → Prop) : Node → Prop
  | .chars _ n => P n
  | .look _ n => P n
  | .split a b => P a ∧ P b
  | .accept => False

namespace Automaton

/-- One move of an automaton with nodes `nodes` over the text `w`, between a state at a position
and a state at a position. -/
inductive Step (nodes : Array Node) (w : List Char) : Nat × Nat → Nat × Nat → Prop
  | splitLeft {s i x y : Nat} (node : nodes[s]? = some (.split x y)) : Step nodes w (s, i) (x, i)
  | splitRight {s i x y : Nat} (node : nodes[s]? = some (.split x y)) : Step nodes w (s, i) (y, i)
  | look {s i n : Nat} {l : Look} (node : nodes[s]? = some (.look l n))
      (holds : l.holds (charBefore w i) w[i]? = true) : Step nodes w (s, i) (n, i)
  | chars {s i n : Nat} {rs : Array (Nat × Nat)} {c : Char} (node : nodes[s]? = some (.chars rs n))
      (read : w[i]? = some c) (member : inRanges rs c.toNat = true) : Step nodes w (s, i) (n, i + 1)

/-- Moves in a row, each from a state between `lo` and `hi`. -/
inductive Walk (nodes : Array Node) (w : List Char) (lo hi : Nat) : Nat × Nat → Nat × Nat → Prop
  | refl (p : Nat × Nat) : Walk nodes w lo hi p p
  | step {p q r : Nat × Nat} (inside : lo ≤ p.1 ∧ p.1 < hi) (first : Step nodes w p q)
      (rest : Walk nodes w lo hi q r) : Walk nodes w lo hi p r

/-- The nodes from `lo` to `hi` move only among themselves and to `x`. -/
def Closed (nodes : Array Node) (lo hi x : Nat) : Prop :=
  ∀ s, lo ≤ s → s < hi → ∃ n, nodes[s]? = some n ∧ n.TargetsIn fun t => (lo ≤ t ∧ t < hi) ∨ t = x

variable {A B : Array Node} {w : List Char}

/-! ## Moves -/

theorem Step.congr {s i : Nat} {q : Nat × Nat} (same : B[s]? = A[s]?) (step : Step A w (s, i) q) :
    Step B w (s, i) q := by
  cases step with
  | splitLeft node => exact .splitLeft (same.trans node)
  | splitRight node => exact .splitRight (same.trans node)
  | look node holds => exact .look (same.trans node) holds
  | chars node read member => exact .chars (same.trans node) read member

/-- A move goes to a target of the node it leaves. -/
theorem Step.targets {s i : Nat} {q : Nat × Nat} {n : Node} {P : Nat → Prop}
    (node : A[s]? = some n) (targets : n.TargetsIn P) (step : Step A w (s, i) q) : P q.1 := by
  cases step with
  | splitLeft found | splitRight found | look found _ | chars found _ _ =>
    rw [node, Option.some.injEq] at found
    subst found
    simp only [Node.TargetsIn] at targets
    first | exact targets | exact targets.1 | exact targets.2

/-- A move stays at its position or reads the character there. -/
theorem Step.position {p q : Nat × Nat} (step : Step A w p q) :
    q.2 = p.2 ∨ (q.2 = p.2 + 1 ∧ p.2 < w.length) := by
  cases step with
  | splitLeft | splitRight | look => exact .inl rfl
  | chars _ read _ => exact .inr ⟨rfl, (List.getElem?_eq_some_iff.mp read).1⟩

theorem step_iff_of_chars {s i n : Nat} {rs : Array (Nat × Nat)} {q : Nat × Nat}
    (node : A[s]? = some (.chars rs n)) :
    Step A w (s, i) q ↔ q = (n, i + 1) ∧ ∃ c, w[i]? = some c ∧ inRanges rs c.toNat = true := by
  constructor
  · intro step
    cases step with
    | splitLeft found | splitRight found | look found _ => simp [node] at found
    | chars found read member =>
      simp only [node, Option.some.injEq, Node.chars.injEq] at found
      obtain ⟨rfl, rfl⟩ := found
      exact ⟨rfl, _, read, member⟩
  · rintro ⟨rfl, c, read, member⟩
    exact .chars node read member

theorem step_iff_of_look {s i n : Nat} {l : Look} {q : Nat × Nat} (node : A[s]? = some (.look l n)) :
    Step A w (s, i) q ↔ q = (n, i) ∧ l.holds (charBefore w i) w[i]? = true := by
  constructor
  · intro step
    cases step with
    | splitLeft found | splitRight found | chars found _ _ => simp [node] at found
    | look found holds =>
      simp only [node, Option.some.injEq, Node.look.injEq] at found
      obtain ⟨rfl, rfl⟩ := found
      exact ⟨rfl, holds⟩
  · rintro ⟨rfl, holds⟩
    exact .look node holds

theorem step_iff_of_split {s i x y : Nat} {q : Nat × Nat} (node : A[s]? = some (.split x y)) :
    Step A w (s, i) q ↔ q = (x, i) ∨ q = (y, i) := by
  constructor
  · intro step
    cases step with
    | look found _ | chars found _ _ => simp [node] at found
    | splitLeft found =>
      simp only [node, Option.some.injEq, Node.split.injEq] at found
      obtain ⟨rfl, rfl⟩ := found
      exact .inl rfl
    | splitRight found =>
      simp only [node, Option.some.injEq, Node.split.injEq] at found
      obtain ⟨rfl, rfl⟩ := found
      exact .inr rfl
  · rintro (rfl | rfl)
    · exact .splitLeft node
    · exact .splitRight node

/-! ## Walks -/

variable {lo hi : Nat} {p q t : Nat × Nat}

theorem Walk.trans (first : Walk A w lo hi p q) (second : Walk A w lo hi q t) : Walk A w lo hi p t := by
  induction first with
  | refl => exact second
  | step inside head _ ih => exact .step inside head (ih second)

theorem Walk.mono {lo' hi' : Nat} (low : lo' ≤ lo) (high : hi ≤ hi') (walk : Walk A w lo hi p q) :
    Walk A w lo' hi' p q := by
  induction walk with
  | refl => exact .refl _
  | step inside head _ ih => exact .step ⟨by omega, by omega⟩ head ih

/-- A walk reads only the nodes it leaves. -/
theorem Walk.congr (same : ∀ s, lo ≤ s → s < hi → B[s]? = A[s]?) (walk : Walk A w lo hi p q) :
    Walk B w lo hi p q := by
  induction walk with
  | refl => exact .refl _
  | @step p q r inside head _ ih =>
    obtain ⟨s, i⟩ := p
    exact .step inside (head.congr (same s inside.1 inside.2)) ih

/-- A walk from a state outside its bounds goes nowhere. -/
theorem Walk.stuck (outside : ¬(lo ≤ p.1 ∧ p.1 < hi)) (walk : Walk A w lo hi p q) : q = p := by
  cases walk with
  | refl => rfl
  | step inside => exact absurd inside outside

theorem Walk.cons_iff {s i : Nat} (inside : lo ≤ s ∧ s < hi) :
    Walk A w lo hi (s, i) t ↔ (s, i) = t ∨ ∃ q, Step A w (s, i) q ∧ Walk A w lo hi q t := by
  constructor
  · intro walk
    cases walk with
    | refl => exact .inl rfl
    | step _ head rest => exact .inr ⟨_, head, rest⟩
  · rintro (rfl | ⟨q, head, rest⟩)
    · exact .refl _
    · exact .step inside head rest

/-- A walk never goes back, and stays within the text. -/
theorem Walk.position (walk : Walk A w lo hi p q) (within : p.2 ≤ w.length) :
    p.2 ≤ q.2 ∧ q.2 ≤ w.length := by
  induction walk with
  | refl => exact ⟨le_refl _, within⟩
  | step _ head _ ih =>
    rcases head.position with same | ⟨next, read⟩
    · have := ih (by omega)
      omega
    · have := ih (by omega)
      omega

theorem Closed.congr {x : Nat} (closed : Closed A lo hi x)
    (same : ∀ s, lo ≤ s → s < hi → B[s]? = A[s]?) : Closed B lo hi x := by
  intro s low high
  rw [same s low high]
  exact closed s low high

theorem Closed.step {x s i : Nat} (closed : Closed A lo hi x) (inside : lo ≤ s ∧ s < hi)
    (step : Step A w (s, i) q) : (lo ≤ q.1 ∧ q.1 < hi) ∨ q.1 = x := by
  obtain ⟨n, node, targets⟩ := closed s inside.1 inside.2
  exact step.targets node targets

/-- A walk that leaves the nodes of a closed stretch leaves them at its exit: it splits into a walk
inside the stretch up to the exit, and the rest. -/
theorem Walk.exit {lo' hi' x : Nat} (closed : Closed A lo hi x) (walk : Walk A w lo' hi' p t)
    (start : (lo ≤ p.1 ∧ p.1 < hi) ∨ p.1 = x) (away : ¬(lo ≤ t.1 ∧ t.1 < hi)) :
    ∃ j, Walk A w lo hi p (x, j) ∧ Walk A w lo' hi' (x, j) t := by
  induction walk with
  | refl p =>
    rcases start with inside | atExit
    · exact absurd inside away
    · exact ⟨p.2, by rw [← atExit]; exact .refl _, by rw [← atExit]; exact .refl _⟩
  | @step p q r inside head rest ih =>
    by_cases atExit : p.1 = x
    · exact ⟨p.2, by rw [← atExit]; exact .refl _, by rw [← atExit]; exact .step inside head rest⟩
    · -- the walk starts inside the stretch, so its first move stays inside or reaches the exit
      have pInside : lo ≤ p.1 ∧ p.1 < hi := start.resolve_right atExit
      obtain ⟨s, i⟩ := p
      obtain ⟨j, front, back⟩ := ih (closed.step pInside head) away
      exact ⟨j, .step pInside head front, back⟩

/-- A walk that ends outside a closed stretch it starts in stays inside it up to the exit. -/
theorem Walk.within_exit {lo' hi' x : Nat} (closed : Closed A lo hi x) (apart : ¬(lo ≤ x ∧ x < hi))
    (walk : Walk A w lo' hi' p (x, t.2)) (start : (lo ≤ p.1 ∧ p.1 < hi) ∨ p.1 = x)
    (exitOutside : ¬(lo' ≤ x ∧ x < hi')) : Walk A w lo hi p (x, t.2) := by
  obtain ⟨j, front, back⟩ := walk.exit closed start apart
  have same := back.stuck exitOutside
  rw [Prod.mk.injEq] at same
  rw [same.2]
  exact front

/-! ## Fragments -/

/-- The nodes of `nodes'` from `nodes.size` on form a fragment over `nodes`: they keep the nodes
before them, are entered at `entry` (or `entry` is the exit itself), move only among themselves and
to the exit `next`, and the walks through them from the entry to the exit are what `L` relates. -/
structure FragmentOf (L : List Char → Nat → Nat → Prop) (next : Nat) (nodes : Array Node)
    (entry : Nat) (nodes' : Array Node) : Prop where
  exits : next < nodes.size
  grows : nodes.size ≤ nodes'.size
  keeps : ∀ s, s < nodes.size → nodes'[s]? = nodes[s]?
  entered : entry = next ∨ (nodes.size ≤ entry ∧ entry < nodes'.size)
  closed : Closed nodes' nodes.size nodes'.size next
  walks : ∀ w i k, i ≤ w.length →
    (Walk nodes' w nodes.size nodes'.size (entry, i) (next, k) ↔ L w i k)

/-- The fragment of an expression: its walks are the expression's matches. -/
abbrev Fragment (re : Regex) : Nat → Array Node → Nat → Array Node → Prop :=
  FragmentOf fun w => re.Matches w

variable {L L' : List Char → Nat → Nat → Prop} {next entry : Nat} {nodes nodes' : Array Node}

theorem FragmentOf.congr (frag : FragmentOf L next nodes entry nodes')
    (same : ∀ w i k, i ≤ w.length → (L w i k ↔ L' w i k)) : FragmentOf L' next nodes entry nodes' :=
  { frag with walks := fun w i k within => (frag.walks w i k within).trans (same w i k within) }

theorem FragmentOf.entry_lt (frag : FragmentOf L next nodes entry nodes') : entry < nodes'.size := by
  have := frag.exits
  have := frag.grows
  rcases frag.entered with same | inside <;> omega

theorem FragmentOf.next_outside (frag : FragmentOf L next nodes entry nodes') :
    ¬(nodes.size ≤ next ∧ next < nodes'.size) := by
  have := frag.exits
  omega

/-- No nodes: the exit is the entry, and the walks stay where they are. -/
theorem fragment_empty (below : next < nodes.size) :
    FragmentOf (fun w i k => i = k ∧ k ≤ w.length) next nodes next nodes := by
  refine ⟨below, le_refl _, fun _ _ => rfl, .inl rfl, fun s low high => by omega, fun w i k within => ?_⟩
  constructor
  · intro walk
    have := walk.stuck (by omega)
    rw [Prod.mk.injEq] at this
    exact ⟨this.2.symm, this.2 ▸ within⟩
  · rintro ⟨rfl, _⟩
    exact .refl _

/-- One node that moves only to the exit. -/
theorem fragment_node {n : Node} (below : next < nodes.size)
    (targets : n.TargetsIn fun t => t = next)
    (moves : ∀ w i k, Step (nodes.push n) w (nodes.size, i) (next, k) ↔ L w i k) :
    FragmentOf L next nodes nodes.size (nodes.push n) := by
  have node : (nodes.push n)[nodes.size]? = some n := by simp
  refine ⟨below, by simp, fun s low => by simp [Array.getElem?_push, Nat.ne_of_lt low],
    .inr ⟨le_refl _, by simp⟩, fun s low high => ?_, fun w i k within => ?_⟩
  · have : s = nodes.size := by simp at high; omega
    subst this
    refine ⟨n, node, ?_⟩
    cases n <;> simp_all [Node.TargetsIn]
  · rw [← moves w i k]
    constructor
    · intro walk
      rw [Walk.cons_iff (show nodes.size ≤ nodes.size ∧ nodes.size < (nodes.push n).size by simp)]
        at walk
      rcases walk with same | ⟨q, head, rest⟩
      · simp only [Prod.mk.injEq] at same
        omega
      · -- the node's one move goes to the exit, where the walk stops
        have atExit : q.1 = next := head.targets node targets
        have := rest.stuck (by simp only [Array.size_push]; omega)
        subst this
        exact head
    · intro head
      exact .step ⟨le_refl _, by simp⟩ head (.refl _)

/-- Read in a larger array that keeps its nodes, within wider bounds that leave out its exit, a
fragment's walks from its entry to its exit are still what it relates. -/
theorem FragmentOf.walks_in (frag : FragmentOf L next nodes entry nodes') {lo' hi' i k : Nat}
    (same : ∀ s, nodes.size ≤ s → s < nodes'.size → B[s]? = nodes'[s]?) (low : lo' ≤ nodes.size)
    (high : nodes'.size ≤ hi') (exitOutside : ¬(lo' ≤ next ∧ next < hi')) (within : i ≤ w.length) :
    Walk B w lo' hi' (entry, i) (next, k) ↔ L w i k := by
  rw [← frag.walks w i k within]
  constructor
  · intro walk
    have start : (nodes.size ≤ entry ∧ entry < nodes'.size) ∨ entry = next :=
      frag.entered.symm.imp_left fun inside => inside
    have inside := walk.within_exit (t := (next, k)) (frag.closed.congr same) frag.next_outside start
      exitOutside
    exact inside.congr fun s low high => (same s low high).symm
  · intro walk
    exact (walk.congr same).mono low high

/-- A fragment for `L₂` placed before a fragment for `L₁`, its exit the other's entry: a walk through
both is one through the first, then one through the second. -/
theorem FragmentOf.seq {L₁ L₂ : List Char → Nat → Nat → Prop} {e₁ e₂ : Nat} {nodes₁ nodes₂ : Array Node}
    (second : FragmentOf L₁ next nodes e₁ nodes₁) (first : FragmentOf L₂ e₁ nodes₁ e₂ nodes₂) :
    FragmentOf (fun w i k => ∃ j, L₂ w i j ∧ L₁ w j k) next nodes e₂ nodes₂ := by
  have secondBelow : ∀ s, nodes.size ≤ s → s < nodes₁.size → nodes₂[s]? = nodes₁[s]? :=
    fun s _ high => first.keeps s high
  -- the second fragment's nodes, read in the larger array
  have secondClosed : Closed nodes₂ nodes.size nodes₁.size next := by
    intro s low high
    rw [secondBelow s low high]
    exact second.closed s low high
  have exitOutside := second.next_outside
  refine ⟨second.exits, second.grows.trans first.grows, fun s low => ?_, ?_, ?_, ?_⟩
  · rw [first.keeps s (by have := second.grows; omega), second.keeps s low]
  · rcases first.entered with same | inside
    · rcases second.entered with same' | inside'
      · exact .inl (same.trans same')
      · exact .inr ⟨by omega, by have := first.grows; omega⟩
    · exact .inr ⟨by have := second.grows; omega, inside.2⟩
  · intro s low high
    by_cases early : s < nodes₁.size
    · obtain ⟨n, node, targets⟩ := secondClosed s low early
      refine ⟨n, node, ?_⟩
      cases n <;> simp only [Node.TargetsIn] at targets ⊢ <;> have := first.grows <;> omega
    · obtain ⟨n, node, targets⟩ := first.closed s (by omega) high
      refine ⟨n, node, ?_⟩
      -- the first fragment's exit lies in the second fragment or is its exit
      have entry₁ := second.entered
      have := second.grows
      cases n <;> simp only [Node.TargetsIn] at targets ⊢ <;> omega
  · intro w i k within
    constructor
    · intro walk
      have entryStart : (nodes₁.size ≤ e₂ ∧ e₂ < nodes₂.size) ∨ e₂ = e₁ := by
        rcases first.entered with same | inside
        · exact .inr same
        · exact .inl inside
      obtain ⟨j, front, back⟩ := walk.exit first.closed entryStart
        (by have := second.exits; have := second.grows; simp only; omega)
      have firstPart := (first.walks w i j within).mp front
      have jWithin := (front.position within).2
      have e₁Start : (nodes.size ≤ e₁ ∧ e₁ < nodes₁.size) ∨ e₁ = next :=
        second.entered.symm.imp_left fun inside => inside
      have backInside := back.within_exit (t := (next, k)) secondClosed exitOutside e₁Start
        (by have := second.exits; omega)
      have secondPart := (second.walks w j k jWithin).mp
        (backInside.congr fun s low high => (secondBelow s low high).symm)
      exact ⟨j, firstPart, secondPart⟩
    · rintro ⟨j, firstPart, secondPart⟩
      have front := ((first.walks w i j within).mpr firstPart).mono (Nat.le_of_lt_succ
        (Nat.lt_succ_of_le second.grows)) (le_refl _)
      have jWithin : j ≤ w.length := (((first.walks w i j within).mpr firstPart).position within).2
      have back := (((second.walks w j k jWithin).mpr secondPart).congr secondBelow).mono
        (le_refl _) first.grows
      exact front.trans (by simpa using back)

/-- Two fragments side by side behind a split: a walk through them goes through either. -/
theorem FragmentOf.alt {La Lb : List Char → Nat → Nat → Prop} {ea eb : Nat} {nodes₁ nodes₂ : Array Node}
    (left : FragmentOf La next nodes ea nodes₁) (right : FragmentOf Lb next nodes₁ eb nodes₂) :
    FragmentOf (fun w i k => La w i k ∨ Lb w i k) next nodes nodes₂.size
      (nodes₂.push (.split ea eb)) := by
  have leftGrows := left.grows
  have rightGrows := right.grows
  have exits := left.exits
  -- both fragments keep their nodes once the split is added after them
  have rightSame : ∀ s, nodes₁.size ≤ s → s < nodes₂.size → (nodes₂.push (.split ea eb))[s]? = nodes₂[s]? :=
    fun s _ high => by simp [Array.getElem?_push, Nat.ne_of_lt high]
  have leftSame : ∀ s, nodes.size ≤ s → s < nodes₁.size → (nodes₂.push (.split ea eb))[s]? = nodes₁[s]? :=
    fun s _ high => by
      rw [Array.getElem?_push, if_neg (by omega), right.keeps s high]
  have split : (nodes₂.push (.split ea eb))[nodes₂.size]? = some (.split ea eb) := by simp
  refine ⟨exits, by simp only [Array.size_push]; omega, fun s low => ?_, .inr ⟨by omega, by simp⟩, ?_, ?_⟩
  · rw [Array.getElem?_push, if_neg (by omega), right.keeps s (by omega), left.keeps s low]
  · intro s low high
    simp only [Array.size_push] at high ⊢
    by_cases early : s < nodes₁.size
    · obtain ⟨n, node, targets⟩ := left.closed s low early
      refine ⟨n, (leftSame s low early).trans node, ?_⟩
      cases n <;> simp only [Node.TargetsIn] at targets ⊢ <;> omega
    · by_cases middle : s < nodes₂.size
      · obtain ⟨n, node, targets⟩ := right.closed s (by omega) middle
        refine ⟨n, (rightSame s (by omega) middle).trans node, ?_⟩
        cases n <;> simp only [Node.TargetsIn] at targets ⊢ <;> omega
      · have atSplit : s = nodes₂.size := by omega
        subst atSplit
        refine ⟨_, split, ?_⟩
        have := left.entered
        have := right.entered
        simp only [Node.TargetsIn]
        omega
  · intro w i k within
    have exitOutside : ¬(nodes.size ≤ next ∧ next < (nodes₂.push (.split ea eb)).size) := by omega
    have leftWalks := left.walks_in (i := i) (k := k) leftSame (le_refl _) (by simp; omega)
      exitOutside within
    have rightWalks := right.walks_in (i := i) (k := k) rightSame (by omega) (by simp)
      exitOutside within
    rw [Walk.cons_iff (show nodes.size ≤ nodes₂.size ∧ nodes₂.size < (nodes₂.push (.split ea eb)).size
      by simp; omega), ← leftWalks, ← rightWalks]
    constructor
    · rintro (same | ⟨q, head, rest⟩)
      · simp only [Prod.mk.injEq] at same
        omega
      · rcases (step_iff_of_split split).mp head with rfl | rfl
        · exact .inl rest
        · exact .inr rest
    · rintro (walk | walk)
      · exact .inr ⟨_, .splitLeft split, walk⟩
      · exact .inr ⟨_, .splitRight split, walk⟩

/-- A loop: a split that enters the fragment of `r` or leaves, the fragment leading back to the split.
A walk through it reads any number of matches of `r` in a row. -/
theorem FragmentOf.star {r : Regex} {eb : Nat} {nodes₂ : Array Node} (below : next < nodes.size)
    (body : Fragment r nodes.size (nodes.push .accept) eb nodes₂) :
    FragmentOf (fun w i k => ∃ n, Regex.Copies w r n i k) next nodes nodes.size
      (nodes₂.setIfInBounds nodes.size (.split eb next)) := by
  have bodyGrows := body.grows
  simp only [Array.size_push] at bodyGrows
  have bodyEntered := body.entered
  simp only [Array.size_push] at bodyEntered
  -- the loop's split replaces the placeholder at `nodes.size`, before the body's nodes
  have bodySame : ∀ s, (nodes.push .accept).size ≤ s → s < nodes₂.size →
      (nodes₂.setIfInBounds nodes.size (.split eb next))[s]? = nodes₂[s]? := fun s low _ => by
    simp only [Array.size_push] at low
    rw [Array.getElem?_setIfInBounds, if_neg (by omega)]
  have loop : (nodes₂.setIfInBounds nodes.size (.split eb next))[nodes.size]? = some (.split eb next) := by
    rw [Array.getElem?_setIfInBounds, if_pos rfl, if_pos (by omega)]
  have bodyClosed := body.closed.congr fun s low high => bodySame s low high
  simp only [Array.size_push] at bodyClosed
  refine ⟨below, by simp only [Array.size_setIfInBounds]; omega, fun s low => ?_,
    .inr ⟨le_refl _, by simp only [Array.size_setIfInBounds]; omega⟩, ?_, ?_⟩
  · rw [Array.getElem?_setIfInBounds, if_neg (by omega), body.keeps s (by simp; omega),
      Array.getElem?_push, if_neg (by omega)]
  · intro s low high
    simp only [Array.size_setIfInBounds] at high ⊢
    by_cases atLoop : s = nodes.size
    · subst atLoop
      refine ⟨_, loop, ?_⟩
      simp only [Node.TargetsIn]
      exact ⟨by omega, .inr trivial⟩
    · obtain ⟨n, node, targets⟩ := bodyClosed s (by omega) high
      refine ⟨n, node, ?_⟩
      cases n <;> simp only [Node.TargetsIn] at targets ⊢ <;> omega
  · intro w i k within
    simp only [Array.size_setIfInBounds]
    have bodyWalks : ∀ i j, i ≤ w.length →
        (Walk (nodes₂.setIfInBounds nodes.size (.split eb next)) w (nodes.size + 1) nodes₂.size
          (eb, i) (nodes.size, j) ↔ r.Matches w i j) := fun i j within' =>
      body.walks_in bodySame (by simp) (le_refl _) (by simp) within'
    constructor
    · -- through the loop: each time round, one walk through the body back to the split
      intro walk
      suffices loopOrBody : ∀ p t, Walk (nodes₂.setIfInBounds nodes.size (.split eb next)) w nodes.size
          nodes₂.size p t → t.1 = next → p.2 ≤ w.length →
          (p.1 = nodes.size → ∃ n, Regex.Copies w r n p.2 t.2) ∧
          ((nodes.size + 1 ≤ p.1 ∧ p.1 < nodes₂.size) ∨ p.1 = eb →
            ∃ j, Walk (nodes₂.setIfInBounds nodes.size (.split eb next)) w (nodes.size + 1)
              nodes₂.size p (nodes.size, j) ∧ ∃ n, Regex.Copies w r n j t.2) from
        (loopOrBody _ _ walk rfl within).1 rfl
      intro p t walk
      induction walk with
      | refl p =>
        intro atExit _
        refine ⟨fun atLoop => by omega, fun inside => ?_⟩
        omega
      | @step p q t inside head rest ih =>
        intro atExit pWithin
        have qWithin : q.2 ≤ w.length := by
          rcases head.position with same | ⟨_, read⟩ <;> omega
        obtain ⟨atLoop, throughBody⟩ := ih atExit qWithin
        have fromLoop : p.1 = nodes.size → ∃ n, Regex.Copies w r n p.2 t.2 := by
          intro isLoop
          obtain ⟨s, i⟩ := p
          simp only at isLoop
          subst isLoop
          rcases (step_iff_of_split loop).mp head with rfl | rfl
          · -- once more round the body
            obtain ⟨j, bodyWalk, n, copies⟩ := throughBody (.inr rfl)
            exact ⟨n + 1, .succ ((bodyWalks i j pWithin).mp bodyWalk) copies⟩
          · -- out of the loop, where the walk stops
            have := rest.stuck (by omega)
            subst this
            exact ⟨0, .zero pWithin⟩
        refine ⟨fromLoop, fun inBody => ?_⟩
        by_cases isLoop : p.1 = nodes.size
        · exact ⟨p.2, by rw [← isLoop]; exact .refl _, fromLoop isLoop⟩
        · -- inside the body: its move stays in the body or comes back to the split
          have pInside : nodes.size + 1 ≤ p.1 ∧ p.1 < nodes₂.size := by omega
          obtain ⟨s, i⟩ := p
          rcases bodyClosed.step pInside head with qInside | qLoop
          · obtain ⟨j, back, copies⟩ := throughBody (.inl qInside)
            exact ⟨j, .step pInside head back, copies⟩
          · obtain ⟨n, copies⟩ := atLoop qLoop
            obtain ⟨s', j⟩ := q
            simp only at qLoop
            subst qLoop
            exact ⟨j, .step pInside head (.refl _), n, copies⟩
    · rintro ⟨n, copies⟩
      induction copies with
      | zero within' =>
        exact .step ⟨le_refl _, by omega⟩ (.splitRight loop) (.refl _)
      | succ first _ ih =>
        have bodyWalk := ((bodyWalks _ _ (first.within.1.trans first.within.2)).mpr first).mono
          (Nat.le_succ _) (le_refl _)
        exact .step ⟨le_refl _, by omega⟩ (.splitLeft loop) (bodyWalk.trans (ih first.within.2))

/-! ## The fragments of compiled expressions -/

/-- The optional copies of a counted repetition: after `c` turns, `c` copies each entered from a
split that may skip to the exit instead. -/
theorem optional_fragment {r : Regex}
    (copy : ∀ next nodes, next < nodes.size →
      Fragment r next nodes (compileTo r next nodes).1 (compileTo r next nodes).2)
    (below : next < nodes.size) (c : Nat) :
    FragmentOf (fun w i k => ∃ n ≤ c, Regex.Copies w r n i k) next nodes
      ((List.range c).foldl (fun acc _ =>
        addNode (compileTo r acc.1 acc.2).2 (.split (compileTo r acc.1 acc.2).1 next)) (next, nodes)).1
      ((List.range c).foldl (fun acc _ =>
        addNode (compileTo r acc.1 acc.2).2 (.split (compileTo r acc.1 acc.2).1 next)) (next, nodes)).2 := by
  induction c with
  | zero =>
    refine (fragment_empty below).congr fun w i k _ => ?_
    constructor
    · rintro ⟨rfl, within⟩
      exact ⟨0, le_refl _, .zero within⟩
    · rintro ⟨n, few, copies⟩
      have : n = 0 := by omega
      subst this
      cases copies with
      | zero within => exact ⟨rfl, within⟩
  | succ c ih =>
    rw [List.range_succ, List.foldl_append, List.foldl_cons, List.foldl_nil]
    -- one more copy before the copies so far, entered from a split that may skip to the exit
    have copied := ih.seq (copy _ _ ih.entry_lt)
    have split := copied.alt (fragment_empty (copied.exits.trans_le copied.grows))
    refine split.congr fun w i k _ => ?_
    constructor
    · rintro (⟨j, first, n, few, copies⟩ | ⟨rfl, within⟩)
      · exact ⟨n + 1, by omega, .succ first copies⟩
      · exact ⟨0, Nat.zero_le _, .zero within⟩
    · rintro ⟨n, few, copies⟩
      cases copies with
      | zero within => exact .inr ⟨rfl, within⟩
      | succ first rest => exact .inl ⟨_, first, _, by omega, rest⟩

/-- The required copies of a repetition, before its tail: after `c` turns, `c` copies in a row. -/
theorem required_fragment {r : Regex}
    (copy : ∀ next nodes, next < nodes.size →
      Fragment r next nodes (compileTo r next nodes).1 (compileTo r next nodes).2)
    {T : List Char → Nat → Nat → Prop} {tail : Nat} {nodesT : Array Node}
    (tailFragment : FragmentOf T next nodes tail nodesT) (c : Nat) :
    FragmentOf (fun w i k => ∃ j, Regex.Copies w r c i j ∧ T w j k) next nodes
      ((List.range c).foldl (fun acc _ => compileTo r acc.1 acc.2) (tail, nodesT)).1
      ((List.range c).foldl (fun acc _ => compileTo r acc.1 acc.2) (tail, nodesT)).2 := by
  induction c with
  | zero =>
    refine tailFragment.congr fun w i k within => ?_
    constructor
    · intro rest
      exact ⟨i, .zero within, rest⟩
    · rintro ⟨j, copies, rest⟩
      cases copies with
      | zero => exact rest
  | succ c ih =>
    rw [List.range_succ, List.foldl_append, List.foldl_cons, List.foldl_nil]
    refine (ih.seq (copy _ _ ih.entry_lt)).congr fun w i k _ => ?_
    constructor
    · rintro ⟨j, first, j', copies, rest⟩
      exact ⟨j', .succ first copies, rest⟩
    · rintro ⟨j', copies, rest⟩
      cases copies with
      | succ first copies => exact ⟨_, first, j', copies, rest⟩

theorem compileTo_cat (a b : Regex) (next : Nat) (nodes : Array Node) :
    compileTo (.cat a b) next nodes =
      compileTo a (compileTo b next nodes).1 (compileTo b next nodes).2 :=
  rfl

theorem compileTo_alt (a b : Regex) (next : Nat) (nodes : Array Node) :
    compileTo (.alt a b) next nodes =
      ((compileTo b next (compileTo a next nodes).2).2.size,
        (compileTo b next (compileTo a next nodes).2).2.push
          (.split (compileTo a next nodes).1 (compileTo b next (compileTo a next nodes).2).1)) :=
  rfl

/-- A repetition compiles to its required copies before its tail: the optional copies up to its
bound, or a loop when it has none. -/
theorem compileTo_rep (r : Regex) (min : Nat) (max : Option Nat) (next : Nat) (nodes : Array Node) :
    compileTo (.rep r min max) next nodes =
      (List.range min).foldl (fun acc _ => compileTo r acc.1 acc.2)
        (match max with
          | some m => (List.range (m - min)).foldl (fun acc _ =>
              addNode (compileTo r acc.1 acc.2).2 (.split (compileTo r acc.1 acc.2).1 next)) (next, nodes)
          | none => (nodes.size, (compileTo r nodes.size (nodes.push .accept)).2.setIfInBounds nodes.size
              (.split (compileTo r nodes.size (nodes.push .accept)).1 next))) := by
  cases max <;> rfl

/-- **Compiled expressions are fragments.** Compiling a bounded expression to continue at an
existing state appends a fragment whose walks from its entry to that state are the expression's
matches. -/
theorem compileTo_fragment (re : Regex) (bounded : re.Bounded) (next : Nat) (nodes : Array Node)
    (below : next < nodes.size) :
    Fragment re next nodes (compileTo re next nodes).1 (compileTo re next nodes).2 := by
  induction re generalizing next nodes with
  | empty => exact (fragment_empty below).congr fun w i k _ => Regex.matches_empty_iff.symm
  | chars cls =>
    show Fragment _ next nodes nodes.size (nodes.push (.chars cls.ranges.toArray next))
    have node : (nodes.push (.chars cls.ranges.toArray next))[nodes.size]? =
        some (.chars cls.ranges.toArray next) := by simp
    have moves : ∀ w i k, Step (nodes.push (.chars cls.ranges.toArray next)) w (nodes.size, i) (next, k) ↔
        Regex.Matches w (.chars cls) i k := fun w i k => by
      rw [step_iff_of_chars node, Regex.matches_chars_iff]
      simp only [Prod.mk.injEq, true_and, inRanges_eq_contains bounded]
    exact fragment_node below rfl moves
  | look l =>
    show Fragment _ next nodes nodes.size (nodes.push (.look l next))
    have node : (nodes.push (.look l next))[nodes.size]? = some (.look l next) := by simp
    refine (fragment_node below (show Node.TargetsIn (· = next) (.look l next) from rfl)
      fun w i k => step_iff_of_look node).congr fun w i k within => ?_
    rw [Regex.matches_look_iff, Prod.mk.injEq]
    constructor
    · rintro ⟨⟨-, rfl⟩, holds⟩
      exact ⟨rfl, within, holds⟩
    · rintro ⟨rfl, -, holds⟩
      exact ⟨⟨rfl, rfl⟩, holds⟩
  | cat a b iha ihb =>
    rw [compileTo_cat]
    have second := ihb bounded.2 next nodes below
    exact (second.seq (iha bounded.1 _ _ second.entry_lt)).congr
      fun w i k _ => Regex.matches_cat_iff.symm
  | alt a b iha ihb =>
    rw [compileTo_alt]
    have left := iha bounded.1 next nodes below
    exact (left.alt (ihb bounded.2 next _ (below.trans_le left.grows))).congr
      fun w i k _ => Regex.matches_alt_iff.symm
  | rep r min max ih =>
    obtain ⟨innerBounded, ordered⟩ := bounded
    have copy := ih innerBounded
    rw [compileTo_rep]
    cases max with
    | none =>
      have loop := FragmentOf.star below (copy _ _ (by simp))
      refine (required_fragment copy loop min).congr fun w i k _ => ?_
      rw [Regex.matches_rep_iff]
      constructor
      · rintro ⟨j, required, n, more⟩
        exact ⟨min + n, by omega, (fun _ bound => nomatch bound), required.append more⟩
      · rintro ⟨n, least, -, copies⟩
        obtain ⟨j, required, more⟩ := Regex.copies_add_iff.mp
          (show Regex.Copies w r (min + (n - min)) i k by rw [Nat.add_sub_cancel' least]; exact copies)
        exact ⟨j, required, _, more⟩
    | some m =>
      have bound := ordered m rfl
      refine (required_fragment copy (optional_fragment copy below (m - min)) min).congr
        fun w i k _ => ?_
      rw [Regex.matches_rep_iff]
      constructor
      · rintro ⟨j, required, n, few, more⟩
        refine ⟨min + n, by omega, fun top same => ?_, required.append more⟩
        cases same
        omega
      · rintro ⟨n, least, most, copies⟩
        obtain ⟨j, required, more⟩ := Regex.copies_add_iff.mp
          (show Regex.Copies w r (min + (n - min)) i k by rw [Nat.add_sub_cancel' least]; exact copies)
        exact ⟨j, required, _, by have := most m rfl; omega, more⟩

theorem compile_eq_compileTo (re : Regex) :
    compile re = ⟨(compileTo re 0 #[.accept]).2, (compileTo re 0 #[.accept]).1⟩ :=
  rfl

/-- The automaton of a bounded expression is its fragment after one accepting node. -/
theorem compile_fragment (re : Regex) (bounded : re.Bounded) :
    Fragment re 0 #[.accept] (compile re).start (compile re).nodes := by
  rw [compile_eq_compileTo]
  exact compileTo_fragment re bounded 0 #[.accept] (by decide)

end Automaton

end FormIntegrity.Pattern
