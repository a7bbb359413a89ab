import FormIntegrity.Pattern.Regex

/-!
# Automata and search

A `Regex` is compiled to a nondeterministic automaton whose states read one character of a class,
test an assertion, branch, or accept. A search runs all threads of the automaton in step over the
text: at every position a new thread starts, the threads close over the moves that read nothing
(assertions are judged on the characters before and after the position), and the text holds a match
as soon as a thread accepts. Each position costs at most one visit per state, so a search takes time
proportional to the text's length times the automaton's size.
-/

namespace FormIntegrity.Pattern

/-- A state of an automaton; targets are indices of states. -/
inductive Node where
  /-- Reads a character in one of the ranges. -/
  | chars (ranges : Array (Nat × Nat)) (next : Nat)
  /-- Moves on when the assertion holds. -/
  | look (l : Look) (next : Nat)
  /-- Moves to both targets. -/
  | split (a b : Nat)
  /-- Accepts. -/
  | accept
  deriving Inhabited

/-- Whether a code point lies in ascending disjoint ranges, by binary search. -/
def inRanges (ranges : Array (Nat × Nat)) (c : Nat) : Bool :=
  go 0 ranges.size
where
  /-- The range containing `c`, if any, lies in `lo .. hi`. -/
  go (lo hi : Nat) : Bool :=
    if lo < hi then
      let mid := (lo + hi) / 2
      let (a, b) := ranges[mid]?.getD (1, 0)
      if c < a then go lo mid
      else if b < c then go (mid + 1) hi
      else true
    else false
  termination_by hi - lo

/-- An automaton and its start state. -/
structure Automaton where
  nodes : Array Node
  start : Nat
  deriving Inhabited

namespace Automaton

/-- Adds a state and returns its index. -/
def addNode (nodes : Array Node) (n : Node) : Nat × Array Node :=
  (nodes.size, nodes.push n)

/-- Compiles an expression whose matches continue at state `next`; returns its entry state. -/
def compileTo : Regex → Nat → Array Node → Nat × Array Node
  | .empty, next, nodes => (next, nodes)
  | .chars cls, next, nodes => addNode nodes (.chars cls.ranges.toArray next)
  | .look l, next, nodes => addNode nodes (.look l next)
  | .cat a b, next, nodes =>
    let (eb, nodes) := compileTo b next nodes
    compileTo a eb nodes
  | .alt a b, next, nodes =>
    let (ea, nodes) := compileTo a next nodes
    let (eb, nodes) := compileTo b next nodes
    addNode nodes (.split ea eb)
  | .rep r min max, next, nodes =>
    -- the part after the required copies: optional copies, or a loop
    let (tail, nodes) := match max with
      | some m =>
        (List.range (m - min)).foldl
          (fun (acc : Nat × Array Node) _ =>
            let (e, nodes) := compileTo r acc.1 acc.2
            addNode nodes (.split e next))
          (next, nodes)
      | none =>
        let (loop, nodes) := addNode nodes .accept
        let (body, nodes) := compileTo r loop nodes
        (loop, nodes.setIfInBounds loop (.split body next))
    (List.range min).foldl (fun (acc : Nat × Array Node) _ => compileTo r acc.1 acc.2) (tail, nodes)

/-- The automaton of an expression. -/
def compile (re : Regex) : Automaton :=
  let (acceptAt, nodes) := addNode #[] .accept
  let (start, nodes) := compileTo re acceptAt nodes
  ⟨nodes, start⟩

/-- The states reachable from `todo` by moves that read nothing, at a position between `prev` and
`next`; `seen` marks the states found so far. Every turn either drops a state or marks a new one,
which adds at most two, so `fuel` at three times the number of states plus the length of `todo`
suffices. -/
def closure (a : Automaton) (prev next : Option Char) :
    Nat → List Nat → Array Bool → List Nat → List Nat × Array Bool
  | 0, _, seen, found => (found, seen)
  | _, [], seen, found => (found, seen)
  | fuel + 1, s :: todo, seen, found =>
    if seen[s]?.getD true then closure a prev next fuel todo seen found
    else
      let seen := seen.setIfInBounds s true
      match a.nodes[s]? with
      | some (.split x y) => closure a prev next fuel (x :: y :: todo) seen found
      | some (.look l n) =>
        if l.holds prev next then closure a prev next fuel (n :: todo) seen found
        else closure a prev next fuel todo seen found
      | some _ => closure a prev next fuel todo seen (s :: found)
      | none => closure a prev next fuel todo seen found

/-- The closure of a set of threads at one position. -/
def settle (a : Automaton) (prev next : Option Char) (threads : List Nat) : List Nat :=
  let todo := a.start :: threads
  (closure a prev next (3 * a.nodes.size + todo.length + 1) todo
    (Array.replicate a.nodes.size false) []).1

/-- Whether a settled set of threads holds an accepting state. -/
def accepts (a : Automaton) (threads : List Nat) : Bool :=
  threads.any fun (s : Nat) => match a.nodes[s]? with
    | some .accept => true
    | _ => false

/-- The threads after reading `c`. -/
def advance (a : Automaton) (c : Char) (threads : List Nat) : List Nat :=
  threads.filterMap fun (s : Nat) => match a.nodes[s]? with
    | some (.chars rs n) => if inRanges rs c.toNat then some n else none
    | _ => none

/-- Runs the threads over the rest of the text; `prev` is the character before it. -/
def run (a : Automaton) : Option Char → List Nat → List Char → Bool
  | prev, threads, [] => a.accepts (a.settle prev none threads)
  | prev, threads, c :: rest =>
    let now := a.settle prev (some c) threads
    if a.accepts now then true else a.run (some c) (a.advance c now) rest

/-- Whether some part of the text matches. -/
def search (a : Automaton) (text : String) : Bool :=
  a.run none [] text.toList

end Automaton

end FormIntegrity.Pattern
