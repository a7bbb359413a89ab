import FormIntegrity.Pattern.Tree
import FormIntegrity.Pattern.Octets
import Std.Data.TreeMap

/-!
# Program size

A pattern is refused when the automata compiled from its tree would take too much memory. Two
automata are compiled, one that reads the text forwards and one that reads it backwards, and each
must fit in `memoryLimit` bytes. This module counts what each takes, state by state, in the order
the states are made.

* Every state takes `stateBytes`. A state with several transitions takes `transitionBytes` more
  for each, and a branching state takes `targetBytes` more for each target it is given.
* A literal takes one state per UTF-8 octet, an assertion and the empty tree one state each.
* An ASCII class takes an end state and one state with a transition per range. A larger class
  takes the states of a small automaton over its UTF-8 sequences. Forwards, the sequences are
  added to a trie whose finished nodes are looked up in a cache of 10000 slots, by an FNV-1a hash
  of their transitions, so that equal nodes are made once. Backwards, each octet range is made once
  per state it leads to, through a cache of 1000 slots, and a branching state leads to every
  sequence.
* A capture group takes a state before and a state after its tree, in the forward automaton only.
* Concatenations, alternations and repetitions join their parts with branching and empty states as
  the functions below spell out; an alternation of literals only is a trie of their octets.
* Around the tree come a state that accepts and, unless every match is anchored at the start
  (forwards) or at the end (backwards), a loop over any octet in front.

A cache slot holds one entry, so two keys with the same slot evict each other, and the hashes
cover state numbers: the count depends on the order in which the states are numbered, and this
module numbers every state as it is made.

Counting stops as soon as the limit is passed. Every state takes at least `stateBytes`, so a tree
such as a repetition `{4294967295}` is refused after at most `memoryLimit / stateBytes` states.
-/

namespace FormIntegrity.Pattern.Size

/-- The bytes every state takes. -/
def stateBytes : Nat := 32

/-- The bytes of each transition of a state with several. -/
def transitionBytes : Nat := 8

/-- The bytes of each target of a branching state. -/
def targetBytes : Nat := 4

/-- The most bytes an automaton may take. -/
def memoryLimit : Nat := 10 * 1024 * 1024

/-- The slots of the forward cache of class nodes. -/
def forwardSlots : Nat := 10000

/-- The slots of the backward cache of octet ranges. -/
def backwardSlots : Nat := 1000

/-- The states made so far and the bytes they take beyond `stateBytes` each. -/
structure Count where
  states : Nat := 0
  extra : Nat := 0
  deriving Inhabited

/-- The bytes the states counted take. -/
def Count.bytes (c : Count) : Nat := stateBytes * c.states + c.extra

/-- A count, unless it is past the limit. -/
def within (c : Count) : Option Count :=
  if c.bytes ≤ memoryLimit then some c else none

/-- Gives states made before `n` more bytes. -/
def grow (n : Nat) (c : Count) : Option Count :=
  within { c with extra := c.extra + n }

/-- Makes a state taking `n` bytes beyond `stateBytes`, and gives its number. -/
def make (n : Nat) (c : Count) : Option (Count × Nat) :=
  (within ⟨c.states + 1, c.extra + n⟩).map (·, c.states)

/-- Makes `k` states taking no extra bytes. -/
def makeMany (k : Nat) (c : Count) : Option Count :=
  within { c with states := c.states + k }

/-- Links the last state of a part to the state that follows it: one more target when that state
branches. -/
def link (branches : Bool) (c : Count) : Option Count :=
  if branches then grow targetBytes c else some c

/-- A part of an automaton being counted: from a count, the count once the part is made, and
whether its last state branches. -/
abbrev Part := Count → Option (Count × Bool)

/-- A part of one state that does not branch. -/
def single : Part := fun c => (make 0 c).map fun (c, _) => (c, false)

/-- Two parts in a row. -/
def andThen (first second : Part) : Part := fun c => do
  let (c, b1) ← first c
  let (c, b2) ← second c
  let c ← link b1 c
  pure (c, b2)

/-! ## Classes -/

/-- The FNV-1a hash of a list of numbers, each taken as a 64-bit word. -/
def fnv (values : List Nat) : Nat :=
  (values.foldl (fun (h : UInt64) v => (h ^^^ v.toUInt64) * 1099511628211) 14695981039346656037).toNat

/-- A transition of a class node: an octet range and the state it leads to. -/
abbrev Transition := Nat × Nat × Nat

/-- A node of the trie of a class's sequences that is not made yet: its finished transitions, and
the octet range of its last transition while the state it leads to is not known. -/
structure TrieNode where
  done : Array Transition := #[]
  pending : Option OctetRange := none
  deriving Inhabited

/-- The transitions of a node whose pending transition leads to `next`. -/
def TrieNode.close (n : TrieNode) (next : Nat) : Array Transition :=
  match n.pending with
  | some (a, b) => n.done.push (a, b, next)
  | none => n.done

/-- The forward compilation of a class: the count, the end state, the path of nodes not made yet
from the root, and the cache of made nodes by slot. -/
structure Trie where
  count : Count
  target : Nat
  path : Array TrieNode
  cache : Std.TreeMap Nat (Array Transition × Nat)

/-- The state of a node's transitions: the cached one when its slot holds them, else a new one. -/
def Trie.makeNode (t : Trie) (trans : Array Transition) : Option (Trie × Nat) :=
  let slot := fnv (trans.toList.flatMap fun (a, b, n) => [a, b, n]) % forwardSlots
  let cached := match t.cache.get? slot with
    | some (key, id) => if key == trans then some id else none
    | none => none
  match cached with
  | some id => some (t, id)
  | none =>
    (make (transitionBytes * trans.size) t.count).map fun (c, id) =>
      ({ t with count := c, cache := t.cache.insert slot (trans, id) }, id)

/-- Makes the nodes of the path below depth `depth`, deepest first, each leading to the state made
before it, and points the pending transition of the node at `depth` to the last; `fuel` bounds the
nodes made. -/
def Trie.closeFrom (depth : Nat) : Nat → Trie → Nat → Option Trie
  | fuel + 1, t, next =>
    if depth + 1 < t.path.size then
      let node := t.path.back?.getD {}
      match { t with path := t.path.pop }.makeNode (node.close next) with
      | none => none
      | some (t, id) => closeFrom depth fuel t id
    else some { t with path := t.path.modify (t.path.size - 1) fun n => ⟨n.close next, none⟩ }
  | 0, t, next =>
    some { t with path := t.path.modify (t.path.size - 1) fun n => ⟨n.close next, none⟩ }

/-- How many ranges at the front of a sequence the pending transitions of the path already hold. -/
def sharedDepth (path : Array TrieNode) (seq : List OctetRange) : Nat :=
  go 0 seq
where
  /-- The depth reached so far is `i`. -/
  go (i : Nat) : List OctetRange → Nat
    | [] => i
    | r :: rest => if (path[i]?.bind (·.pending)) == some r then go (i + 1) rest else i

/-- Adds a sequence to the trie: makes the nodes below the part it shares, then extends the path
with its other ranges. -/
def Trie.add (t : Trie) (seq : List OctetRange) : Option Trie := do
  let depth := sharedDepth t.path seq
  let t ← t.closeFrom depth t.path.size t.target
  match seq.drop depth with
  | [] => pure t
  | r :: more =>
    let path := t.path.modify (t.path.size - 1) fun n => { n with pending := some r }
    pure { t with path := more.foldl (fun p r => p.push ⟨#[], some r⟩) path }

/-- The UTF-8 sequences of a class, range by range. -/
def classSequences (cls : CharClass) : List (List OctetRange) :=
  cls.ranges.flatMap fun (lo, hi) => utf8Sequences lo hi

/-- The forward automaton of a class beyond ASCII: an end state, then the trie of its sequences. -/
def forwardClass (cls : CharClass) : Part := fun c => do
  let (c, target) ← make 0 c
  let t : Trie := ⟨c, target, #[{}], {}⟩
  let t ← (classSequences cls).foldlM Trie.add t
  let t ← t.closeFrom 0 t.path.size t.target
  let root := (t.path.back?.getD {}).done
  let (t, _) ← { t with path := t.path.pop }.makeNode root
  pure (t.count, false)

/-- The backward automaton of a class beyond ASCII: a branching state and an end state, then for
every sequence, read from its end state backwards, a state per octet range unless the cache holds
one for that range and the state it leads to. -/
def backwardClass (cls : CharClass) : Part := fun c => do
  let (c, _) ← make 0 c
  let (c, altEnd) ← make 0 c
  let step (acc : Count × Std.TreeMap Nat ((Nat × Nat × Nat) × Nat) × Nat) (r : OctetRange) :
      Option (Count × Std.TreeMap Nat ((Nat × Nat × Nat) × Nat) × Nat) :=
    let (c, cache, finish) := acc
    let key := (finish, r.1, r.2)
    let slot := fnv [finish, r.1, r.2] % backwardSlots
    let cached := match cache.get? slot with
      | some (k, id) => if k == key then some id else none
      | none => none
    match cached with
    | some id => some (c, cache, id)
    | none => (make 0 c).map fun (c, id) => (c, cache.insert slot (key, id), id)
  let (c, _) ← (classSequences cls).foldlM
    (fun (acc : Count × Std.TreeMap Nat ((Nat × Nat × Nat) × Nat)) seq => do
      let (c, cache, _) ← seq.foldlM step (acc.1, acc.2, altEnd)
      let c ← grow targetBytes c
      pure (c, cache))
    (c, {})
  pure (c, false)

/-- The automaton of a class: two states for an ASCII class or a class of octets, the larger
automata otherwise. -/
def classPart (backward : Bool) (cls : CharClass) (octets : Bool) : Part := fun c =>
  if octets || cls.isAscii then do
    let (c, _) ← make 0 c
    let (c, _) ← make (transitionBytes * cls.ranges.length) c
    pure (c, false)
  else if backward then backwardClass cls c
  else forwardClass cls c

/-! ## Alternations of literals -/

/-- A node of the trie of literals: its transitions by octet, and its chunks. A chunk ends where a
literal ends at the node; the transitions after the last chunk form the open chunk, the only one
new transitions join, so a literal that ends earlier keeps its preference. -/
structure LiteralNode where
  moves : Array (Nat × Nat) := #[]
  chunks : Array (Nat × Nat) := #[]
  deriving Inhabited

/-- Where the open chunk of a node starts. -/
def LiteralNode.openStart (n : LiteralNode) : Nat :=
  (n.chunks.back?.map (·.2)).getD 0

/-- Marks a node as the end of a literal, closing its open chunk. -/
def LiteralNode.addMatch (n : LiteralNode) : LiteralNode :=
  if n.moves.isEmpty && !n.chunks.isEmpty then n
  else { n with chunks := n.chunks.push (n.openStart, n.moves.size) }

/-- The chunks of a node in order, the open one last. -/
def LiteralNode.chunkList (n : LiteralNode) : List (List (Nat × Nat)) :=
  (n.chunks.toList.map fun (a, b) => (n.moves.extract a b).toList) ++
    [(n.moves.extract n.openStart n.moves.size).toList]

/-- The node an octet leads to from a node through its open chunk, made when missing. -/
def followOctet (nodes : Array LiteralNode) (src octet : Nat) : Array LiteralNode × Nat :=
  let n := nodes[src]?.getD {}
  let start := n.openStart
  let openMoves := (n.moves.extract start n.moves.size).toList
  match openMoves.find? (·.1 == octet) with
  | some (_, next) => (nodes, next)
  | none =>
    let next := nodes.size
    let pos := start + (openMoves.filter (·.1 < octet)).length
    let moves := (n.moves.toList.take pos ++ [(octet, next)] ++ n.moves.toList.drop pos).toArray
    ((nodes.modify src fun m => { m with moves := moves }).push {}, next)

/-- Adds a literal's octets to the trie. -/
def addLiteral (nodes : Array LiteralNode) (octets : List Nat) : Array LiteralNode :=
  let (nodes, last) := octets.foldl (fun (acc : Array LiteralNode × Nat) b => followOctet acc.1 acc.2 b)
    (nodes, 0)
  nodes.modify last LiteralNode.addMatch

/-- Counts the states of the trie from a node: per chunk, a state for its transitions (a sparse
state for several), with the end state between chunks; then a branching state over them. A
transition to a node without transitions leads to the end state. `fuel` bounds the depth. -/
def literalNodes (nodes : Array LiteralNode) : Nat → Nat → Count → Option Count
  | 0, _, _ => none
  | fuel + 1, n, c => do
    let node := nodes[n]?.getD {}
    let (c, targets, _) ← node.chunkList.foldlM
      (fun (acc : Count × Nat × Bool) chunk => do
        let (c, targets, later) := acc
        let targets := if later then targets + 1 else targets
        let c ← chunk.foldlM
          (fun c (_, next) =>
            if (nodes[next]?.map (·.moves.isEmpty)).getD true then some c
            else literalNodes nodes fuel next c)
          c
        if chunk.isEmpty then pure (c, targets, true)
        else do
          let (c, _) ← make (if chunk.length = 1 then 0 else transitionBytes * chunk.length) c
          pure (c, targets + 1, true))
      (c, 0, false)
    let (c, _) ← make (targetBytes * targets) c
    pure c

/-- The automaton of an alternation of literals: an end state, then the trie of their octets,
each literal read backwards in the backward automaton. -/
def literalsPart (backward : Bool) (literals : List (List Char)) : Part := fun c => do
  let octets := literals.map fun cs => cs.flatMap fun ch => utf8Octets ch.toNat
  let octets := if backward then octets.map List.reverse else octets
  let nodes := octets.foldl addLiteral #[{}]
  let (c, _) ← make 0 c
  let c ← literalNodes nodes (nodes.size + 1) 0 c
  pure (c, false)

/-- The characters of branches that are all literals. -/
def literals? (branches : List Tree) : Option (List (List Char)) :=
  branches.mapM fun
    | .literal cs => some cs
    | _ => none

/-! ## Repetitions and alternations -/

/-- Copies of a part in a row, after a part whose last state branches when `b` says so. -/
def copies (p : Part) : Nat → Bool → Count → Option (Count × Bool)
  | 0, b, c => some (c, b)
  | n + 1, b, c =>
    match p c with
    | none => none
    | some (c, b') =>
      match link b c with
      | none => none
      | some c => copies p n b' c

/-- Exactly `n` copies of a part; one empty state for none. -/
def exactly (p : Part) (n : Nat) : Part := fun c =>
  match n with
  | 0 => single c
  | k + 1 =>
    match p c with
    | none => none
    | some (c, b) => copies p k b c

/-- Optional copies of a part, each behind a branching state that may skip to the end. -/
def optionalCopies (p : Part) : Nat → Bool → Count → Option (Count × Bool)
  | 0, b, c => some (c, b)
  | n + 1, b, c =>
    match make 0 c with
    | none => none
    | some (c, _) =>
      match p c with
      | none => none
      | some (c, b') =>
        match link b c with
        | none => none
        | some c =>
          match grow (2 * targetBytes) c with
          | none => none
          | some c => optionalCopies p n b' c

/-- The automaton of a repetition of a part, `needsInput` saying whether every match of the part
reads something. -/
def repetitionPart (p : Part) (needsInput : Bool) (min : Nat) (max : Option Nat) : Part :=
  fun c =>
    match min, max with
    | 0, some 1 => do
      let (c, _) ← make 0 c
      let (c, b) ← p c
      let (c, _) ← make 0 c
      let c ← grow (2 * targetBytes) c
      let c ← link b c
      pure (c, false)
    | 0, none =>
      if needsInput then do
        let (c, _) ← make 0 c
        let (c, b) ← p c
        let c ← grow targetBytes c
        let c ← link b c
        pure (c, true)
      else do
        let (c, b) ← p c
        let c ← makeMany 3 c
        let c ← link b c
        let c ← grow (4 * targetBytes) c
        pure (c, false)
    | 1, none => do
      let (c, b) ← p c
      let (c, _) ← make 0 c
      let c ← link b c
      let c ← grow targetBytes c
      pure (c, true)
    | k + 2, none => do
      let (c, b) ← exactly p (k + 1) c
      let (c, b') ← p c
      let (c, _) ← make 0 c
      let c ← link b c
      let c ← link b' c
      let c ← grow targetBytes c
      pure (c, true)
    | _, some m =>
      if min = m then exactly p min c
      else do
        let (c, b) ← exactly p min c
        let (c, _) ← make 0 c
        let (c, b) ← optionalCopies p (m - min) b c
        let c ← link b c
        pure (c, false)

/-- The automaton of an alternation: its first two branches, a branching state and an end state,
then the other branches. -/
def alternationPart (ps : List Part) : Part := fun c =>
  match ps with
  | p1 :: p2 :: rest => do
    let (c, b1) ← p1 c
    let (c, b2) ← p2 c
    let c ← makeMany 2 c
    let c ← grow (2 * targetBytes) c
    let c ← link b1 c
    let c ← link b2 c
    let c ← rest.foldlM (fun c p => do
      let (c, b) ← p c
      let c ← grow targetBytes c
      link b c) c
    pure (c, false)
  | [p] => p c
  | [] => single c

/-- The automaton of a capture group around a part. -/
def capturePart (p : Part) : Part := fun c => do
  let (c, _) ← make 0 c
  let (c, b) ← p c
  let (c, _) ← make 0 c
  let c ← link b c
  pure (c, false)

mutual

/-- The part of a tree in the forward or the backward automaton. -/
def part (backward : Bool) : Tree → Part
  | .empty => single
  | .literal cs => fun c =>
    (makeMany (cs.foldl (fun n ch => n + Tree.utf8Length ch.toNat) 0) c).map (·, false)
  | .cls cls octets => classPart backward cls octets
  | .look _ => single
  | .rep t min max _ =>
    repetitionPart (part backward t) ((t.minLength.map fun n => decide (0 < n)).getD false) min max
  | .capture _ t => if backward then part backward t else capturePart (part backward t)
  | .cat items => sequencePart backward items
  | .alt branches =>
    match literals? branches with
    | some lits => literalsPart backward lits
    | none => alternationPart (partList backward branches)

/-- The part of the items of a concatenation, made from the last to the first backwards. -/
def sequencePart (backward : Bool) : List Tree → Part
  | [] => single
  | [t] => part backward t
  | t :: rest =>
    if backward then andThen (sequencePart backward rest) (part backward t)
    else andThen (part backward t) (sequencePart backward rest)

/-- The parts of a list of trees. -/
def partList (backward : Bool) : List Tree → List Part
  | [] => []
  | t :: rest => part backward t :: partList backward rest

end

/-- The count of a whole automaton: the loop in front unless the tree is anchored on the side the
automaton starts from, the tree (in a capture group forwards), and the accepting state. -/
def automaton (backward : Bool) (t : Tree) : Option Count := do
  let anchored := if backward then t.endsAnchored else t.startsAnchored
  let c ← if anchored then (make 0 {}).map (·.1) else do
    let c ← makeMany 2 {}
    let (c, _) ← make transitionBytes c
    grow targetBytes c
  let (c, b) ← (if backward then part true t else capturePart (part false t)) c
  let (c, _) ← make 0 c
  link b c

/-- Whether both automata of a tree fit in the limit. -/
def fits (t : Tree) : Bool :=
  (automaton false t).isSome && (automaton true t).isSome

end FormIntegrity.Pattern.Size
