import FormIntegrity.Pattern.Regex

/-!
# Expression trees

The tree a pattern is read into. Unlike a `Regex` it keeps what does not change which texts match
but does change the program compiled from it: capture groups, greediness, whether a class was read
with Unicode off, and runs of characters as one literal.

Trees are built through the functions of this module, which keep them simplified:

* a concatenation has two or more items, none of them empty or itself a concatenation, and no two
  literals in a row;
* an alternation has two or more branches, none of them itself an alternation. Branches that are
  all single characters, or all classes, become one class; when the branches are all
  concatenations that begin with the same items, those items are taken out in front of the
  alternation of what follows them;
* a class has no member or at least two; a class of one character is a literal of it;
* a repetition of something that matches only the empty text repeats it at most once; a
  repetition `{0}` is the empty tree and a repetition `{1}` is its inner tree.
-/

namespace FormIntegrity.Pattern

/-- An expression tree. -/
inductive Tree where
  /-- The empty text. -/
  | empty
  /-- A run of one or more characters. -/
  | literal (cs : List Char)
  /-- One character of a class; `octets` marks a class read with Unicode off. -/
  | cls (c : CharClass) (octets : Bool)
  /-- The empty text where an assertion holds. -/
  | look (l : Look)
  /-- Between `min` and `max` texts of the inner tree; `greedy` prefers more of them. -/
  | rep (t : Tree) (min : Nat) (max : Option Nat) (greedy : Bool)
  /-- A capture group with its number. -/
  | capture (index : Nat) (t : Tree)
  /-- One text after another. -/
  | cat (items : List Tree)
  /-- Any one of the branches, the earlier preferred. -/
  | alt (branches : List Tree)
  deriving Inhabited

namespace Tree

mutual

/-- Structural equality of trees. -/
def beq : Tree → Tree → Bool
  | .empty, .empty => true
  | .literal a, .literal b => a == b
  | .cls a x, .cls b y => a == b && x == y
  | .look a, .look b => a == b
  | .rep a n m g, .rep b n' m' g' => n == n' && m == m' && g == g' && beq a b
  | .capture i a, .capture j b => i == j && beq a b
  | .cat as, .cat bs => beqList as bs
  | .alt as, .alt bs => beqList as bs
  | _, _ => false

/-- Structural equality of lists of trees. -/
def beqList : List Tree → List Tree → Bool
  | [], [] => true
  | a :: as, b :: bs => beq a b && beqList as bs
  | _, _ => false

end

instance : BEq Tree := ⟨beq⟩

mutual

/-- The number of nodes of a tree. -/
def size : Tree → Nat
  | .rep t _ _ _ => size t + 1
  | .capture _ t => size t + 1
  | .cat items => sizeList items + 1
  | .alt branches => sizeList branches + 1
  | _ => 1

/-- The number of nodes of a list of trees. -/
def sizeList : List Tree → Nat
  | [] => 0
  | t :: rest => size t + sizeList rest

end

mutual

/-- Whether a tree matches only the empty text. -/
def onlyEmpty : Tree → Bool
  | .empty => true
  | .look _ => true
  | .literal _ => false
  | .cls _ _ => false
  | .rep t _ max _ =>
    match max with
    | some m => m = 0 || onlyEmpty t
    | none => false
  | .capture _ t => onlyEmpty t
  | .cat items => allOnlyEmpty items
  | .alt branches => allOnlyEmpty branches

/-- Whether every tree of a list matches only the empty text. -/
def allOnlyEmpty : List Tree → Bool
  | [] => true
  | t :: rest => onlyEmpty t && allOnlyEmpty rest

end

/-- The number of UTF-8 octets of a code point. -/
def utf8Length (c : Nat) : Nat :=
  if c < 0x80 then 1 else if c < 0x800 then 2 else if c < 0x10000 then 3 else 4

mutual

/-- The fewest octets a match of the tree takes; `none` when it matches nothing. -/
def minLength : Tree → Option Nat
  | .empty => some 0
  | .look _ => some 0
  | .literal cs => some (cs.foldl (fun n c => n + utf8Length c.toNat) 0)
  | .cls c _ =>
    match c.ranges with
    | (lo, _) :: _ => some (utf8Length lo)
    | [] => none
  | .rep t min _ _ => (minLength t).map (· * min)
  | .capture _ t => minLength t
  | .cat items => minLengthSum items
  | .alt branches =>
    match branches with
    | [] => none
    | b :: bs => minLengthLeast (minLength b) bs

/-- The sum of the fewest octets of the items of a concatenation. -/
def minLengthSum : List Tree → Option Nat
  | [] => some 0
  | t :: rest =>
    match minLength t, minLengthSum rest with
    | some a, some b => some (a + b)
    | _, _ => none

/-- The least of `least` and the fewest octets of the branches. -/
def minLengthLeast (least : Option Nat) : List Tree → Option Nat
  | [] => least
  | t :: rest =>
    match least, minLength t with
    | some a, some b => minLengthLeast (some (Nat.min a b)) rest
    | _, _ => none

end

mutual

/-- Whether every match of the tree starts at the start of the text. -/
def startsAnchored : Tree → Bool
  | .look l => l == .textStart
  | .rep t min _ _ => min > 0 && startsAnchored t
  | .capture _ t => startsAnchored t
  | .cat items => startsAnchoredList items
  | .alt branches => allStartAnchored branches
  | _ => false

/-- Whether the items of a concatenation anchor its start: one of them does, and all before it match
only the empty text. -/
def startsAnchoredList : List Tree → Bool
  | [] => false
  | t :: rest => startsAnchored t || (onlyEmpty t && startsAnchoredList rest)

/-- Whether every branch anchors its start. -/
def allStartAnchored : List Tree → Bool
  | [] => true
  | t :: rest => startsAnchored t && allStartAnchored rest

end

mutual

/-- Whether every match of the tree ends at the end of the text. -/
def endsAnchored : Tree → Bool
  | .look l => l == .textEnd
  | .rep t min _ _ => min > 0 && endsAnchored t
  | .capture _ t => endsAnchored t
  | .cat items => endsAnchoredList items
  | .alt branches => allEndAnchored branches
  | _ => false

/-- Whether the items of a concatenation anchor its end: one of them does, and all after it match
only the empty text. -/
def endsAnchoredList : List Tree → Bool
  | [] => false
  | t :: rest => (allOnlyEmpty rest && endsAnchored t) || endsAnchoredList rest

/-- Whether every branch anchors its end. -/
def allEndAnchored : List Tree → Bool
  | [] => true
  | t :: rest => endsAnchored t && allEndAnchored rest

end

/-! ## Building simplified trees -/

/-- The tree of a class: nothing to match, a literal of its one character, or the class. -/
def ofClass (c : CharClass) (octets : Bool) : Tree :=
  match c.ranges with
  | [] => .cls CharClass.empty true
  | [(lo, hi)] => if lo = hi then .literal [Char.ofNat lo] else .cls c octets
  | _ => .cls c octets

/-- The tree that matches nothing. -/
def fail : Tree := .cls CharClass.empty true

/-- The items a tree adds to a concatenation. -/
def catItems : Tree → List Tree
  | .empty => []
  | .cat items => items
  | t => [t]

/-- The literal of the characters of literals in a row, given latest first; none for no literal. -/
def pendingLiteral : List (List Char) → List Tree
  | [] => []
  | runs => [.literal runs.reverse.flatten]

/-- Joins literals in a row into one; `pending` holds the characters of the literals just before,
latest first. -/
def joinLiterals : List (List Char) → List Tree → List Tree
  | pending, .literal cs :: rest => joinLiterals (cs :: pending) rest
  | pending, t :: rest => pendingLiteral pending ++ t :: joinLiterals [] rest
  | pending, [] => pendingLiteral pending

/-- The concatenation of trees. -/
def concat (ts : List Tree) : Tree :=
  match joinLiterals [] (ts.flatMap catItems) with
  | [] => .empty
  | [t] => t
  | items => .cat items

/-- The branches a tree adds to an alternation. -/
def altBranches : Tree → List Tree
  | .alt branches => branches
  | t => [t]

/-- The character of a literal of one character. -/
def singleChar? : Tree → Option Char
  | .literal [c] => some c
  | _ => none

/-- The class of a class. -/
def class? : Tree → Option CharClass
  | .cls c _ => some c
  | _ => none

/-- The items of a concatenation. -/
def items? : Tree → Option (List Tree)
  | .cat items => some items
  | _ => none

/-- The longest common prefix of two lists of trees. -/
def commonPrefix : List Tree → List Tree → List Tree
  | a :: as, b :: bs => if a == b then a :: commonPrefix as bs else []
  | _, _ => []

/-- The one class that branches come to when they are all single characters or all classes. -/
def mergeBranches? (branches : List Tree) : Option Tree :=
  match branches.mapM singleChar? with
  | some cs => some (ofClass (CharClass.ofChars cs) false)
  | none =>
    (branches.mapM class?).map fun cls => ofClass (cls.foldl CharClass.union CharClass.empty) false

/-- The items that branches which are all concatenations begin with, when there are some, and the
items of each branch after them. -/
def splitCommon? (branches : List Tree) : Option (List Tree × List (List Tree)) :=
  match branches.mapM items? with
  | some (first :: rest) =>
    let common := rest.foldl commonPrefix first
    if common.isEmpty then none
    else some (common, (first :: rest).map (·.drop common.length))
  | _ => none

/-- The alternation of branches, none of them an alternation; `fuel` bounds how often shared leading
items are taken out. -/
def alternationOf : Nat → List Tree → Tree
  | fuel, branches =>
    match branches with
    | [] => fail
    | [b] => b
    | _ =>
      match mergeBranches? branches with
      | some t => t
      | none =>
        match fuel, splitCommon? branches with
        | k + 1, some (common, rests) =>
          concat (common ++ [alternationOf k ((rests.map concat).flatMap altBranches)])
        | _, _ => .alt branches

/-- The alternation of trees. -/
def alternation (ts : List Tree) : Tree :=
  let branches := ts.flatMap altBranches
  alternationOf (sizeList branches) branches

/-- The repetition of a tree from `min` to `max` times. -/
def repetition (t : Tree) (min : Nat) (max : Option Nat) (greedy : Bool) : Tree :=
  let (min, max) :=
    if onlyEmpty t then (Nat.min min 1, some ((max.map (Nat.min · 1)).getD 1)) else (min, max)
  if min = 0 && max = some 0 then .empty
  else if min = 1 && max = some 1 then t
  else .rep t min max greedy

/-! ## Meaning -/

mutual

/-- The regular expression a tree stands for. -/
def toRegex : Tree → Regex
  | .empty => .empty
  | .literal cs => Regex.concat (cs.map fun c => .chars (.single c.toNat))
  | .cls c _ => .chars c
  | .look l => .look l
  | .rep t min max _ => .rep (toRegex t) min max
  | .capture _ t => toRegex t
  | .cat items => Regex.concat (toRegexList items)
  | .alt branches => Regex.alternation (toRegexList branches)

/-- The regular expressions of a list of trees. -/
def toRegexList : List Tree → List Regex
  | [] => []
  | t :: rest => toRegex t :: toRegexList rest

end

end Tree

end FormIntegrity.Pattern
