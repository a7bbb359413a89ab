import FormIntegrity.Unicode.CaseFold

/-!
# Character classes

A character class is a set of code points kept as ascending, disjoint, non-adjacent inclusive
ranges. Every operation returns ranges in that canonical form, so two classes with the same members
have the same ranges. Complements are taken within the code space `0 .. 0x10FFFF`, or within the
octets `0 .. 0xFF` for patterns that do not use Unicode.
-/

namespace FormIntegrity.Pattern

/-- A set of code points as canonical inclusive ranges. -/
structure CharClass where
  ranges : List (Nat × Nat)
  deriving DecidableEq, Repr, Inhabited

namespace CharClass

/-- The greatest code point. -/
def maxCode : Nat := 0x10FFFF

/-- Merges ranges sorted by their starts, joining overlapping and adjacent ones. -/
def mergeSorted : List (Nat × Nat) → List (Nat × Nat)
  | (a, b) :: (c, d) :: rest =>
    if c ≤ b + 1 then mergeSorted ((a, max b d) :: rest) else (a, b) :: mergeSorted ((c, d) :: rest)
  | rs => rs
termination_by rs => rs.length

/-- Inserts a range before the first range that does not start below it. -/
def insertByStart (r : Nat × Nat) : List (Nat × Nat) → List (Nat × Nat)
  | [] => [r]
  | s :: rest => if r.1 ≤ s.1 then r :: s :: rest else s :: insertByStart r rest

/-- Sorts ranges by their starts, keeping the order of ranges with equal starts. -/
def sortByStart (rs : List (Nat × Nat)) : List (Nat × Nat) :=
  rs.foldr insertByStart []

/-- The canonical form of any list of inclusive ranges; empty ranges are dropped. -/
def normalize (rs : List (Nat × Nat)) : CharClass :=
  ⟨mergeSorted (sortByStart (rs.filter fun (lo, hi) => lo ≤ hi))⟩

/-- The class with no member. -/
def empty : CharClass := ⟨[]⟩

/-- The class of the code points `lo .. hi`. -/
def range (lo hi : Nat) : CharClass := normalize [(lo, hi)]

/-- The class of one code point. -/
def single (c : Nat) : CharClass := ⟨[(c, c)]⟩

/-- The class of the characters of a list. -/
def ofChars (cs : List Char) : CharClass := normalize (cs.map fun c => (c.toNat, c.toNat))

/-- Whether a code point is a member. -/
def contains (cls : CharClass) (c : Nat) : Bool :=
  cls.ranges.any fun (lo, hi) => lo ≤ c && c ≤ hi

/-- Members of either class. -/
def union (a b : CharClass) : CharClass := normalize (a.ranges ++ b.ranges)

/-- The gaps between canonical ranges, from `start` up to `top`. -/
def gaps (top : Nat) : Nat → List (Nat × Nat) → List (Nat × Nat)
  | start, [] => if start ≤ top then [(start, top)] else []
  | start, (lo, hi) :: rest =>
    (if start < lo then [(start, lo - 1)] else []) ++ gaps top (hi + 1) rest

/-- The code points up to `top` that are not members. -/
def complementUpTo (top : Nat) (cls : CharClass) : CharClass :=
  ⟨gaps top 0 cls.ranges⟩

/-- The code points that are not members. -/
def complement (cls : CharClass) : CharClass := complementUpTo maxCode cls

/-- Members of both classes. -/
def inter (a b : CharClass) : CharClass := complement (union (complement a) (complement b))

/-- Members of the first class that are not members of the second. -/
def diff (a b : CharClass) : CharClass := inter a (complement b)

/-- Members of exactly one of the classes. -/
def symmDiff (a b : CharClass) : CharClass := diff (union a b) (inter a b)

/-- Whether every member is an ASCII character. -/
def isAscii (cls : CharClass) : Bool :=
  cls.ranges.all fun (_, hi) => hi ≤ 0x7F

/-- The class with every member's simple case variants added. -/
def caseFold (cls : CharClass) : CharClass :=
  let extra := cls.ranges.flatMap fun (lo, hi) => Unicode.caseVariantsIn lo hi
  union cls (normalize (extra.map fun c => (c, c)))

/-- The ASCII letters of a range, in the other case. -/
def asciiSwapped (lo hi : Nat) : List (Nat × Nat) :=
  [(max lo 0x41, min hi 0x5A), (max lo 0x61, min hi 0x7A)].filterMap fun (a, b) =>
    if a ≤ b then some (if a < 0x61 then (a + 32, b + 32) else (a - 32, b - 32)) else none

/-- The class with the other case of every ASCII letter added. -/
def asciiCaseFold (cls : CharClass) : CharClass :=
  union cls (normalize (cls.ranges.flatMap fun (lo, hi) => asciiSwapped lo hi))

end CharClass

end FormIntegrity.Pattern
