import FormIntegrity.Text.Hex

/-!
# Code point tables

The Unicode data this library needs is kept as text: hexadecimal numbers and names separated by
blanks. This module reads such text and answers membership questions on it by binary search.

A set of code points is kept as an inversion list: ascending boundaries, where a code point belongs
to the set when an odd number of boundaries lie at or below it. A map from code points to values is
kept as ascending starts with the value that holds from each start up to the next.
-/

namespace FormIntegrity.Unicode

/-- Whether a character separates words of a table. -/
def isSeparator (c : Char) : Bool :=
  c = ' ' || c = '\n'

/-- The words of a list of characters, split at separators, empty words dropped. -/
def splitWords (cs : List Char) : List (List Char) :=
  let (done, cur) := cs.foldl
    (fun (done, cur) c =>
      if isSeparator c then (if cur.isEmpty then (done, []) else (cur.reverse :: done, []))
      else (done, c :: cur))
    ([], [])
  (if cur.isEmpty then done else cur.reverse :: done).reverse

/-- The words of a text. -/
def words (text : String) : List String :=
  (splitWords text.toList).map String.ofList

/-- The groups of words of a text whose groups end at `;`. -/
def groups (text : String) : List (List String) :=
  let (done, cur) := text.toList.foldl
    (fun (done, cur) c => if c = ';' then (cur.reverse :: done, []) else (done, c :: cur))
    ([], [])
  ((cur.reverse :: done).reverse.map fun g => (splitWords g).map String.ofList).filter
    (!·.isEmpty)

/-- The value of a hexadecimal numeral; zero when it has no digits. -/
def hexValue (word : String) : Nat :=
  word.toList.foldl (fun acc c => acc * 16 + (Hex.digitValue? c).getD 0) 0

/-- How many of the ascending `bounds` are at or below `c`. -/
def countAtMost (bounds : Array Nat) (c : Nat) : Nat :=
  go 0 bounds.size
where
  /-- The answer lies in `lo .. hi`. -/
  go (lo hi : Nat) : Nat :=
    if lo < hi then
      let mid := (lo + hi) / 2
      if (bounds[mid]?.getD 0) ≤ c then go (mid + 1) hi else go lo mid
    else lo
  termination_by hi - lo

/-- A set of code points as an inversion list. -/
structure CodeSet where
  bounds : Array Nat
  deriving Inhabited

namespace CodeSet

/-- Reads an inversion list written as hexadecimal words. -/
def ofText (text : String) : CodeSet :=
  ⟨((words text).map hexValue).toArray⟩

/-- Whether a code point belongs to the set. -/
def contains (s : CodeSet) (c : Nat) : Bool :=
  countAtMost s.bounds c % 2 == 1

/-- The inclusive ranges of the set, in ascending order. -/
def ranges (s : CodeSet) : List (Nat × Nat) :=
  go s.bounds.toList
where
  /-- Pairs up the boundaries. -/
  go : List Nat → List (Nat × Nat)
    | lo :: hi :: rest => (lo, hi - 1) :: go rest
    | [lo] => [(lo, 0x10FFFF)]
    | [] => []

end CodeSet

/-- A map from code points to values, as the starts of runs of one value. -/
structure CodeMap (α : Type) where
  starts : Array Nat
  values : Array α
  deriving Inhabited

namespace CodeMap

variable {α : Type}

/-- Reads pairs of a hexadecimal start and a value name. -/
def ofText [Inhabited α] (text : String) (value : String → α) : CodeMap α :=
  let ws := words text
  let rec pairs : List String → List (Nat × α)
    | s :: v :: rest => (hexValue s, value v) :: pairs rest
    | _ => []
  let ps := pairs ws
  ⟨(ps.map Prod.fst).toArray, (ps.map Prod.snd).toArray⟩

/-- The value at a code point; `fallback` below the first start. -/
def get (m : CodeMap α) (fallback : α) (c : Nat) : α :=
  match countAtMost m.starts c with
  | 0 => fallback
  | k + 1 => m.values[k]?.getD fallback

/-- The inclusive ranges on which the value satisfies `p`, in ascending order. -/
def rangesWhere (m : CodeMap α) (p : α → Bool) : List (Nat × Nat) :=
  let starts := m.starts.toList
  let ends := (starts.drop 1).map (· - 1) ++ [0x10FFFF]
  ((starts.zip ends).zip m.values.toList).filterMap
    (fun ((lo, hi), v) => if p v then some (lo, hi) else none)

end CodeMap

end FormIntegrity.Unicode
