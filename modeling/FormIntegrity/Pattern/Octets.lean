import FormIntegrity.Pattern.CharClass

/-!
# UTF-8 sequences of a range

A range of code points is covered by a short list of sequences of octet ranges: a character lies in
the range exactly when its UTF-8 octets lie, one by one, in the ranges of one of the sequences. The
range is cut at the surrogates, which no character has, and after the largest code point of each
encoded length; then, as long as its two ends differ in an octet before the last, where the octets
after that one stop covering every continuation value. What is left has two ends that encode to the
same number of octets, and every octet position between them ranges freely, so the octets of the
two ends, paired up, give the sequence.

The pieces come out in ascending order, one sequence per piece; a range whose ends are out of order
gives none.
-/

namespace FormIntegrity.Pattern

/-- An inclusive range of octets. -/
abbrev OctetRange := Nat × Nat

/-- The UTF-8 octets of a code point. -/
def utf8Octets (c : Nat) : List Nat :=
  (String.utf8EncodeChar (Char.ofNat c)).map (·.toNat)

/-- The largest code points of one, two and three octets. -/
def lengthBounds : List Nat := [0x7F, 0x7FF, 0xFFFF]

/-- The ranges a piece is cut into at the first length bound strictly inside it. -/
def cutAtLength (lo hi : Nat) : Option (List (Nat × Nat)) :=
  (lengthBounds.find? fun m => lo ≤ m && m < hi).map fun m => [(lo, m), (m + 1, hi)]

/-- The ranges a piece is cut into where, at the first continuation octet in which its ends differ
in an earlier octet, the octets stop covering every value. -/
def cutAtContinuation (lo hi : Nat) : Option (List (Nat × Nat)) :=
  let cut (i : Nat) : Option (List (Nat × Nat)) :=
    let w := Nat.pow 2 (6 * i)
    if lo / w = hi / w then none
    else if lo % w ≠ 0 then some [(lo, lo - lo % w + (w - 1)), (lo - lo % w + w, hi)]
    else if hi % w ≠ w - 1 then some [(lo, hi - hi % w - 1), (hi - hi % w, hi)]
    else none
  (cut 1).orElse fun _ => (cut 2).orElse fun _ => cut 3

/-- One step on the pieces still to do, the next first: the sequence the next piece gives, if it
gives one now, and the pieces left. -/
def sequenceStep : List (Nat × Nat) → Option (List OctetRange) × List (Nat × Nat)
  | [] => (none, [])
  | (lo, hi) :: rest =>
    if lo < 0xE000 && hi > 0xD7FF then (none, (lo, 0xD7FF) :: (0xE000, hi) :: rest)
    else if hi < lo then (none, rest)
    else match cutAtLength lo hi with
      | some pieces => (none, pieces ++ rest)
      | none =>
        if hi ≤ 0x7F then (some [(lo, hi)], rest)
        else match cutAtContinuation lo hi with
          | some pieces => (none, pieces ++ rest)
          | none => (some ((utf8Octets lo).zip (utf8Octets hi)), rest)

/-- Runs steps until no piece is left, the sequences so far given in reverse; `fuel` bounds the
steps. -/
def sequencesLoop : Nat → List (Nat × Nat) → List (List OctetRange) → List (List OctetRange)
  | 0, _, acc => acc.reverse
  | _, [], acc => acc.reverse
  | fuel + 1, pieces, acc =>
    match sequenceStep pieces with
    | (some seq, rest) => sequencesLoop fuel rest (seq :: acc)
    | (none, rest) => sequencesLoop fuel rest acc

/-- The UTF-8 sequences of the code points `lo .. hi`. Every step cuts a piece in two or finishes
one, and a range ends in at most a few dozen pieces, so 256 steps are more than enough. -/
def utf8Sequences (lo hi : Nat) : List (List OctetRange) :=
  sequencesLoop 256 [(lo, hi)] []

end FormIntegrity.Pattern
