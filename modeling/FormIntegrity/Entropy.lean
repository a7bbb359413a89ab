/-!
# Entropy

Nonces, keys and random parameter names are drawn from an explicit source of entropy that each
draw advances, so that every function that draws is a plain function of the source it is given.
The source is SplitMix64: a 64-bit counter advanced by a fixed odd step, each value scrambled by
two multiply-xorshift rounds. No answer of the library depends on the values drawn, only on their
number and shape.
-/

namespace FormIntegrity

/-- A source of entropy. -/
structure Entropy where
  state : UInt64 := 0x2545F4914F6CDD1D
  deriving Inhabited

namespace Entropy

/-- The next 64-bit value and the advanced source. -/
def next (e : Entropy) : UInt64 × Entropy :=
  let s := e.state + 0x9E3779B97F4A7C15
  let z := (s ^^^ (s >>> 30)) * 0xBF58476D1CE4E5B9
  let z := (z ^^^ (z >>> 27)) * 0x94D049BB133111EB
  (z ^^^ (z >>> 31), { state := s })

/-- `count` bytes and the advanced source. -/
def bytes (e : Entropy) : Nat → List UInt8 × Entropy
  | 0 => ([], e)
  | count + 1 =>
    let (v, e) := e.next
    let (rest, e) := e.bytes count
    (v.toUInt8 :: rest, e)

/-- A draw of `count` bytes has `count` bytes. -/
theorem length_bytes (e : Entropy) (count : Nat) : (e.bytes count).1.length = count := by
  induction count generalizing e with
  | zero => rfl
  | succ n ih => simp [bytes, ih]

end Entropy

end FormIntegrity
