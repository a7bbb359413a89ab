/-!
# Page ids

Page ids come from one 64-bit counter per guard, so they are unique across every session and every
scope cache for the first `2 ^ 64` pages; after that the counter wraps to zero.
-/

namespace FormIntegrity

/-- The source of page ids: the id the next page receives. -/
structure PageIds where
  next : UInt64 := 1
  deriving DecidableEq, Repr, Inhabited

namespace PageIds

/-- Hands out the next id. -/
def take (ids : PageIds) : UInt64 × PageIds :=
  (ids.next, ⟨ids.next + 1⟩)

/-- Hands out `count` successive ids. -/
def takeMany (ids : PageIds) : Nat → List UInt64 × PageIds
  | 0 => ([], ids)
  | count + 1 =>
    let (first, ids) := ids.take
    let (more, ids) := ids.takeMany count
    (first :: more, ids)

end PageIds

end FormIntegrity
