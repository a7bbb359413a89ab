import FormIntegrity.State
import FormIntegrity.IdMap

/-!
# Pages and page caches

A page is what one rendered response recorded: its id, a random nonce that tokens must repeat, its
states in the order they were recorded, and the flows it belongs to.

A page cache keeps two structures in step: a map from page id to page, and the ids in the order
their pages were stored. Storing a page with an id already held replaces the old page and moves its
id to the back. A cache with a capacity then evicts from the front of the storage order, the least
recently stored, until it holds no more than its capacity; eviction thus follows storage order, not
id order. Removing pages by id or by flow drops their ids from the storage order too.
-/

namespace FormIntegrity

/-- A page sealed by a composer. -/
structure Page where
  id : UInt64
  nonce : String
  states : List State
  flows : List String
  deriving Inhabited

namespace Page

/-- The state at a position. -/
def state? (p : Page) (index : Nat) : Option State :=
  p.states[index]?

/-- Whether some state of the page has a scope. -/
def hasScope (p : Page) (scope : Scope) : Bool :=
  p.states.any (·.scope == scope)

/-- Whether the page belongs to a flow. -/
def belongsTo (p : Page) (flow : String) : Bool :=
  p.flows.contains flow

end Page

/-- A cache of pages: the pages by id, and their ids in the order they were stored, oldest first.
With a capacity, at most that many pages are held. -/
structure PageCache where
  capacity : Option Nat
  byId : IdMap Page := {}
  stored : List UInt64 := []
  deriving Inhabited

namespace PageCache

/-- An empty cache holding at most `n` pages. -/
def bounded (n : Nat) : PageCache := { capacity := some n }

/-- An empty cache without a bound. -/
def unbounded : PageCache := { capacity := none }

/-- Drops from the storage order the ids whose pages are no longer held. -/
def forgetRemoved (c : PageCache) : PageCache :=
  { c with stored := c.stored.filter c.byId.contains }

/-- Evicts the pages of the ids at the front of the storage order, one at a time, while more than
`capacity` pages are held; stops when the storage order runs out. -/
def evict (capacity : Nat) (byId : IdMap Page) : List UInt64 → IdMap Page × List UInt64
  | [] => (byId, [])
  | id :: rest =>
    if byId.size > capacity then evict capacity (byId.erase id) rest else (byId, id :: rest)

/-- Stores a page, replacing a page of the same id and moving its id to the back of the storage
order, then evicts down to the capacity; returns the page's id. -/
def put (c : PageCache) (p : Page) : UInt64 × PageCache :=
  let stored := if c.byId.contains p.id then c.stored.filter (· != p.id) else c.stored
  let byId := c.byId.insert p.id p
  let stored := stored ++ [p.id]
  match c.capacity with
  | some n =>
    let (byId, stored) := evict n byId stored
    (p.id, { c with byId, stored })
  | none => (p.id, { c with byId, stored })

/-- The page with an id. -/
def page? (c : PageCache) (id : UInt64) : Option Page :=
  c.byId.find? id

/-- The state at a position of the page with an id. -/
def get? (c : PageCache) (id : UInt64) (index : Nat) : Option State :=
  (c.page? id).bind (·.state? index)

/-- Whether a page with an id is held. -/
def contains (c : PageCache) (id : UInt64) : Bool :=
  c.byId.contains id

/-- Removes the page with an id; tells whether there was one. -/
def remove (c : PageCache) (id : UInt64) : Bool × PageCache :=
  let removed := c.byId.contains id
  let c := { c with byId := c.byId.erase id }
  (removed, if removed then c.forgetRemoved else c)

/-- Removes the pages of a flow; returns how many there were. -/
def removeFlow (c : PageCache) (flow : String) : Nat × PageCache :=
  let byId := c.byId.filter fun p => !p.belongsTo flow
  let removed := c.byId.size - byId.size
  let c := { c with byId }
  (removed, if removed > 0 then c.forgetRemoved else c)

/-- Removes every page. -/
def clear (c : PageCache) : PageCache :=
  { c with byId := {}, stored := [] }

/-- The number of pages held. -/
def size (c : PageCache) : Nat :=
  c.byId.size

/-- The ids held, in ascending order. -/
def ids (c : PageCache) : List UInt64 :=
  c.byId.keys

end PageCache

end FormIntegrity
