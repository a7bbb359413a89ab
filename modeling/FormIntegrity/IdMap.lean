/-!
# Maps keyed by page ids

A page cache finds its pages through an ordered map from page id to page: each id at most once, in
ascending order of ids, so that the ids held can be listed in ascending order. The map is a list of
entries sorted by id; inserting an id already held replaces its value in place.
-/

namespace FormIntegrity

/-- Entries keyed by distinct page ids, in ascending order of ids. -/
structure IdMap (α : Type) where
  entries : List (UInt64 × α) := []
  deriving Inhabited

namespace IdMap

variable {α : Type}

/-- The value of an id. -/
def find? (m : IdMap α) (id : UInt64) : Option α :=
  (m.entries.find? (·.1 == id)).map (·.2)

/-- Whether an id has an entry. -/
def contains (m : IdMap α) (id : UInt64) : Bool :=
  m.entries.any (·.1 == id)

/-- Sets the value of `id`, keeping the entries in ascending order of ids. -/
def insertList (id : UInt64) (v : α) : List (UInt64 × α) → List (UInt64 × α)
  | [] => [(id, v)]
  | (k, w) :: rest =>
    if id < k then (id, v) :: (k, w) :: rest
    else if id = k then (id, v) :: rest
    else (k, w) :: insertList id v rest

/-- The map with `id` set to `v`. -/
def insert (m : IdMap α) (id : UInt64) (v : α) : IdMap α :=
  ⟨insertList id v m.entries⟩

/-- The map without an entry for `id`. -/
def erase (m : IdMap α) (id : UInt64) : IdMap α :=
  ⟨m.entries.filter (·.1 != id)⟩

/-- The entries whose value passes `keep`. -/
def filter (m : IdMap α) (keep : α → Bool) : IdMap α :=
  ⟨m.entries.filter (keep ·.2)⟩

/-- The number of entries. -/
def size (m : IdMap α) : Nat :=
  m.entries.length

/-- The ids, in ascending order. -/
def keys (m : IdMap α) : List UInt64 :=
  m.entries.map (·.1)

end IdMap

end FormIntegrity
