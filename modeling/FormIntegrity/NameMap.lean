/-!
# Maps keyed by names

Parameters of a request and of a recorded state are kept by name, in ascending order of names,
each name once. The map is a list of entries whose names strictly ascend, and the type carries that
order: every operation keeps it, so no map holds a name twice or out of order. Iteration is in name
order, which is the order in which requests are checked and states shown.
-/

namespace FormIntegrity

/-- No entries ascend trivially. -/
theorem NameMap.nil_ascending {α : Type} : ([] : List (String × α)).Pairwise fun a b => a.1 < b.1 :=
  List.Pairwise.nil

/-- Entries keyed by distinct names, in ascending order of names. -/
structure NameMap (α : Type) where
  entries : List (String × α) := []
  /-- Names strictly ascend, so a name has at most one entry. -/
  sorted : entries.Pairwise (fun a b => a.1 < b.1) := by exact NameMap.nil_ascending

namespace NameMap

variable {α : Type}

instance : Inhabited (NameMap α) := ⟨{}⟩

/-- Two maps with the same entries are the same map. -/
@[ext] theorem ext {m m' : NameMap α} (same : m.entries = m'.entries) : m = m' := by
  cases m
  cases m'
  cases same
  rfl

/-- The empty map. -/
def empty : NameMap α := {}

@[simp] theorem entries_empty : (empty : NameMap α).entries = [] := rfl

/-- The value of a name. -/
def find? (m : NameMap α) (name : String) : Option α :=
  (m.entries.find? (·.1 == name)).map (·.2)

/-- Whether a name has an entry. -/
def contains (m : NameMap α) (name : String) : Bool :=
  m.entries.any (·.1 == name)

/-- Changes the entry of `name` by `f`, given its current value if any, keeping the order. -/
def alterList (name : String) (f : Option α → α) : List (String × α) → List (String × α)
  | [] => [(name, f none)]
  | (k, v) :: rest =>
    if name < k then (name, f none) :: (k, v) :: rest
    else if name = k then (k, f (some v)) :: rest
    else (k, v) :: alterList name f rest

/-- The names of a list after changing one name's entry are that name and the names before. -/
theorem mem_alterList {name : String} {f : Option α → α} {l : List (String × α)} {e : String × α}
    (member : e ∈ alterList name f l) : e.1 = name ∨ ∃ v, (e.1, v) ∈ l := by
  induction l with
  | nil => simp [alterList] at member; exact .inl (by rw [member])
  | cons head rest ih =>
    obtain ⟨k, v⟩ := head
    unfold alterList at member
    split at member
    · rcases List.mem_cons.mp member with rfl | old
      · exact .inl rfl
      · exact .inr ⟨e.2, old⟩
    · split at member
      · rename_i same
        rcases List.mem_cons.mp member with rfl | old
        · exact .inl same.symm
        · exact .inr ⟨e.2, List.mem_cons_of_mem _ old⟩
      · rcases List.mem_cons.mp member with rfl | later
        · exact .inr ⟨v, List.mem_cons_self⟩
        · rcases ih later with named | ⟨w, old⟩
          · exact .inl named
          · exact .inr ⟨w, List.mem_cons_of_mem _ old⟩

/-- Changing one name's entry keeps the names strictly ascending. -/
theorem sorted_alterList (name : String) (f : Option α → α) {l : List (String × α)}
    (sorted : l.Pairwise fun a b => a.1 < b.1) :
    (alterList name f l).Pairwise fun a b => a.1 < b.1 := by
  induction l with
  | nil => simp [alterList]
  | cons head rest ih =>
    obtain ⟨k, v⟩ := head
    rw [List.pairwise_cons] at sorted
    obtain ⟨below, sortedRest⟩ := sorted
    unfold alterList
    split
    · rename_i before
      refine List.Pairwise.cons (fun e member => ?_) (List.Pairwise.cons below sortedRest)
      rcases List.mem_cons.mp member with rfl | later
      · exact before
      · exact String.lt_trans before (below e later)
    · split
      · rename_i same
        subst same
        exact List.Pairwise.cons below sortedRest
      · rename_i after different
        -- neither before nor at `k`, so after it
        have above : k < name := String.not_le.mp fun atMost =>
          different (String.le_antisymm atMost (String.not_lt.mp after))
        refine List.Pairwise.cons (fun e member => ?_) (ih sortedRest)
        rcases mem_alterList member with named | ⟨w, old⟩
        · exact named ▸ above
        · exact below (e.1, w) old

/-- The map with the entry of `name` changed by `f`. -/
def alter (m : NameMap α) (name : String) (f : Option α → α) : NameMap α :=
  ⟨alterList name f m.entries, sorted_alterList name f m.sorted⟩

/-- The map with `name` set to `v`. -/
def insert (m : NameMap α) (name : String) (v : α) : NameMap α :=
  m.alter name fun _ => v

/-- The map without an entry for `name`. -/
def erase (m : NameMap α) (name : String) : NameMap α :=
  ⟨m.entries.filter (·.1 != name), m.sorted.sublist List.filter_sublist⟩

/-- The names, in ascending order. -/
def keys (m : NameMap α) : List String :=
  m.entries.map (·.1)

/-- The number of entries. -/
def size (m : NameMap α) : Nat :=
  m.entries.length

/-- The map of a list of entries; a later entry of a name replaces an earlier one. -/
def ofList (entries : List (String × α)) : NameMap α :=
  entries.foldl (fun m (k, v) => m.insert k v) {}

end NameMap

/-- Appends a value to the values of a name. -/
def NameMap.push (m : NameMap (List String)) (name value : String) : NameMap (List String) :=
  m.alter name fun vs => vs.getD [] ++ [value]

end FormIntegrity
