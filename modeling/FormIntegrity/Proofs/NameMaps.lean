import FormIntegrity.NameMap
import Mathlib.Data.String.Basic

/-!
# Looking names up

The entries of a `NameMap` strictly ascend by name, so a name has at most one entry: looking a name
up finds exactly the entry of that name, changing the entry of one name (`alter`) changes what that
name finds and nothing else, and reading sorted entries into a map (`ofList`) keeps them as they
are.
-/

namespace FormIntegrity

namespace NameMap

variable {α : Type}

theorem find?_eq_none_of_lt {name : String} {rest : List (String × α)}
    (below : ∀ e ∈ rest, name < e.1) : rest.find? (·.1 == name) = none := by
  rw [List.find?_eq_none]
  intro e member
  have differ : e.1 ≠ name := ne_of_gt (below e member)
  simpa using differ

/-- Changing one name's entry changes what that name finds and nothing else. -/
theorem find?_alter (m : NameMap α) (name : String) (f : Option α → α) (k : String) :
    (m.alter name f).find? k = if k = name then some (f (m.find? name)) else m.find? k := by
  obtain ⟨entries, sorted⟩ := m
  simp only [NameMap.alter, NameMap.find?]
  induction entries with
  | nil =>
    by_cases same : k = name
    · subst same
      simp [alterList]
    · have differ : (name == k) = false := by simpa using Ne.symm same
      simp [alterList, same, differ]
  | cons head rest ih =>
    obtain ⟨key, v⟩ := head
    rw [List.pairwise_cons] at sorted
    obtain ⟨below, sortedRest⟩ := sorted
    unfold alterList
    split
    · -- the name goes in front: it had no entry
      rename_i before
      have absent : rest.find? (·.1 == name) = none :=
        find?_eq_none_of_lt fun e member => lt_trans before (below e member)
      have keyDiffer : (key == name) = false := by simpa using ne_of_gt before
      by_cases same : k = name
      · subst same
        simp [keyDiffer, absent]
      · have differ : (name == k) = false := by simpa using Ne.symm same
        simp [same, differ]
    · split
      · rename_i same
        subst same
        by_cases own : k = name
        · subst own
          simp
        · have differ : (name == k) = false := by simpa using Ne.symm own
          simp [own, differ]
      · rename_i after different
        have differ : (key == name) = false := by simpa using Ne.symm different
        by_cases own : k = name
        · subst own
          simpa [differ] using ih sortedRest
        · by_cases atKey : key = k
          · subst atKey
            simp [own]
          · have differ' : (key == k) = false := by simpa using atKey
            simpa [differ, differ', own] using ih sortedRest

/-- A name finds a value exactly when the map has that entry. -/
theorem find?_eq_some_iff {m : NameMap α} {k : String} {v : α} :
    m.find? k = some v ↔ (k, v) ∈ m.entries := by
  obtain ⟨entries, sorted⟩ := m
  simp only [NameMap.find?]
  induction entries with
  | nil => simp
  | cons head rest ih =>
    obtain ⟨key, w⟩ := head
    rw [List.pairwise_cons] at sorted
    obtain ⟨below, sortedRest⟩ := sorted
    by_cases same : key = k
    · subst same
      constructor
      · intro found
        simp only [List.find?_cons, beq_self_eq_true, Option.map_some, Option.some.injEq] at found
        rw [found]
        exact List.mem_cons_self
      · intro member
        rcases List.mem_cons.mp member with same | later
        · simp [← same]
        · exact absurd (below _ later) (lt_irrefl _)
    · have differ : (key == k) = false := by simpa using same
      simp only [List.find?_cons, differ]
      rw [ih sortedRest, List.mem_cons]
      constructor
      · exact .inr
      · rintro (own | later)
        · exact absurd (congrArg Prod.fst own).symm same
        · exact later

theorem contains_eq_isSome_find? (m : NameMap α) (name : String) :
    m.contains name = (m.find? name).isSome := by
  rw [contains, find?, Option.isSome_map, List.isSome_find?]

/-- Erasing a name's entry changes what that name finds and nothing else. -/
theorem find?_erase (m : NameMap α) (name k : String) :
    (m.erase name).find? k = if k = name then none else m.find? k := by
  unfold erase find?
  split
  · rename_i same
    subst same
    simp
  · rename_i other
    congr 1
    rw [List.find?_filter]
    congr 1
    funext e
    by_cases atKey : e.1 = k
    · simp [atKey, other]
    · simp [atKey]

/-- The map giving each name of `m` the value `f name`. -/
def withValues {β : Type} (m : NameMap α) (f : String → β) : NameMap β :=
  ⟨m.entries.map fun e => (e.1, f e.1), List.pairwise_map.mpr m.sorted⟩

/-- Giving every entry a value computed from its name keeps which names find a value. -/
theorem find?_withValues {β : Type} (m : NameMap α) (f : String → β) (k : String) :
    (m.withValues f).find? k = (m.find? k).map fun _ => f k := by
  unfold withValues find?
  -- renaming values keeps each entry's name, so the search stops at the same entry
  have sameTest : ((·.1 == k) ∘ fun e : String × α => (e.1, f e.1)) = (·.1 == k) := rfl
  rw [List.find?_map, sameTest]
  cases found : m.entries.find? (·.1 == k) with
  | none => rfl
  | some e =>
    have named : e.1 = k := by simpa using List.find?_some found
    simp [named]

/-- The map of one entry. -/
def single (e : String × α) : NameMap α :=
  ⟨[e], List.pairwise_singleton _ e⟩

@[simp] theorem single_entries (e : String × α) : (single e).entries = [e] := rfl

/-- Lists related entry by entry, each entry to one of the same name, have the same names. -/
theorem names_eq_of_forall₂ {β : Type} {R : String × α → String × β → Prop}
    (named : ∀ e r, R e r → r.1 = e.1) {l : List (String × α)} {l' : List (String × β)}
    (related : List.Forall₂ R l l') : l'.map Prod.fst = l.map Prod.fst := by
  induction related with
  | nil => rfl
  | cons head _ ih => simp [named _ _ head, ih]

/-- Entries with the names of ascending entries ascend too. -/
theorem ascending_of_names_eq {β : Type} {l : List (String × α)} {l' : List (String × β)}
    (names : l'.map Prod.fst = l.map Prod.fst) (sorted : l.Pairwise fun a b => a.1 < b.1) :
    l'.Pairwise fun a b => a.1 < b.1 := by
  have ascending : (l.map Prod.fst).Pairwise (· < ·) := List.pairwise_map.mpr sorted
  rw [← names] at ascending
  exact List.pairwise_map.mp ascending

/-- Changing the entry of a name above every name of a list appends it. -/
theorem alterList_of_lt {name : String} {f : Option α → α} {l : List (String × α)}
    (above : ∀ e ∈ l, e.1 < name) : alterList name f l = l ++ [(name, f none)] := by
  induction l with
  | nil => rfl
  | cons head rest ih =>
    obtain ⟨k, v⟩ := head
    have below : k < name := above (k, v) List.mem_cons_self
    have notBefore : ¬name < k := String.lt_asymm below
    have other : name ≠ k := fun same => String.lt_irrefl k (same ▸ below)
    rw [alterList, if_neg notBefore, if_neg other,
      ih fun e member => above e (List.mem_cons_of_mem _ member), List.cons_append]

/-- Inserting entries whose names ascend past those of the map appends them in order. -/
theorem entries_foldl_insert {l : List (String × α)} (acc : NameMap α)
    (sorted : (acc.entries ++ l).Pairwise fun a b => a.1 < b.1) :
    (l.foldl (fun m (k, v) => m.insert k v) acc).entries = acc.entries ++ l := by
  induction l generalizing acc with
  | nil => simp
  | cons e rest ih =>
    obtain ⟨k, v⟩ := e
    -- the next name is above every name inserted so far
    have above : ∀ a ∈ acc.entries, a.1 < k := fun a member =>
      (List.pairwise_append.mp sorted).2.2 a member (k, v) List.mem_cons_self
    have appended : (acc.insert k v).entries = acc.entries ++ [(k, v)] :=
      alterList_of_lt above
    rw [List.foldl_cons, ih (acc.insert k v) (by rw [appended, List.append_assoc]; exact sorted),
      appended, List.append_assoc, List.singleton_append]

/-- Entries already in ascending order are read into a map as they are. -/
theorem ofList_entries {l : List (String × α)} (sorted : l.Pairwise fun a b => a.1 < b.1) :
    (ofList l).entries = l :=
  entries_foldl_insert {} sorted

/-- A map's entries read back into a map give the map. -/
theorem ofList_self (m : NameMap α) : ofList m.entries = m :=
  ext (ofList_entries m.sorted)

end NameMap

/-- Pushing a value of a name appends it to that name's values and changes nothing else. -/
theorem NameMap.find?_push (m : NameMap (List String)) (name value k : String) :
    (m.push name value).find? k =
      if k = name then some ((m.find? name).getD [] ++ [value]) else m.find? k :=
  m.find?_alter name _ k

end FormIntegrity
