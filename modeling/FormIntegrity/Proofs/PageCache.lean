import FormIntegrity.PageCache
import Mathlib.Data.List.Basic

/-!
# Page caches refine storage-ordered lists

A `PageCache` keeps two structures in step: an ordered map from page id to page, and the ids in
the order their pages were stored. Every query is answered by the map, every eviction is decided by
the storage order. This module proves that the pair behaves exactly as one list of pages in storage
order, the reference `PageList`:

* `PageCache.Synced` is the invariant that holds the two together: the map is ordered and keyed by
  the pages' own ids, and the storage order holds each id of the map exactly once;
* `view` reads the pages off in storage order; one lemma per operation (`Synced.put`,
  `Synced.remove`, `Synced.removeFlow`, `Synced.clear`) says that the operation keeps the invariant
  and acts on the view as `PageList` does, and one per query says that it answers as on the view;
* `applyAll_refines` runs any sequence of calls from an empty cache: the replies are those of the
  reference list, every query agrees with it, the cache never holds more than its capacity, and a
  page just stored is held.
-/

namespace FormIntegrity

/-! ## Lists with distinct keys -/

/-- In a list whose keys are distinct, the entry found for a key is the one entry with that key. -/
theorem find?_key_eq_some_iff {β : Type} (key : β → UInt64) {l : List β}
    (distinct : (l.map key).Nodup) {k : UInt64} {b : β} :
    l.find? (key · == k) = some b ↔ b ∈ l ∧ key b = k := by
  induction l with
  | nil => simp
  | cons a rest ih =>
      rw [List.map_cons, List.nodup_cons] at distinct
      obtain ⟨fresh, distinct⟩ := distinct
      by_cases hk : key a = k
      · have first : (a :: rest).find? (key · == k) = some a := by simp [hk]
        rw [first, Option.some.injEq]
        constructor
        · rintro rfl
          exact ⟨List.mem_cons_self, hk⟩
        · rintro ⟨member, keyEq⟩
          rcases List.mem_cons.mp member with same | later
          · exact same.symm
          · exact absurd (hk ▸ keyEq ▸ List.mem_map_of_mem later) fresh
      · have skip : (a :: rest).find? (key · == k) = rest.find? (key · == k) := by simp [hk]
        rw [skip, ih distinct]
        constructor
        · rintro ⟨member, keyEq⟩
          exact ⟨List.mem_cons_of_mem a member, keyEq⟩
        · rintro ⟨member, keyEq⟩
          rcases List.mem_cons.mp member with same | later
          · exact absurd (same ▸ keyEq) hk
          · exact ⟨later, keyEq⟩

/-! ## Ordered id maps -/

namespace IdMap

variable {α : Type}

/-- The entries' ids are strictly ascending. -/
def Ordered (m : IdMap α) : Prop :=
  m.entries.Pairwise fun a b => a.1 < b.1

theorem Ordered.keys_nodup {m : IdMap α} (ordered : m.Ordered) : m.keys.Nodup := by
  unfold keys
  rw [List.Nodup, List.pairwise_map]
  exact ordered.imp fun lt => UInt64.ne_of_lt lt

theorem Ordered.sublist {m m' : IdMap α} (ordered : m.Ordered) (sub : m'.entries.Sublist m.entries) :
    m'.Ordered :=
  List.Pairwise.sublist sub ordered

theorem contains_iff {m : IdMap α} {id : UInt64} : m.contains id = true ↔ ∃ v, (id, v) ∈ m.entries := by
  simp [contains]

/-- In an ordered map, the value found for an id is the value of its one entry. -/
theorem Ordered.find?_eq_some_iff {m : IdMap α} (ordered : m.Ordered) {id : UInt64} {v : α} :
    m.find? id = some v ↔ (id, v) ∈ m.entries := by
  unfold find?
  constructor
  · intro found
    obtain ⟨e, hfind, rfl⟩ := Option.map_eq_some_iff.mp found
    obtain ⟨member, rfl⟩ := (find?_key_eq_some_iff Prod.fst ordered.keys_nodup).mp hfind
    exact member
  · intro member
    rw [(find?_key_eq_some_iff Prod.fst ordered.keys_nodup).mpr ⟨member, rfl⟩]
    rfl

theorem contains_eq_isSome_find? (m : IdMap α) (id : UInt64) :
    m.contains id = (m.find? id).isSome := by
  rw [contains, find?, Option.isSome_map, List.isSome_find?]

theorem find?_erase (m : IdMap α) (id k : UInt64) :
    (m.erase id).find? k = if k = id then none else m.find? k := by
  unfold erase find?
  split
  · rename_i same
    subst same
    simp
  · rename_i other
    congr 1
    rw [List.find?_filter]
    congr 1
    funext e
    by_cases hk : e.1 = k
    · simp [hk, other]
    · simp [hk]

theorem ordered_erase {m : IdMap α} (ordered : m.Ordered) (id : UInt64) : (m.erase id).Ordered :=
  ordered.sublist List.filter_sublist

theorem ordered_filter {m : IdMap α} (ordered : m.Ordered) (keep : α → Bool) :
    (m.filter keep).Ordered :=
  ordered.sublist List.filter_sublist

/-- Filtering an ordered map keeps the value of an id exactly when the value passes. -/
theorem Ordered.find?_filter {m : IdMap α} (ordered : m.Ordered) (keep : α → Bool) (k : UInt64) :
    (m.filter keep).find? k = (m.find? k).filter keep := by
  apply Option.ext
  intro v
  rw [(ordered_filter ordered keep).find?_eq_some_iff, Option.filter_eq_some_iff,
    ordered.find?_eq_some_iff]
  simp [filter]

/-- Two distinct ids are ordered one way or the other. -/
theorem lt_of_not_lt_of_ne {a b : UInt64} (notLt : ¬ a < b) (ne : a ≠ b) : b < a := by
  simp only [UInt64.lt_iff_toNat_lt, ne_eq, ← UInt64.toNat_inj] at *
  omega

/-- Inserting into a list ordered by id gives `(id, w)` and the old entries of other ids. -/
theorem mem_insertList {id : UInt64} {w : α} {l : List (UInt64 × α)}
    (ordered : l.Pairwise fun a b => a.1 < b.1) {e : UInt64 × α} :
    e ∈ insertList id w l ↔ e = (id, w) ∨ (e ∈ l ∧ e.1 ≠ id) := by
  induction l with
  | nil => simp [insertList]
  | cons head rest ih =>
      obtain ⟨k, v⟩ := head
      rw [List.pairwise_cons] at ordered
      obtain ⟨above, ordered⟩ := ordered
      unfold insertList
      by_cases before : id < k
      · -- every old id is at least `k`, hence above `id`
        have far : ∀ e ∈ (k, v) :: rest, e.1 ≠ id := by
          intro e member
          rcases List.mem_cons.mp member with rfl | later
          · exact (UInt64.ne_of_lt before).symm
          · exact (UInt64.ne_of_lt (UInt64.lt_trans before (above e later))).symm
        rw [if_pos before]
        constructor
        · intro member
          rcases List.mem_cons.mp member with rfl | old
          · exact Or.inl rfl
          · exact Or.inr ⟨old, far e old⟩
        · rintro (rfl | ⟨old, -⟩)
          · exact List.mem_cons_self
          · exact List.mem_cons_of_mem _ old
      · rw [if_neg before]
        by_cases same : id = k
        · subst same
          rw [if_pos rfl]
          constructor
          · intro member
            rcases List.mem_cons.mp member with rfl | later
            · exact Or.inl rfl
            · exact Or.inr ⟨List.mem_cons_of_mem _ later, (UInt64.ne_of_lt (above e later)).symm⟩
          · rintro (rfl | ⟨old, other⟩)
            · exact List.mem_cons_self
            · rcases List.mem_cons.mp old with rfl | later
              · exact absurd rfl other
              · exact List.mem_cons_of_mem _ later
        · rw [if_neg same, List.mem_cons, ih ordered, List.mem_cons]
          constructor
          · rintro (rfl | rfl | ⟨old, other⟩)
            · exact Or.inr ⟨Or.inl rfl, Ne.symm same⟩
            · exact Or.inl rfl
            · exact Or.inr ⟨Or.inr old, other⟩
          · rintro (rfl | ⟨rfl | old, other⟩)
            · exact Or.inr (Or.inl rfl)
            · exact Or.inl rfl
            · exact Or.inr (Or.inr ⟨old, other⟩)

theorem ordered_insert {m : IdMap α} (ordered : m.Ordered) (id : UInt64) (w : α) :
    (m.insert id w).Ordered := by
  unfold Ordered insert
  obtain ⟨l⟩ := m
  simp only [Ordered] at ordered
  induction l with
  | nil => simp [insertList]
  | cons head rest ih =>
      obtain ⟨k, v⟩ := head
      have whole := ordered
      rw [List.pairwise_cons] at ordered
      obtain ⟨above, ordered⟩ := ordered
      unfold insertList
      by_cases before : id < k
      · rw [if_pos before]
        refine List.Pairwise.cons ?_ whole
        intro e member
        rcases List.mem_cons.mp member with rfl | later
        · exact before
        · exact UInt64.lt_trans before (above e later)
      · rw [if_neg before]
        by_cases same : id = k
        · subst same
          rw [if_pos rfl]
          exact List.Pairwise.cons above ordered
        · rw [if_neg same]
          refine List.Pairwise.cons ?_ (ih ordered)
          intro e member
          rcases (mem_insertList ordered).mp member with rfl | ⟨old, -⟩
          · exact lt_of_not_lt_of_ne before same
          · exact above e old

/-- After an insertion into an ordered map, the inserted id has the new value and every other id
its old one. -/
theorem Ordered.find?_insert {m : IdMap α} (ordered : m.Ordered) (id : UInt64) (w : α) (k : UInt64) :
    (m.insert id w).find? k = if k = id then some w else m.find? k := by
  apply Option.ext
  intro v
  rw [(ordered_insert ordered id w).find?_eq_some_iff]
  simp only [insert]
  rw [mem_insertList ordered]
  split
  · rename_i same
    subst same
    simp [eq_comm]
  · rename_i other
    rw [ordered.find?_eq_some_iff]
    simp [other]

end IdMap

end FormIntegrity

namespace FormIntegrity

/-! ## The reference: a list of pages in storage order -/

namespace PageList

/-- Stores a page: any page of its id is dropped, the page goes to the back, and with a capacity
pages are dropped from the front while more than the capacity remain. -/
def put (capacity : Option Nat) (pages : List Page) (p : Page) : List Page :=
  let kept := pages.filter (·.id != p.id) ++ [p]
  match capacity with
  | some n => kept.drop (kept.length - n)
  | none => kept

/-- Removes the page of an id; tells whether there was one. -/
def remove (pages : List Page) (id : UInt64) : Bool × List Page :=
  (pages.any (·.id == id), pages.filter (·.id != id))

/-- Removes the pages of a flow; tells how many there were. -/
def removeFlow (pages : List Page) (flow : String) : Nat × List Page :=
  let kept := pages.filter fun p => !p.belongsTo flow
  (pages.length - kept.length, kept)

/-- The page of an id. -/
def page? (pages : List Page) (id : UInt64) : Option Page :=
  pages.find? (·.id == id)

/-- The ids held, in ascending order. -/
def ids (pages : List Page) : List UInt64 :=
  (pages.map (·.id)).mergeSort fun a b => decide (a ≤ b)

theorem mem_put {capacity : Option Nat} {pages : List Page} {p q : Page}
    (held : q ∈ put capacity pages p) : q ∈ pages ∨ q = p := by
  have kept : q ∈ pages.filter (·.id != p.id) ++ [p] := by
    unfold put at held
    split at held
    · exact List.mem_of_mem_drop held
    · exact held
  rcases List.mem_append.mp kept with old | new
  · exact .inl (List.mem_filter.mp old).1
  · exact .inr (List.mem_singleton.mp new)

theorem mem_removeFlow {pages : List Page} {flow : String} {q : Page}
    (held : q ∈ (removeFlow pages flow).2) : q ∈ pages ∧ q.belongsTo flow = false := by
  simpa [removeFlow] using held

theorem page?_eq_some {pages : List Page} {id : UInt64} {q : Page} (found : page? pages id = some q) :
    q ∈ pages ∧ q.id = id := by
  unfold page? at found
  exact ⟨List.mem_of_find?_eq_some found, by simpa using List.find?_some found⟩

end PageList

/-! ## The invariant and the view -/

namespace PageCache

/-- The map and the storage order of a cache agree: the map is ordered and holds each page under
its own id, and the storage order holds each id of the map exactly once. -/
structure Synced (byId : IdMap Page) (stored : List UInt64) : Prop where
  ordered : byId.Ordered
  keyed : ∀ id p, byId.find? id = some p → p.id = id
  nodup : stored.Nodup
  mem_stored : ∀ id, id ∈ stored ↔ byId.contains id = true

/-- The pages of a map taken in a storage order. -/
def inOrder (byId : IdMap Page) (stored : List UInt64) : List Page :=
  stored.filterMap byId.find?

/-- The pages of a cache in storage order. -/
def view (c : PageCache) : List Page :=
  inOrder c.byId c.stored

/-- The invariant of a cache: its map and storage order agree. -/
def Inv (c : PageCache) : Prop :=
  Synced c.byId c.stored

variable {byId : IdMap Page} {stored : List UInt64}

theorem Synced.found (synced : Synced byId stored) {id : UInt64} (member : id ∈ stored) :
    ∃ p, byId.find? id = some p ∧ p.id = id := by
  have present := (synced.mem_stored id).mp member
  rw [IdMap.contains_eq_isSome_find?, Option.isSome_iff_exists] at present
  obtain ⟨p, found⟩ := present
  exact ⟨p, found, synced.keyed id p found⟩

/-- Taken in storage order, the pages have the stored ids. -/
theorem Synced.map_id_inOrder (synced : Synced byId stored) :
    (inOrder byId stored).map (·.id) = stored := by
  have found : ∀ id ∈ stored, ∃ p, byId.find? id = some p ∧ p.id = id :=
    fun _ member => synced.found member
  unfold inOrder
  clear synced
  induction stored with
  | nil => rfl
  | cons id rest ih =>
      obtain ⟨p, hp, pid⟩ := found id List.mem_cons_self
      rw [List.filterMap_cons_some hp, List.map_cons, pid,
        ih fun a member => found a (List.mem_cons_of_mem id member)]

theorem Synced.length_inOrder (synced : Synced byId stored) :
    (inOrder byId stored).length = stored.length := by
  have lengths := congrArg List.length synced.map_id_inOrder
  rwa [List.length_map] at lengths

theorem Synced.ids_nodup (synced : Synced byId stored) :
    ((inOrder byId stored).map (·.id)).Nodup := by
  rw [synced.map_id_inOrder]
  exact synced.nodup

theorem mem_inOrder {p : Page} : p ∈ inOrder byId stored ↔ ∃ id ∈ stored, byId.find? id = some p :=
  List.mem_filterMap

/-- The map holds as many pages as the storage order has ids. -/
theorem Synced.size_eq (synced : Synced byId stored) : byId.size = stored.length := by
  have same : byId.keys.Perm stored := by
    rw [List.perm_ext_iff_of_nodup synced.ordered.keys_nodup synced.nodup]
    intro id
    rw [synced.mem_stored, IdMap.contains_iff]
    simp [IdMap.keys]
  rw [← same.length_eq]
  simp [IdMap.keys, IdMap.size]

/-- The map finds an id where the pages in storage order find it. -/
theorem Synced.find?_eq (synced : Synced byId stored) (id : UInt64) :
    byId.find? id = (inOrder byId stored).find? (·.id == id) := by
  apply Option.ext
  intro p
  rw [find?_key_eq_some_iff Page.id synced.ids_nodup, mem_inOrder]
  constructor
  · intro found
    have pid := synced.keyed id p found
    have member : id ∈ stored := by
      rw [synced.mem_stored, IdMap.contains_eq_isSome_find?, found]
      rfl
    exact ⟨⟨id, member, found⟩, pid⟩
  · rintro ⟨⟨a, -, found⟩, pid⟩
    have same : p.id = a := synced.keyed a p found
    rw [← pid, same]
    exact found

theorem Synced.contains_eq (synced : Synced byId stored) (id : UInt64) :
    byId.contains id = (inOrder byId stored).any (·.id == id) := by
  rw [IdMap.contains_eq_isSome_find?, synced.find?_eq, List.isSome_find?]

/-! ## One lemma per operation -/

/-- Putting a page into the map and moving its id to the back of the order keeps the two in step,
and takes any page of that id out of the view and puts the page at its back. -/
theorem Synced.insert (synced : Synced byId stored) (p : Page) :
    Synced (byId.insert p.id p) (stored.filter (· != p.id) ++ [p.id]) ∧
      inOrder (byId.insert p.id p) (stored.filter (· != p.id) ++ [p.id]) =
        (inOrder byId stored).filter (·.id != p.id) ++ [p] := by
  have findNew := synced.ordered.find?_insert p.id p
  refine ⟨⟨IdMap.ordered_insert synced.ordered p.id p, ?_, ?_, ?_⟩, ?_⟩
  · intro id q found
    rw [findNew] at found
    split at found
    · rename_i same
      cases found
      exact same.symm
    · exact synced.keyed id q found
  · rw [List.nodup_append]
    refine ⟨synced.nodup.sublist List.filter_sublist, by simp, ?_⟩
    intro a member b last
    rw [List.mem_singleton] at last
    subst last
    simpa using (List.mem_filter.mp member).2
  · intro id
    rw [IdMap.contains_eq_isSome_find?, findNew, List.mem_append, List.mem_filter,
      List.mem_singleton, synced.mem_stored, IdMap.contains_eq_isSome_find?]
    by_cases same : id = p.id
    · simp [same]
    · simp [same]
  · unfold inOrder
    have other : ∀ a ∈ stored, (if (a != p.id) = true then (byId.insert p.id p).find? a else none) =
        (byId.find? a).filter (·.id != p.id) := by
      intro a member
      obtain ⟨q, found, rfl⟩ := synced.found member
      rw [found, findNew]
      by_cases same : q.id = p.id
      · simp [same, Option.filter]
      · simp [same, found, Option.filter]
    rw [List.filterMap_append, List.filterMap_filter, List.filter_filterMap,
      List.filterMap_congr other]
    simp [findNew]

/-- Evicting from the front of the order while the map holds more than `capacity` pages keeps the
two in step and drops pages from the front of the view until at most `capacity` remain. -/
theorem Synced.evict (capacity : Nat) :
    ∀ {byId : IdMap Page} {stored : List UInt64}, Synced byId stored →
      Synced (evict capacity byId stored).1 (evict capacity byId stored).2 ∧
        inOrder (evict capacity byId stored).1 (evict capacity byId stored).2 =
          (inOrder byId stored).drop ((inOrder byId stored).length - capacity)
  | byId, [], synced => by
      refine ⟨synced, ?_⟩
      simp [PageCache.evict, inOrder]
  | byId, id :: rest, synced => by
      obtain ⟨q, found, qid⟩ := synced.found List.mem_cons_self
      have order : inOrder byId (id :: rest) = q :: inOrder byId rest := by
        simp [inOrder, found]
      have lengths := synced.length_inOrder
      rw [order] at lengths ⊢
      unfold PageCache.evict
      by_cases tooMany : byId.size > capacity
      · rw [if_pos tooMany]
        have fresh : id ∉ rest := (List.nodup_cons.mp synced.nodup).1
        -- the evicted id leaves the map and the order together
        have erased : Synced (byId.erase id) rest := by
          refine ⟨IdMap.ordered_erase synced.ordered id, ?_, (List.nodup_cons.mp synced.nodup).2, ?_⟩
          · intro a p hp
            rw [IdMap.find?_erase] at hp
            split at hp
            · cases hp
            · exact synced.keyed a p hp
          · intro a
            rw [IdMap.contains_eq_isSome_find?, IdMap.find?_erase]
            by_cases same : a = id
            · subst same
              simp [fresh]
            · rw [if_neg same, ← IdMap.contains_eq_isSome_find?, ← synced.mem_stored]
              simp [same]
        have sameRest : inOrder (byId.erase id) rest = inOrder byId rest := by
          unfold inOrder
          apply List.filterMap_congr
          intro a member
          rw [IdMap.find?_erase, if_neg]
          rintro rfl
          exact fresh member
        obtain ⟨syncedNext, viewNext⟩ := Synced.evict capacity erased
        refine ⟨syncedNext, ?_⟩
        rw [viewNext, sameRest]
        have size := synced.size_eq
        simp only [List.length_cons] at lengths size
        rw [List.length_cons, show (inOrder byId rest).length + 1 - capacity =
          ((inOrder byId rest).length - capacity) + 1 by omega]
        rfl
      · rw [if_neg tooMany]
        refine ⟨synced, ?_⟩
        have size := synced.size_eq
        rw [order, show (q :: inOrder byId rest).length - capacity = 0 by
          simp only [List.length_cons] at lengths size ⊢
          omega]
        rfl

/-- Storing a page returns its id, keeps the invariant, and acts on the view as the reference
list does. -/
theorem Inv.put {c : PageCache} (inv : c.Inv) (p : Page) :
    (c.put p).1 = p.id ∧ (c.put p).2.capacity = c.capacity ∧ (c.put p).2.Inv ∧
      (c.put p).2.view = PageList.put c.capacity c.view p := by
  -- the id is dropped from the order only when the map held it, but then it was never there
  have moved : (if c.byId.contains p.id then c.stored.filter (· != p.id) else c.stored) =
      c.stored.filter (· != p.id) := by
    split
    · rfl
    · rename_i absent
      symm
      rw [List.filter_eq_self]
      intro a member
      have other : a ≠ p.id := fun same => absent (same ▸ (inv.mem_stored a).mp member)
      simpa using other
  obtain ⟨synced, order⟩ := Synced.insert inv p
  unfold PageCache.put PageList.put view Inv
  rw [moved]
  cases c.capacity with
  | none => exact ⟨rfl, rfl, synced, order⟩
  | some n =>
      obtain ⟨syncedEvict, orderEvict⟩ := synced.evict n
      exact ⟨rfl, rfl, syncedEvict, order ▸ orderEvict⟩

/-- Dropping pages from the map and then the ids no longer held from the order keeps the two in
step, and drops from the view the pages whose ids are no longer held. -/
theorem Synced.forget (synced : Synced byId stored) {kept : IdMap Page} (ordered : kept.Ordered)
    (sub : ∀ id p, kept.find? id = some p → byId.find? id = some p) :
    Synced kept (stored.filter kept.contains) ∧
      inOrder kept (stored.filter kept.contains) =
        (inOrder byId stored).filter fun p => kept.contains p.id := by
  refine ⟨⟨ordered, fun id p found => synced.keyed id p (sub id p found),
    synced.nodup.sublist List.filter_sublist, ?_⟩, ?_⟩
  · intro id
    rw [List.mem_filter]
    constructor
    · exact fun held => held.2
    · intro held
      refine ⟨?_, held⟩
      rw [IdMap.contains_eq_isSome_find?, Option.isSome_iff_exists] at held
      obtain ⟨p, found⟩ := held
      rw [synced.mem_stored, IdMap.contains_eq_isSome_find?, sub id p found]
      rfl
  · unfold inOrder
    rw [List.filterMap_filter, List.filter_filterMap]
    apply List.filterMap_congr
    intro id member
    obtain ⟨q, found, rfl⟩ := synced.found member
    rw [found]
    by_cases held : kept.contains q.id = true
    · have keptFound : kept.find? q.id = some q := by
        rw [IdMap.contains_eq_isSome_find?, Option.isSome_iff_exists] at held
        obtain ⟨r, hr⟩ := held
        rw [hr, ← found, sub q.id r hr]
      simp [held, keptFound, Option.filter]
    · simp [held, Option.filter]

/-- Removing a page by id reports whether the view held one, keeps the invariant, and filters the
view as the reference list does. -/
theorem Inv.remove {c : PageCache} (inv : c.Inv) (id : UInt64) :
    (c.remove id).1 = (PageList.remove c.view id).1 ∧ (c.remove id).2.capacity = c.capacity ∧
      (c.remove id).2.Inv ∧ (c.remove id).2.view = (PageList.remove c.view id).2 := by
  have reported : c.byId.contains id = c.view.any (·.id == id) := Synced.contains_eq inv id
  dsimp only [PageCache.remove, PageList.remove]
  refine ⟨reported, ?_⟩
  by_cases present : c.byId.contains id = true
  · rw [if_pos present]
    obtain ⟨synced, order⟩ := Synced.forget inv (IdMap.ordered_erase inv.ordered id)
      (fun a p found => by
        rw [IdMap.find?_erase] at found
        split at found
        · cases found
        · exact found)
    refine ⟨rfl, synced, ?_⟩
    unfold view
    simp only [forgetRemoved]
    rw [order]
    apply List.filter_congr
    intro p member
    obtain ⟨a, -, found⟩ := mem_inOrder.mp member
    have pid := inv.keyed a p found
    subst pid
    rw [IdMap.contains_eq_isSome_find?, IdMap.find?_erase, found]
    by_cases same : p.id = id <;> simp [same]
  · rw [if_neg present]
    -- nothing held the id, so erasing it changes no entry
    have unchanged : c.byId.erase id = c.byId := by
      unfold IdMap.erase
      rw [List.filter_eq_self.mpr]
      intro e member
      have other : e.1 ≠ id := fun same => present (IdMap.contains_iff.mpr ⟨e.2, same ▸ member⟩)
      simpa using other
    refine ⟨rfl, ?_, ?_⟩
    · unfold Inv
      simp only [unchanged]
      exact inv
    · unfold view
      simp only [unchanged]
      symm
      rw [List.filter_eq_self]
      intro p member
      have absent : (c.view.any (·.id == id)) = false := by
        rw [← reported]
        simpa using present
      simp only [List.any_eq_false, beq_iff_eq] at absent
      simpa using absent p member

/-- Removing the pages of a flow counts them as the reference list does, keeps the invariant, and
filters the view as the reference list does. -/
theorem Inv.removeFlow {c : PageCache} (inv : c.Inv) (flow : String) :
    (c.removeFlow flow).1 = (PageList.removeFlow c.view flow).1 ∧
      (c.removeFlow flow).2.capacity = c.capacity ∧ (c.removeFlow flow).2.Inv ∧
      (c.removeFlow flow).2.view = (PageList.removeFlow c.view flow).2 := by
  dsimp only [PageCache.removeFlow, PageList.removeFlow]
  generalize keepDef : (fun p : Page => !p.belongsTo flow) = keep
  obtain ⟨synced, order⟩ := Synced.forget inv (IdMap.ordered_filter inv.ordered keep)
    (fun a p found => by
      rw [inv.ordered.find?_filter] at found
      exact Option.eq_some_of_filter_eq_some found)
  have viewKept : c.view.filter (fun p => (c.byId.filter keep).contains p.id) = c.view.filter keep := by
    apply List.filter_congr
    intro p member
    obtain ⟨a, -, found⟩ := mem_inOrder.mp member
    have pid := inv.keyed a p found
    subst pid
    rw [IdMap.contains_eq_isSome_find?, inv.ordered.find?_filter, found]
    by_cases passes : keep p = true <;> simp [passes, Option.filter]
  have sizes : (c.byId.filter keep).size = (c.view.filter keep).length := by
    rw [synced.size_eq, ← synced.length_inOrder, order]
    exact congrArg List.length viewKept
  have before : c.byId.size = c.view.length := by
    rw [inv.size_eq, view, Synced.length_inOrder inv]
  -- with nothing removed the map is unchanged, so forgetting removed ids changes nothing either
  have uniform : (if c.byId.size - (c.byId.filter keep).size > 0
      then ({ c with byId := c.byId.filter keep } : PageCache).forgetRemoved
      else { c with byId := c.byId.filter keep }) =
      ({ c with byId := c.byId.filter keep } : PageCache).forgetRemoved := by
    split
    · rfl
    · rename_i none
      have same : (c.byId.filter keep).entries = c.byId.entries := by
        apply List.filter_eq_self.mpr
        apply List.length_filter_eq_length_iff.mp
        have shorter : (c.byId.entries.filter (keep ·.2)).length ≤ c.byId.entries.length :=
          List.length_filter_le _ _
        simp only [IdMap.size, IdMap.filter] at none shorter ⊢
        omega
      simp only [forgetRemoved]
      congr 1
      symm
      rw [List.filter_eq_self]
      intro a member
      rw [show c.byId.filter keep = c.byId from congrArg IdMap.mk same]
      exact (inv.mem_stored a).mp member
  rw [uniform]
  refine ⟨by rw [sizes, before], rfl, synced, ?_⟩
  unfold view
  simp only [forgetRemoved]
  rw [order]
  exact viewKept

theorem Inv.clear (c : PageCache) : c.clear.Inv ∧ c.clear.view = [] := by
  refine ⟨⟨List.Pairwise.nil, ?_, List.nodup_nil, ?_⟩, rfl⟩
  · intro id p found
    simp [PageCache.clear, IdMap.find?] at found
  · intro id
    simp [PageCache.clear, IdMap.contains]

/-! ## Queries answer as on the view -/

theorem Synced.keys_perm (synced : Synced byId stored) : byId.keys.Perm stored := by
  rw [List.perm_ext_iff_of_nodup synced.ordered.keys_nodup synced.nodup]
  intro id
  rw [synced.mem_stored, IdMap.contains_iff]
  simp [IdMap.keys]

/-- Every query of a cache answers as on a list of pages. -/
structure Shows (c : PageCache) (pages : List Page) : Prop where
  page : ∀ id, c.page? id = PageList.page? pages id
  get : ∀ id index, c.get? id index = (PageList.page? pages id).bind (·.state? index)
  contains : ∀ id, c.contains id = pages.any (·.id == id)
  size : c.size = pages.length
  ids : c.ids = PageList.ids pages

/-- A cache whose map and order agree answers every query as on its view. -/
theorem Inv.shows {c : PageCache} (inv : c.Inv) : c.Shows c.view where
  page id := Synced.find?_eq inv id
  get id index := by rw [PageCache.get?, PageCache.page?, Synced.find?_eq inv id]; rfl
  contains id := Synced.contains_eq inv id
  size := by rw [PageCache.size, inv.size_eq, view, Synced.length_inOrder inv]
  ids := by
    unfold PageCache.ids PageList.ids view
    rw [Synced.map_id_inOrder inv]
    have antisymm : ∀ a b, a ∈ c.byId.keys → b ∈ c.stored.mergeSort (fun a b => decide (a ≤ b)) →
        decide (a ≤ b) = true → decide (b ≤ a) = true → a = b :=
      fun a b _ _ ab ba => UInt64.le_antisymm (of_decide_eq_true ab) (of_decide_eq_true ba)
    have keysSorted : c.byId.keys.Pairwise fun a b => decide (a ≤ b) = true := by
      have ascending := inv.ordered
      unfold IdMap.Ordered at ascending
      unfold IdMap.keys
      rw [List.pairwise_map]
      exact ascending.imp fun lt => decide_eq_true (UInt64.le_of_lt lt)
    have sorted : (c.stored.mergeSort fun a b => decide (a ≤ b)).Pairwise
        fun a b => decide (a ≤ b) = true := by
      apply List.pairwise_mergeSort
      · intro a b c ab bc
        exact decide_eq_true (UInt64.le_trans (of_decide_eq_true ab) (of_decide_eq_true bc))
      · intro a b
        rcases UInt64.le_total a b with ab | ba
        · simp [ab]
        · simp [ba]
    exact List.Perm.eq_of_pairwise antisymm keysSorted sorted
      ((Synced.keys_perm inv).trans (List.mergeSort_perm _ _).symm)

/-- A page the view holds is the page its id finds. -/
theorem Inv.page?_of_mem {c : PageCache} (inv : c.Inv) {p : Page} (held : p ∈ c.view) :
    c.page? p.id = some p := by
  rw [inv.shows.page, PageList.page?]
  exact (find?_key_eq_some_iff Page.id (Synced.ids_nodup inv)).mpr ⟨held, rfl⟩

end PageCache

/-! ## Runs of calls -/

/-- A call that changes a page cache. -/
inductive CacheCall where
  | put (p : Page)
  | remove (id : UInt64)
  | removeFlow (flow : String)
  | clear

/-- What a call on a page cache returns. -/
inductive CacheReply where
  | put (id : UInt64)
  | remove (present : Bool)
  | removeFlow (count : Nat)
  | clear
  deriving DecidableEq

namespace PageCache

/-- Makes one call on a cache. -/
def call (c : PageCache) : CacheCall → CacheReply × PageCache
  | .put p => ((CacheReply.put (c.put p).1), (c.put p).2)
  | .remove id => (.remove (c.remove id).1, (c.remove id).2)
  | .removeFlow flow => (.removeFlow (c.removeFlow flow).1, (c.removeFlow flow).2)
  | .clear => (.clear, c.clear)

/-- Makes calls one after another; returns every reply and the last cache. -/
def callAll (c : PageCache) : List CacheCall → List CacheReply × PageCache
  | [] => ([], c)
  | first :: rest => ((c.call first).1 :: ((c.call first).2.callAll rest).1, ((c.call first).2.callAll rest).2)

end PageCache

namespace PageList

/-- Makes one call on the reference list. -/
def call (capacity : Option Nat) (pages : List Page) : CacheCall → CacheReply × List Page
  | .put p => (.put p.id, put capacity pages p)
  | .remove id => (.remove (remove pages id).1, (remove pages id).2)
  | .removeFlow flow => (.removeFlow (removeFlow pages flow).1, (removeFlow pages flow).2)
  | .clear => (.clear, [])

/-- Makes calls one after another on the reference list. -/
def callAll (capacity : Option Nat) (pages : List Page) : List CacheCall → List CacheReply × List Page
  | [] => ([], pages)
  | first :: rest =>
    ((call capacity pages first).1 :: (callAll capacity (call capacity pages first).2 rest).1,
      (callAll capacity (call capacity pages first).2 rest).2)

/-- A bounded reference list never grows past its capacity. -/
theorem length_call_le {n : Nat} {pages : List Page} (within : pages.length ≤ n) (c : CacheCall) :
    (call (some n) pages c).2.length ≤ n := by
  cases c with
  | put p =>
      simp only [call, put, List.length_drop]
      omega
  | remove id =>
      exact Nat.le_trans (List.length_filter_le _ _) within
  | removeFlow flow =>
      exact Nat.le_trans (List.length_filter_le _ _) within
  | clear => exact Nat.zero_le n

theorem length_callAll_le {n : Nat} (calls : List CacheCall) :
    ∀ {pages : List Page}, pages.length ≤ n → (callAll (some n) pages calls).2.length ≤ n := by
  induction calls with
  | nil => exact fun within => within
  | cons first rest ih => exact fun within => ih (length_call_le within first)

/-- With room for at least one page, the page just stored is the page found under its id. -/
theorem page?_put (capacity : Option Nat) (roomy : ∀ n, capacity = some n → 0 < n)
    (pages : List Page) (p : Page) : page? (put capacity pages p) p.id = some p := by
  -- `p` is the only page of its id left, and it sits at the back, which no eviction reaches
  have atBack : ∀ l : List Page, (∀ q ∈ l, q.id ≠ p.id) → (l ++ [p]).find? (·.id == p.id) = some p := by
    intro l others
    rw [List.find?_append, List.find?_eq_none.mpr (by simpa using others)]
    simp
  have others : ∀ q ∈ pages.filter (·.id != p.id), q.id ≠ p.id := by
    intro q member
    simpa using (List.mem_filter.mp member).2
  unfold put page?
  cases capacity with
  | none => exact atBack _ others
  | some n =>
      have positive := roomy n rfl
      simp only
      rw [List.drop_append_of_le_length (by simp only [List.length_append, List.length_singleton]; omega)]
      exact atBack _ fun q member => others q (List.mem_of_mem_drop member)

end PageList

namespace PageCache

/-- One call keeps the invariant, replies as the reference list does, and acts on the view as the
call acts on the reference list. -/
theorem Inv.call {c : PageCache} (inv : c.Inv) (first : CacheCall) :
    (c.call first).1 = (PageList.call c.capacity c.view first).1 ∧
      (c.call first).2.capacity = c.capacity ∧ (c.call first).2.Inv ∧
      (c.call first).2.view = (PageList.call c.capacity c.view first).2 := by
  cases first with
  | put p =>
      obtain ⟨returned, capacity, stays, order⟩ := inv.put p
      exact ⟨by simp [PageCache.call, PageList.call, returned], capacity, stays, order⟩
  | remove id =>
      obtain ⟨present, capacity, stays, order⟩ := inv.remove id
      exact ⟨by simp [PageCache.call, PageList.call, present], capacity, stays, order⟩
  | removeFlow flow =>
      obtain ⟨count, capacity, stays, order⟩ := inv.removeFlow flow
      exact ⟨by simp [PageCache.call, PageList.call, count], capacity, stays, order⟩
  | clear =>
      obtain ⟨stays, order⟩ := Inv.clear c
      exact ⟨rfl, rfl, stays, order⟩

/-- Any run of calls keeps the invariant and follows the reference list call by call. -/
theorem Inv.callAll (calls : List CacheCall) :
    ∀ {c : PageCache}, c.Inv →
      (c.callAll calls).1 = (PageList.callAll c.capacity c.view calls).1 ∧
        (c.callAll calls).2.Inv ∧
        (c.callAll calls).2.view = (PageList.callAll c.capacity c.view calls).2 := by
  induction calls with
  | nil => exact fun inv => ⟨rfl, inv, rfl⟩
  | cons first rest ih =>
      intro c inv
      obtain ⟨reply, capacity, stays, order⟩ := inv.call first
      obtain ⟨replies, final, finalOrder⟩ := ih stays
      simp only [PageCache.callAll, PageList.callAll]
      rw [reply, replies, finalOrder, capacity, order]
      exact ⟨rfl, final, rfl⟩

/-- No call changes a cache's capacity. -/
theorem capacity_call (c : PageCache) (first : CacheCall) : (c.call first).2.capacity = c.capacity := by
  cases first with
  | put p =>
      dsimp only [PageCache.call, PageCache.put]
      split <;> rfl
  | remove id =>
      dsimp only [PageCache.call, PageCache.remove]
      split <;> rfl
  | removeFlow flow =>
      dsimp only [PageCache.call, PageCache.removeFlow]
      split <;> rfl
  | clear => rfl

@[simp] theorem capacity_put (c : PageCache) (p : Page) : (c.put p).2.capacity = c.capacity :=
  capacity_call c (.put p)

@[simp] theorem capacity_removeFlow (c : PageCache) (flow : String) :
    (c.removeFlow flow).2.capacity = c.capacity :=
  capacity_call c (.removeFlow flow)

@[simp] theorem capacity_clear (c : PageCache) : c.clear.capacity = c.capacity := rfl

theorem capacity_callAll (calls : List CacheCall) :
    ∀ c : PageCache, (c.callAll calls).2.capacity = c.capacity := by
  induction calls with
  | nil => exact fun _ => rfl
  | cons first rest ih =>
      intro c
      simp only [PageCache.callAll]
      rw [ih, capacity_call]

/-- An empty cache satisfies the invariant and shows no page. -/
theorem Inv.empty (capacity : Option Nat) :
    ({ capacity } : PageCache).Inv ∧ ({ capacity } : PageCache).view = [] :=
  Inv.clear { capacity }

/-- **Refinement.** From an empty cache, bounded or not, any run of put, remove, remove-flow and
clear calls replies as the storage-ordered reference list does and ends in a cache that answers
every query as on the reference list. Along the way the map and the storage order stay in step, a
bounded cache never holds more than its capacity, and a page stored next is held. -/
theorem callAll_refines (capacity : Option Nat) (roomy : ∀ n, capacity = some n → 0 < n)
    (calls : List CacheCall) :
    (({ capacity } : PageCache).callAll calls).1 = (PageList.callAll capacity [] calls).1 ∧
      (({ capacity } : PageCache).callAll calls).2.Shows (PageList.callAll capacity [] calls).2 ∧
      (({ capacity } : PageCache).callAll calls).2.Inv ∧
      (∀ n, capacity = some n → (({ capacity } : PageCache).callAll calls).2.size ≤ n) ∧
      ∀ p, ((({ capacity } : PageCache).callAll calls).2.put p).2.page? p.id = some p := by
  obtain ⟨start, empty⟩ := Inv.empty capacity
  obtain ⟨replies, final, order⟩ := start.callAll calls
  rw [empty] at replies order
  have shows := final.shows
  rw [order] at shows
  refine ⟨replies, shows, final, ?_, ?_⟩
  · intro n bounded
    subst bounded
    rw [shows.size]
    exact PageList.length_callAll_le calls (Nat.zero_le n)
  · intro p
    obtain ⟨-, kept, stays, after⟩ := final.put p
    rw [stays.shows.page, after, capacity_callAll]
    exact PageList.page?_put capacity roomy _ p

/-- A cache of capacity one, run through two puts, a flow removal and a put. -/
theorem callAll_refines_one : (∀ n, some 1 = some n → 0 < n) ∧
    (({ capacity := some 1 } : PageCache).callAll
        [.put ⟨2, "ab", [], ["f"]⟩, .put ⟨1, "cd", [], []⟩, .removeFlow "f", .put ⟨3, "ef", [], []⟩]).1 =
      (PageList.callAll (some 1) []
        [.put ⟨2, "ab", [], ["f"]⟩, .put ⟨1, "cd", [], []⟩, .removeFlow "f", .put ⟨3, "ef", [], []⟩]).1 :=
  ⟨fun n h => by cases h; decide, (callAll_refines (some 1) (fun n h => by cases h; decide) _).1⟩

end PageCache

end FormIntegrity
