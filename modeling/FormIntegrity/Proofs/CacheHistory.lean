import FormIntegrity.Proofs.FreshIds

/-!
# What the caches hold, from what has happened

Once a page is stored, what happens afterwards decides which of its caches still hold it. Its
session's page cache drops it once as many pages with page states as the cache holds were stored
after it, or when the session is invalidated; its session's user-session cache keeps it until the
session is invalidated or one of its flows is ended in that session; the application cache keeps
it until one of its flows is ended in any session.

This holds because page ids are fresh: every page stored after it has an id no cache holds, so
storing it appends it, and only a bounded cache drops anything, from the front. The invariant
(`Tracks`) states, for every stored page and the events since it was stored, where the page stands
in each of its caches; a run keeps it for every page stored in it (`History`).
-/

namespace FormIntegrity

namespace PageList

theorem filter_fresh {pages : List Page} {q : Page} (fresh : ∀ p ∈ pages, p.id ≠ q.id) :
    pages.filter (·.id != q.id) = pages :=
  List.filter_eq_self.mpr fun p held => by simpa using fresh p held

/-- Storing a page whose id no held page has appends it, and a bounded list then drops from the
front. -/
theorem put_fresh_bounded (K : Nat) {pages : List Page} {q : Page} (fresh : ∀ p ∈ pages, p.id ≠ q.id) :
    put (some K) pages q = (pages ++ [q]).drop (pages.length + 1 - K) := by
  simp [put, filter_fresh fresh]

theorem put_fresh_unbounded {pages : List Page} {q : Page} (fresh : ∀ p ∈ pages, p.id ≠ q.id) :
    put none pages q = pages ++ [q] := by
  simp [put, filter_fresh fresh]

end PageList

/-- Where a page stands in a bounded list of capacity `K`, given the pages stored after it and
whether the list was emptied since: it is there exactly when it was not emptied and fewer than `K`
pages came after it, and then exactly those pages follow it. -/
def Placed (K : Nat) (P : Page) (pages : List Page) (emptied : Prop) (count : Nat) : Prop :=
  (P ∈ pages ↔ ¬emptied ∧ count < K) ∧
    (P ∈ pages → ∃ pre post, pages = pre ++ P :: post ∧ post.length = count ∧ P ∉ post)

namespace Placed

variable {K : Nat} {P : Page} {pages : List Page} {emptied : Prop} {count : Nat}

/-- A page just stored stands last, there exactly when the capacity is not zero. -/
theorem put_self (fresh : ∀ p ∈ pages, p.id ≠ P.id) (notEmptied : ¬emptied) :
    Placed K P (PageList.put (some K) pages P) emptied 0 := by
  rw [PageList.put_fresh_bounded K fresh]
  by_cases roomy : 0 < K
  · have within : pages.length + 1 - K ≤ pages.length := by omega
    rw [List.drop_append_of_le_length within]
    exact ⟨⟨fun _ => ⟨notEmptied, roomy⟩, fun _ => by simp⟩,
      fun _ => ⟨pages.drop (pages.length + 1 - K), [], rfl, rfl, by simp⟩⟩
  · have none : (pages ++ [P]).drop (pages.length + 1 - K) = [] :=
      List.drop_eq_nil_of_le (by simp; omega)
    rw [none]
    exact ⟨⟨fun inside => by simp at inside, fun ⟨_, below⟩ => absurd below roomy⟩,
      fun inside => by simp at inside⟩

/-- Storing another page with a fresh id moves the page one further from the back, and drops it
when it reaches the capacity. -/
theorem put_other (placed : Placed K P pages emptied count) {q : Page}
    (fresh : ∀ p ∈ pages, p.id ≠ q.id) (other : q ≠ P) :
    Placed K P (PageList.put (some K) pages q) emptied (count + 1) := by
  rw [PageList.put_fresh_bounded K fresh]
  by_cases held : P ∈ pages
  · obtain ⟨pre, post, rfl, counted, notAfter⟩ := placed.2 held
    obtain ⟨notEmptied, below⟩ := placed.1.mp held
    -- the page survives exactly when the drop stays within the pages before it
    generalize dropped : (pre ++ P :: post).length + 1 - K = k
    have length : (pre ++ P :: post).length = pre.length + post.length + 1 := by simp; omega
    rw [List.append_assoc, List.drop_append]
    by_cases roomy : post.length + 2 ≤ K
    · have within : k - pre.length = 0 := by omega
      rw [within, List.drop_zero]
      refine ⟨⟨fun _ => ⟨notEmptied, by omega⟩, fun _ => by simp⟩, fun _ => ?_⟩
      refine ⟨pre.drop k, post ++ [q], by simp, by simp [counted], ?_⟩
      simp [notAfter, Ne.symm other]
    · have beyond : pre.drop k = [] := List.drop_eq_nil_of_le (by omega)
      have past : k - pre.length = (k - pre.length - 1) + 1 := by omega
      rw [beyond, List.nil_append, past, List.cons_append, List.drop_succ_cons]
      have gone : P ∉ (post ++ [q]).drop (k - pre.length - 1) := fun inRest => by
        have := List.mem_of_mem_drop inRest
        simp only [List.mem_append, List.mem_singleton] at this
        rcases this with inPost | isQ
        · exact notAfter inPost
        · exact other isQ.symm
      exact ⟨⟨fun inside => absurd inside gone, fun ⟨_, below'⟩ => by omega⟩,
        fun inside => absurd inside gone⟩
  · -- a page not there is not brought back
    have absent : P ∉ (pages ++ [q]).drop (pages.length + 1 - K) := fun inside => by
      have := List.mem_of_mem_drop inside
      simp only [List.mem_append, List.mem_singleton] at this
      rcases this with old | isQ
      · exact held old
      · exact other isQ.symm
    refine ⟨⟨fun inside => absurd inside absent, fun ⟨notEmptied, below⟩ => ?_⟩,
      fun inside => absurd inside absent⟩
    exact (held (placed.1.mpr ⟨notEmptied, by omega⟩)).elim

/-- An emptied list holds the page no more. -/
theorem nil (emptiedNow : emptied) : Placed K P [] emptied count :=
  ⟨⟨fun inside => by simp at inside, fun ⟨notEmptied, _⟩ => absurd emptiedNow notEmptied⟩,
    fun inside => by simp at inside⟩

theorem congr (placed : Placed K P pages emptied count) {emptied' : Prop} (same : emptied' ↔ emptied)
    {count' : Nat} (counted : count' = count) : Placed K P pages emptied' count' := by
  rw [propext same, counted]
  exact placed

end Placed

namespace Event

/-- Whether an event stores, by a composer of session `owner`, a page with a page state: the pages
that count against the session's page cache. -/
def storesPageFor (owner : Nat) : Event → Bool
  | .composer _ o (.stored q) => o == owner && q.hasScope .page
  | _ => false

end Event

namespace Deployment

/-- Every cache has the capacity it was created with: a session's page cache the configured bound,
its user-session cache and the application cache none. -/
structure Shaped (d : Deployment) : Prop where
  sessions : ∀ (S : Nat) (s : Session), d.sessions[S]? = some s →
    s.pages.capacity = some d.guard.config.maxPagesPerSession ∧ s.userPages.capacity = none
  application : d.guard.appPages.capacity = none

theorem shaped_init (config : Config) (appKey : CipherKey) (entropy : Entropy) :
    (init config appKey entropy).Shaped where
  sessions := by simp [init]
  application := rfl

variable {d : Deployment} {trace : List Event}

/-- Replacing one session by one whose caches have the same capacities keeps every capacity. -/
theorem Shaped.set (shaped : d.Shaped) {owner : Nat} {s s' : Session} {g' : Guard}
    (sfound : d.sessions[owner]? = some s) (config : g'.config = d.guard.config)
    (application : g'.appPages.capacity = d.guard.appPages.capacity)
    (pages : s'.pages.capacity = s.pages.capacity) (userPages : s'.userPages.capacity = s.userPages.capacity)
    (composers : List (Nat × Composer)) :
    Shaped { guard := g', sessions := d.sessions.set owner s', composers } where
  sessions S s₀ found := by
    dsimp only
    rw [config]
    rcases getElem?_set_eq_some found with ⟨rfl, rfl⟩ | ⟨-, old⟩
    · rw [pages, userPages]
      exact shaped.sessions owner s sfound
    · exact shaped.sessions S s₀ old
  application := by
    dsimp only
    rw [application]
    exact shaped.application

theorem Shaped.step (shaped : d.Shaped) (call : Call) : (d.step call).1.Shaped := by
  rcases stepped : d.step call with ⟨d', events⟩
  rcases step_cases stepped with ⟨rfl, -⟩ | ⟨id, rfl, -⟩ | ⟨session, -, rfl, -⟩ |
      ⟨handle, owner, c, s, cc, notes, c', g', s', -, sfound, ok, rfl, -⟩ | ⟨session, s, sfound, rfl, -⟩ |
      ⟨session, s, flow, sfound, rfl, -⟩
  · exact shaped
  · -- a new session's caches are created with their capacities
    refine ⟨fun S s' found => ?_, by simpa using shaped.application⟩
    simp only [Guard.newSession_config]
    rw [List.getElem?_append] at found
    split at found
    · exact shaped.sessions S s' found
    · cases offset : S - d.sessions.length with
      | zero =>
        simp only [offset, List.getElem?_cons_zero, Option.some.injEq] at found
        subst found
        simp [PageCache.bounded, PageCache.unbounded]
      | succ k => simp [offset] at found
  · exact ⟨shaped.sessions, shaped.application⟩
  · have config := Composer.call_config ok
    rcases Composer.call_caches ok with ⟨rfl, sameApp, -⟩ | ⟨p, -, -, rfl, rfl⟩
    · exact shaped.set sfound config (by rw [sameApp]) rfl rfl _
    · refine shaped.set sfound config ?_ ?_ ?_ _
      · rw [Guard.store_appPages]; split <;> simp
      · rw [Session.store_pages]; split <;> simp
      · rw [Session.store_userPages]; split <;> simp
  · exact shaped.set sfound rfl rfl (by simp) (by simp) _
  · exact shaped.set sfound (by simp) (by simp) (by simp) (by simp) _

variable {handle owner : Nat} {owns : Nat → Prop} {c : PageCache}

/-- A page a cache keeps was stored, so a page whose id was never stored has an id apart from all
of them. -/
theorem Keeps.id_ne (keeps : Keeps trace owns c) {Q : Page} (fresh : Q.id ∉ storedIds trace) :
    ∀ p ∈ c.view, p.id ≠ Q.id := by
  intro p held same
  obtain ⟨handle, owner, -, stored⟩ := keeps.2 p held
  exact fresh (mem_storedIds.mpr ⟨handle, owner, p, stored, same⟩)

/-- Storing a page with a fresh id into an unbounded cache appends it. -/
theorem Keeps.view_put_unbounded (keeps : Keeps trace owns c) (unbounded : c.capacity = none)
    {Q : Page} (fresh : Q.id ∉ storedIds trace) : (c.put Q).2.view = c.view ++ [Q] := by
  rw [(keeps.1.put Q).2.2.2, unbounded, PageList.put_fresh_unbounded (keeps.id_ne fresh)]

/-- Where a page that a composer of session `S` stored stands in each cache it went into, given the
events since: in the session's page cache as `Placed` says, from the pages with page states the
session stored since and whether it was invalidated; in its user-session cache until the session is
invalidated or one of the page's flows ends in it; in the application cache until one of the page's
flows ends in any session. Its nonce is a run of hexadecimal digits. -/
structure Tracks (d : Deployment) (S : Nat) (P : Page) (after : List Event) : Prop where
  nonce : StateToken.validNonce P.nonce.toList = true
  opened : S < d.sessions.length
  pages : ∀ s, d.sessions[S]? = some s → P.hasScope .page = true →
    Placed d.guard.config.maxPagesPerSession P s.pages.view (Event.invalidated S ∈ after)
      (after.countP (Event.storesPageFor S))
  userPages : ∀ s, d.sessions[S]? = some s → P.hasScope .userSession = true →
    (P ∈ s.userPages.view ↔ Event.invalidated S ∉ after ∧ ∀ f ∈ P.flows, Event.flowEnded S f ∉ after)
  appPages : P.hasScope .application = true →
    (P ∈ d.guard.appPages.view ↔ ∀ f ∈ P.flows, ∀ o, Event.flowEnded o f ∉ after)

variable {S : Nat} {P : Page} {after : List Event}

/-- Events that neither invalidate, end a flow nor store a page for the session, over calls that
leave the session's caches and the application cache alone, keep a page where it stands. -/
theorem Tracks.quiet (tracks : d.Tracks S P after) {d' : Deployment} {more : List Event}
    (config : d'.guard.config = d.guard.config) (appPages : d'.guard.appPages = d.guard.appPages)
    (longer : d.sessions.length ≤ d'.sessions.length) (session : d'.sessions[S]? = d.sessions[S]?)
    (noInvalidated : Event.invalidated S ∉ more) (noFlows : ∀ o f, Event.flowEnded o f ∉ more)
    (noStores : more.countP (Event.storesPageFor S) = 0) : d'.Tracks S P (after ++ more) where
  nonce := tracks.nonce
  opened := Nat.lt_of_lt_of_le tracks.opened longer
  pages s found kept := by
    rw [session] at found
    rw [config, List.countP_append, noStores, Nat.add_zero]
    exact (tracks.pages s found kept).congr (by simp [noInvalidated]) rfl
  userPages s found kept := by
    rw [session] at found
    simpa [noInvalidated, noFlows] using tracks.userPages s found kept
  appPages kept := by
    rw [appPages]
    simpa [noFlows] using tracks.appPages kept

/-- Notes about anything but a stored page count no page against a session. -/
theorem countP_storesPageFor_eq_zero {notes : List Note} (unstored : ∀ p, Note.stored p ∉ notes) :
    (notes.map (.composer handle owner)).countP (Event.storesPageFor S) = 0 := by
  simp only [List.countP_eq_zero, List.mem_map]
  rintro e ⟨note, noted, rfl⟩
  cases note with
  | stored p => exact absurd noted (unstored p)
  | _ => simp [Event.storesPageFor]

/-- Storing a page whose id was never stored before keeps every other stored page where it stands,
only moving it one further from the back of its session's page cache when the new page has a page
state and goes to the same session. -/
theorem Tracks.store (tracks : d.Tracks S P after) (sound : d.Sound trace) (shaped : d.Shaped)
    {s : Session} (sfound : d.sessions[owner]? = some s) {Q : Page} (fresh : Q.id ∉ storedIds trace)
    (stored : P.id ∈ storedIds trace) (composers : List (Nat × Composer)) :
    Tracks { guard := d.guard.store Q, sessions := d.sessions.set owner (s.store Q), composers } S P
      (after ++ [Event.composer handle owner (.stored Q)]) := by
  have other : Q ≠ P := fun same => fresh (same ▸ stored)
  have caches := sound.sessions owner s sfound
  have capacities := shaped.sessions owner s sfound
  have noInvalidated : Event.invalidated S ∈ after ++ [Event.composer handle owner (.stored Q)] ↔
      Event.invalidated S ∈ after := by simp
  have noFlows : ∀ o f, Event.flowEnded o f ∈ after ++ [Event.composer handle owner (.stored Q)] ↔
      Event.flowEnded o f ∈ after := by simp
  refine ⟨tracks.nonce, by simpa using tracks.opened, ?_, ?_, ?_⟩
  · intro s₀ found kept
    simp only [Guard.store_config]
    rcases getElem?_set_eq_some found with ⟨rfl, rfl⟩ | ⟨apart, old⟩
    · have placed := tracks.pages s sfound kept
      rw [Session.store_pages, List.countP_append]
      by_cases counts : Q.hasScope .page = true
      · -- the new page goes behind the page in the same bounded cache
        rw [if_pos counts, (caches.1.1.put Q).2.2.2, capacities.1]
        exact (placed.put_other (caches.1.id_ne fresh) other).congr noInvalidated
          (by simp [Event.storesPageFor, counts])
      · rw [if_neg counts]
        exact placed.congr noInvalidated (by simp [Event.storesPageFor, counts])
    · rw [List.countP_append]
      exact (tracks.pages s₀ old kept).congr noInvalidated
        (by simp [Event.storesPageFor, apart])
  · intro s₀ found kept
    rcases getElem?_set_eq_some found with ⟨rfl, rfl⟩ | ⟨-, old⟩
    · rw [Session.store_userPages]
      split
      · rw [caches.2.view_put_unbounded capacities.2 fresh]
        simpa [noFlows, Ne.symm other] using tracks.userPages s sfound kept
      · simpa [noFlows] using tracks.userPages s sfound kept
    · simpa [noFlows] using tracks.userPages s₀ old kept
  · intro kept
    dsimp only
    rw [Guard.store_appPages]
    split
    · rw [sound.application.view_put_unbounded shaped.application fresh]
      simpa [noFlows, Ne.symm other] using tracks.appPages kept
    · simpa [noFlows] using tracks.appPages kept

/-- A page just stored with a fresh id stands at the back of each cache of its scopes. -/
theorem tracks_store (sound : d.Sound trace) (shaped : d.Shaped) {s : Session}
    (sfound : d.sessions[owner]? = some s) {Q : Page} (fresh : Q.id ∉ storedIds trace)
    (nonce : StateToken.validNonce Q.nonce.toList = true) (composers : List (Nat × Composer)) :
    Tracks { guard := d.guard.store Q, sessions := d.sessions.set owner (s.store Q), composers } owner Q [] := by
  have caches := sound.sessions owner s sfound
  have capacities := shaped.sessions owner s sfound
  have opened : owner < d.sessions.length := (List.getElem?_eq_some_iff.mp sfound).1
  have stored : (d.sessions.set owner (s.store Q))[owner]? = some (s.store Q) := by
    simp [opened]
  refine ⟨nonce, by simpa using opened, ?_, ?_, ?_⟩
  · intro s₀ found kept
    rw [stored, Option.some.injEq] at found
    subst found
    rw [Guard.store_config, Session.store_pages, if_pos kept, (caches.1.1.put Q).2.2.2, capacities.1,
      List.countP_nil]
    exact Placed.put_self (caches.1.id_ne fresh) List.not_mem_nil
  · intro s₀ found kept
    rw [stored, Option.some.injEq] at found
    subst found
    rw [Session.store_userPages, if_pos kept, caches.2.view_put_unbounded capacities.2 fresh]
    simp
  · intro kept
    dsimp only
    rw [Guard.store_appPages, if_pos kept, sound.application.view_put_unbounded shaped.application fresh]
    simp

/-- Invalidating a session empties its caches for good and leaves every other cache alone. -/
theorem Tracks.invalidate (tracks : d.Tracks S P after) (session : Nat) (s : Session) :
    Tracks { d with sessions := d.sessions.set session s.invalidate } S P
      (after ++ [Event.invalidated session]) := by
  refine ⟨tracks.nonce, by simpa using tracks.opened, ?_, ?_, ?_⟩
  · intro s₀ found kept
    rcases getElem?_set_eq_some found with ⟨rfl, rfl⟩ | ⟨apart, old⟩
    · rw [Session.invalidate_pages, (PageCache.Inv.clear _).2]
      exact Placed.nil (by simp)
    · rw [List.countP_append]
      exact (tracks.pages s₀ old kept).congr (by simp [Ne.symm apart])
        (by simp [Event.storesPageFor])
  · intro s₀ found kept
    rcases getElem?_set_eq_some found with ⟨rfl, rfl⟩ | ⟨apart, old⟩
    · rw [Session.invalidate_userPages, (PageCache.Inv.clear _).2]
      simp
    · simpa [Ne.symm apart] using tracks.userPages s₀ old kept
  · intro kept
    simpa using tracks.appPages kept

/-- Ending a flow in a session drops the pages of the flow from that session's user-session cache
and from the application cache, and touches no page cache. -/
theorem Tracks.endFlow (tracks : d.Tracks S P after) (sound : d.Sound trace) {session : Nat}
    {s : Session} (sfound : d.sessions[session]? = some s) (flow : String) :
    Tracks { d with guard := (d.guard.endFlow s flow).2.1,
                    sessions := d.sessions.set session (d.guard.endFlow s flow).2.2 } S P
      (after ++ [Event.flowEnded session flow]) := by
  refine ⟨tracks.nonce, by simpa using tracks.opened, ?_, ?_, ?_⟩
  · intro s₀ found kept
    simp only [Guard.endFlow_config]
    rw [List.countP_append]
    rcases getElem?_set_eq_some found with ⟨rfl, rfl⟩ | ⟨-, old⟩
    · rw [Guard.endFlow_pages]
      exact (tracks.pages s sfound kept).congr (by simp) (by simp [Event.storesPageFor])
    · exact (tracks.pages s₀ old kept).congr (by simp) (by simp [Event.storesPageFor])
  · intro s₀ found kept
    rcases getElem?_set_eq_some found with ⟨rfl, rfl⟩ | ⟨apart, old⟩
    · rw [Guard.endFlow_userPages, ((sound.sessions session s sfound).2.1.removeFlow flow).2.2.2]
      have before := tracks.userPages s sfound kept
      simp only [PageList.removeFlow, List.mem_filter, before, Page.belongsTo]
      simp only [List.mem_append, List.mem_singleton, Event.flowEnded.injEq]
      grind
    · simpa [Ne.symm apart] using tracks.userPages s₀ old kept
  · intro kept
    dsimp only
    rw [Guard.endFlow_appPages, (sound.application.1.removeFlow flow).2.2.2]
    have before := tracks.appPages kept
    simp only [PageList.removeFlow, List.mem_filter, before, Page.belongsTo]
    simp only [List.mem_append, List.mem_singleton, Event.flowEnded.injEq]
    grind

/-- Every call keeps a stored page where the events since say it stands. -/
theorem Tracks.step (tracks : d.Tracks S P after) (sound : d.Sound trace) (fresh : d.Fresh trace)
    (shaped : d.Shaped) (stored : P.id ∈ storedIds trace) (call : Call) :
    (d.step call).1.Tracks S P (after ++ (d.step call).2) := by
  rcases stepped : d.step call with ⟨d', more⟩
  rcases step_cases stepped with ⟨rfl, rfl⟩ | ⟨id, rfl, rfl⟩ | ⟨session, -, rfl, rfl⟩ |
      ⟨handle, owner, c, s, cc, notes, c', g', s', found, sfound, ok, rfl, rfl⟩ |
      ⟨session, s, -, rfl, rfl⟩ | ⟨session, s, flow, sfound, rfl, rfl⟩
  · simpa using tracks
  · -- a new session goes after the others, and the guard only draws from the entropy
    exact tracks.quiet (by simp) (by simp) (by simp) (List.getElem?_append_left tracks.opened)
      (by simp) (by simp) rfl
  · exact tracks.quiet rfl rfl (Nat.le_refl _) rfl (by simp) (by simp) rfl
  · rcases Composer.call_caches ok with ⟨rfl, sameApp, unstored⟩ | ⟨Q, storedAt, rfl, rfl, rfl⟩
    · exact tracks.quiet (Composer.call_config ok) sameApp (by simp)
        (by rw [set_of_getElem?_eq_some sfound]) (by simp) (by simp) (countP_storesPageFor_eq_zero unstored)
    · -- the page stored now had a draft's id, which no stored page has
      obtain ⟨D, drafted, rfl, -, -⟩ := Composer.storedPage_eq_some storedAt
      rw [List.map_singleton]
      exact tracks.store sound shaped sfound (fresh.draftUnstored handle owner c D found drafted) stored _
  · exact tracks.invalidate session s
  · exact tracks.endFlow sound sfound flow

/-- The page a call stores is where a page just stored stands. -/
theorem tracks_stepped (sound : d.Sound trace) (fresh : d.Fresh trace) (shaped : d.Shaped) {call : Call}
    {pre : List Event} (noted : (d.step call).2 = pre ++ Event.composer handle S (.stored P) :: after) :
    (d.step call).1.Tracks S P after := by
  rcases stepped : d.step call with ⟨d', more⟩
  rw [stepped] at noted
  dsimp only at noted ⊢
  have inMore : Event.composer handle S (.stored P) ∈ more := by
    rw [noted]
    simp
  rcases step_cases stepped with ⟨rfl, rfl⟩ | ⟨id, rfl, rfl⟩ | ⟨session, -, rfl, rfl⟩ |
      ⟨handle', owner, c, s, cc, notes, c', g', s', found, sfound, ok, rfl, rfl⟩ |
      ⟨session, s, -, rfl, rfl⟩ | ⟨session, s, flow, sfound, rfl, rfl⟩
  · simp at inMore
  · simp at inMore
  · simp at inMore
  · rcases Composer.call_caches ok with ⟨rfl, -, unstored⟩ | ⟨Q, storedAt, rfl, rfl, rfl⟩
    · -- no other composer call notes a stored page
      obtain ⟨note, noted', same⟩ := List.mem_map.mp inMore
      cases same
      exact absurd noted' (unstored P)
    · obtain ⟨D, drafted, rfl, -, -⟩ := Composer.storedPage_eq_some storedAt
      -- the one event of the call is the stored page
      rw [List.map_singleton] at noted
      cases pre with
      | nil =>
        simp only [List.nil_append, List.cons.injEq, Event.composer.injEq, Note.stored.injEq] at noted
        obtain ⟨⟨-, rfl, rfl⟩, rfl⟩ := noted
        -- the goal fixes the page stored; left to the arguments, unification is slow
        apply tracks_store sound shaped sfound
        · exact fresh.draftUnstored handle' owner c D found drafted
        · exact (sound.coherent handle' owner c found).nonce D drafted
      | cons first pre => simp at noted
  · simp at inMore
  · simp at inMore

/-- Every page stored in a trace stands, in each cache it went into, where the events after it say. -/
def History (d : Deployment) (trace : List Event) : Prop :=
  ∀ before handle S P after, trace = before ++ Event.composer handle S (.stored P) :: after →
    d.Tracks S P after

theorem history_init (config : Config) (appKey : CipherKey) (entropy : Entropy) :
    (init config appKey entropy).History [] := by
  intro before handle S P after split
  simp at split

/-- An event of a trace grown by some events stands in the trace before them or among them. -/
theorem split_append {more before after : List Event} {e : Event}
    (split : trace ++ more = before ++ e :: after) :
    (∃ mid, trace = before ++ e :: mid ∧ after = mid ++ more) ∨
      ∃ pre, before = trace ++ pre ∧ more = pre ++ e :: after := by
  rcases List.append_eq_append_iff.mp split with ⟨pre, rfl, rfl⟩ | ⟨mid, rfl, grown⟩
  · exact .inr ⟨pre, rfl, rfl⟩
  · cases mid with
    | nil => exact .inr ⟨[], by simp, by simpa using grown.symm⟩
    | cons x mid =>
      simp only [List.cons_append, List.cons.injEq] at grown
      obtain ⟨rfl, rfl⟩ := grown
      exact .inl ⟨mid, rfl, rfl⟩

theorem History.step (history : d.History trace) (sound : d.Sound trace) (fresh : d.Fresh trace)
    (shaped : d.Shaped) (call : Call) : (d.step call).1.History (trace ++ (d.step call).2) := by
  intro before handle S P after split
  rcases split_append split with ⟨mid, old, rfl⟩ | ⟨pre, -, now⟩
  · -- stored before this call: one more step of its tracking
    have stored : P.id ∈ storedIds trace := mem_storedIds.mpr ⟨handle, S, P, by simp [old], rfl⟩
    exact (history before handle S P mid old).step sound fresh shaped stored call
  · exact tracks_stepped sound fresh shaped now

/-- In every run of a fresh guard under the memory strategy in which fewer than `2 ^ 64` pages are
started, every stored page stands where the events after it say. -/
theorem history_run {config : Config} (memory : config.strategy = .memory) (appKey : CipherKey)
    (entropy : Entropy) (calls : List Call)
    (few : started ((init config appKey entropy).run calls).2 < 2 ^ 64) :
    ((init config appKey entropy).run calls).1.History ((init config appKey entropy).run calls).2 := by
  have all := @run_preserves
    (fun d trace => d.Sound trace ∧ d.Shaped ∧ (started trace < 2 ^ 64 → d.Fresh trace ∧ d.History trace))
    (fun d trace call ⟨sound, shaped, later⟩ => ⟨sound.step call, shaped.step call, fun few' => by
      obtain ⟨fresh, history⟩ := later (by simp only [started_append] at few'; omega)
      exact ⟨fresh.step sound call few', history.step sound fresh shaped call⟩⟩)
    (init config appKey entropy) []
    ⟨sound_init memory appKey entropy, shaped_init config appKey entropy,
      fun _ => ⟨fresh_init config appKey entropy, history_init config appKey entropy⟩⟩ calls
  simp only [List.nil_append] at all
  exact (all.2.2 few).2

end Deployment

end FormIntegrity
