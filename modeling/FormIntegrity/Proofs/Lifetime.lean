import FormIntegrity.Proofs.CacheHistory

/-!
# How long a memory token resolves

Under the memory strategy the token handed out for a state of a page refers into the cache of the
state's scope, so it resolves exactly while that cache holds the page, and the cache history
(`History`) reads that off the events since the page was stored (`Alive`):

* a page state resolves in its own session until the session is invalidated, or until as many pages
  with page states as a session's page cache holds were stored in that session after it;
* a user-session state resolves in its own session until the session is invalidated or one of the
  page's flows is ended in it;
* an application state resolves in every session until one of the page's flows is ended in any
  session.

Every other lookup is refused as expired or tampered: from another session, after that, with
another scope prefix or nonce, and while the page is still being drafted. Page ids are handed out
once (`Fresh`), so a cache that holds a page with the token's id holds the page itself.
-/

namespace FormIntegrity

namespace Deployment

variable {d : Deployment} {trace : List Event}

/-- Two stored events of a trace whose pages share an id are one: one session stored one page. -/
theorem stored_unique (once : (storedIds trace).Nodup) {h h' o o' : Nat} {p q : Page}
    (stored : Event.composer h o (.stored p) ∈ trace) (stored' : Event.composer h' o' (.stored q) ∈ trace)
    (same : p.id = q.id) : o = o' ∧ p = q := by
  induction trace with
  | nil => simp at stored
  | cons e rest ih =>
    rw [show e :: rest = [e] ++ rest from rfl, storedIds_append, List.nodup_append] at once
    obtain ⟨-, tail, apart⟩ := once
    -- the head's id is stored nowhere in the rest
    have first_apart : ∀ {h o h' o' : Nat} {p q : Page}, Event.composer h o (.stored p) = e →
        Event.composer h' o' (.stored q) ∈ rest → p.id ≠ q.id := by
      rintro h o h' o' p q rfl later
      exact apart p.id (by simp [storedIds, Event.storedId?]) q.id
        (mem_storedIds.mpr ⟨h', o', q, later, rfl⟩)
    rcases List.mem_cons.mp stored with first | later <;>
      rcases List.mem_cons.mp stored' with first' | later'
    · have one := first.trans first'.symm
      simp only [Event.composer.injEq, Note.stored.injEq] at one
      exact ⟨one.2.1, one.2.2⟩
    · exact absurd same (first_apart first later')
    · exact absurd same.symm (first_apart first' later)
    · exact ih tail later later'

variable {handle S S' : Nat} {P : Page} {s' : Session}

/-- A page found under an id in the cache a session looks a scope up in is held there and was
stored, by a composer of that session unless the scope is the application's. -/
theorem Sound.page?_cacheFor (sound : d.Sound trace) (opened : d.sessions[S']? = some s') {σ : Scope}
    {id : UInt64} {q : Page} (found : (d.guard.cacheFor s' σ).page? id = some q) :
    q ∈ (d.guard.cacheFor s' σ).view ∧ q.id = id ∧
      ∃ h o, (σ ≠ .application → o = S') ∧ Event.composer h o (.stored q) ∈ trace := by
  have keeps := sound.cacheFor opened σ
  obtain ⟨held, keyed⟩ := PageList.page?_eq_some ((keeps.1.shows.page id).symm.trans found)
  exact ⟨held, keyed, keeps.2 q held⟩

/-- A session's own caches hold no page that a composer of another session stored. -/
theorem Sound.not_held_apart (sound : d.Sound trace) (once : (storedIds trace).Nodup)
    (stored : Event.composer handle S (.stored P) ∈ trace) (opened : d.sessions[S']? = some s')
    (apart : S' ≠ S) {σ : Scope} (own : σ ≠ .application) : P ∉ (d.guard.cacheFor s' σ).view := by
  intro held
  obtain ⟨h, owner, right, stored'⟩ := (sound.cacheFor opened σ).2 P held
  exact apart ((right own).symm.trans (stored_unique once stored stored' rfl).1.symm)

/-- No cache holds a page under an id that was never stored, so no memory token naming it names a
state. -/
theorem Sound.named_unstored (sound : d.Sound trace) (opened : d.sessions[S']? = some s')
    {id index : UInt64} (unstored : id ∉ storedIds trace) (σ : Scope) (nonce : String) :
    d.guard.named s' ⟨σ, .memory id index nonce⟩ = none := by
  cases found : (d.guard.cacheFor s' σ).page? id with
  | none => simp [Guard.named, found]
  | some q =>
    obtain ⟨-, keyed, h, o, -, stored⟩ := sound.page?_cacheFor opened found
    exact absurd (mem_storedIds.mpr ⟨h, o, q, stored, keyed⟩) unstored

variable {j : Nat} {st : State}

theorem toNat_toUInt64_of_lt (small : j < 2 ^ 64) : j.toUInt64.toNat = j := by
  rw [Nat.toUInt64_eq, UInt64.toNat_ofNat_of_lt' small]

/-- A memory token naming a stored page's id and one of its positions names a state only if the
cache of its scope holds the page, the nonce is the page's and the scope is the state's; the state
is then the page's state at that position. -/
theorem Sound.named_stored (sound : d.Sound trace) (once : (storedIds trace).Nodup)
    (stored : Event.composer handle S (.stored P) ∈ trace) (opened : d.sessions[S']? = some s')
    (state : P.states[j]? = some st) (small : j < 2 ^ 64) {σ : Scope} {n : String} {x : State}
    (named : d.guard.named s' ⟨σ, .memory P.id j.toUInt64 n⟩ = some x) :
    P ∈ (d.guard.cacheFor s' σ).view ∧ n = P.nonce ∧ σ = st.scope ∧ x = st := by
  simp only [Guard.named, Option.filter_eq_some_iff, beq_iff_eq] at named
  obtain ⟨found, sameScope⟩ := named
  obtain ⟨q, held, picked⟩ := Option.bind_eq_some_iff.mp found
  obtain ⟨inView, keyed, h, o, -, stored'⟩ := sound.page?_cacheFor opened held
  -- the page found under the id is the stored page itself
  obtain ⟨-, rfl⟩ := stored_unique once stored' stored keyed
  split at picked
  · rename_i sameNonce
    rw [Page.state?, toNat_toUInt64_of_lt small, state, Option.some.injEq] at picked
    subst picked
    exact ⟨inView, sameNonce.symm, sameScope.symm, rfl⟩
  · cases picked

/-- The token handed out for a state names it wherever the cache of its scope holds its page. -/
theorem Sound.named_held (sound : d.Sound trace) (opened : d.sessions[S']? = some s')
    (held : P ∈ (d.guard.cacheFor s' st.scope).view) (state : P.states[j]? = some st)
    (small : j < 2 ^ 64) :
    d.guard.named s' ⟨st.scope, .memory P.id j.toUInt64 P.nonce⟩ = some st := by
  have found := (sound.cacheFor opened st.scope).1.page?_of_mem held
  simp [Guard.named, found, Page.state?, toNat_toUInt64_of_lt small, state]

/-- Whether a page that a composer of session `S` stored is still held, for lookups from session
`S'`, in the cache of a scope, from the events since it was stored; `K` bounds a session's page
cache. -/
def Alive (K S S' : Nat) (P : Page) (after : List Event) : Scope → Prop
  | .page => S' = S ∧ Event.invalidated S ∉ after ∧ after.countP (Event.storesPageFor S) < K
  | .userSession => S' = S ∧ Event.invalidated S ∉ after ∧ ∀ f ∈ P.flows, Event.flowEnded S f ∉ after
  | .application => ∀ f ∈ P.flows, ∀ o, Event.flowEnded o f ∉ after

/-- The cache a session looks a stored page's scope up in holds the page exactly while it is alive. -/
theorem History.held_iff (history : d.History trace) (sound : d.Sound trace)
    (once : (storedIds trace).Nodup) {before after : List Event}
    (split : trace = before ++ Event.composer handle S (.stored P) :: after)
    (opened : d.sessions[S']? = some s') {σ : Scope} (kept : P.hasScope σ = true) :
    P ∈ (d.guard.cacheFor s' σ).view ↔ Alive d.guard.config.maxPagesPerSession S S' P after σ := by
  have tracks := history before handle S P after split
  have stored : Event.composer handle S (.stored P) ∈ trace := by simp [split]
  by_cases same : S' = S
  · subst same
    cases σ with
    | page => simpa [Alive, Guard.cacheFor, Session.cache?] using (tracks.pages s' opened kept).1
    | userSession => simpa [Alive, Guard.cacheFor, Session.cache?] using tracks.userPages s' opened kept
    | application => exact tracks.appPages kept
  · -- another session's page and user-session caches never held the page
    cases σ with
    | page => simpa [Alive, same] using sound.not_held_apart once stored opened same (σ := .page) (by simp)
    | userSession =>
      simpa [Alive, same] using sound.not_held_apart once stored opened same (σ := .userSession) (by simp)
    | application => exact tracks.appPages kept

/-- **How long a memory token resolves.** In every run of a guard under the memory strategy with
any sessions and composers driven in any order and any invalidations and ended flows, in which fewer
than `2 ^ 64` pages are started: a token naming a page still being drafted resolves nowhere; and for
every page a composer of session `S` stored and every state on it, the token handed out for the
state resolves in a session `S'` to that state exactly while the page is `Alive` for `S'` in the
cache of the state's scope, and is refused as expired or tampered otherwise, as is any token naming
the same page and position under another scope or nonce. -/
theorem token_lifetime {config : Config} (memory : config.strategy = .memory) {appKey : CipherKey}
    {entropy : Entropy} {calls : List Call} {d : Deployment} {trace : List Event}
    (ran : (init config appKey entropy).run calls = (d, trace)) (few : started trace < 2 ^ 64) :
    (∀ (handle owner : Nat) (c : Composer) (D : PageDraft), d.composers[handle]? = some (owner, c) →
      c.page = some D → ∀ (S' : Nat) (s' : Session), d.sessions[S']? = some s' →
      ∀ (raw : String) (σ : Scope) (index : UInt64) (n : String),
        StateToken.parse raw = .ok ⟨σ, .memory D.id index n⟩ →
        d.guard.resolve s' raw = .error (.expiredOrTampered raw)) ∧
    ∀ (before : List Event) (handle S : Nat) (P : Page) (after : List Event),
      trace = before ++ Event.composer handle S (.stored P) :: after →
      ∀ (j : Nat) (st : State), P.states[j]? = some st → j < 2 ^ 64 →
        Event.composer handle S (.issued ⟨st.scope, .memory P.id j.toUInt64 P.nonce⟩ st) ∈ trace ∧
        ∀ (S' : Nat) (s' : Session), d.sessions[S']? = some s' →
          (d.guard.resolve s' (StateToken.render ⟨st.scope, .memory P.id j.toUInt64 P.nonce⟩) = .ok st ↔
            Alive config.maxPagesPerSession S S' P after st.scope) ∧
          (¬Alive config.maxPagesPerSession S S' P after st.scope →
            d.guard.resolve s' (StateToken.render ⟨st.scope, .memory P.id j.toUInt64 P.nonce⟩) =
              .error (.expiredOrTampered (StateToken.render ⟨st.scope, .memory P.id j.toUInt64 P.nonce⟩))) ∧
          ∀ (raw : String) (σ : Scope) (n : String), StateToken.parse raw = .ok ⟨σ, .memory P.id j.toUInt64 n⟩ →
            (σ, n) ≠ (st.scope, P.nonce) → d.guard.resolve s' raw = .error (.expiredOrTampered raw) := by
  have sound := sound_run memory appKey entropy calls
  have fresh := fresh_run memory appKey entropy calls (by rw [ran]; exact few)
  have history := history_run memory appKey entropy calls (by rw [ran]; exact few)
  have sameConfig := run_config (init config appKey entropy) calls
  rw [ran] at sound fresh history sameConfig
  dsimp only [init] at sound fresh history sameConfig
  -- a token that names no state is refused as expired or tampered
  have refused : ∀ {s' : Session} {raw : String} {token : StateToken}, StateToken.parse raw = .ok token →
      d.guard.named s' token = none → d.guard.resolve s' raw = .error (.expiredOrTampered raw) := by
    intro s' raw token parsed unnamed
    rw [Guard.resolve_eq, parsed]
    simp only [unnamed]
  refine ⟨?_, ?_⟩
  · intro handle owner c D found drafted S' s' opened raw σ index n parsed
    exact refused parsed (sound.named_unstored opened (fresh.draftUnstored handle owner c D found drafted) σ n)
  · intro before handle S P after split j st state small
    have stored : Event.composer handle S (.stored P) ∈ trace := by simp [split]
    refine ⟨sound.stored handle S P stored j st state, fun S' s' opened => ?_⟩
    have kept : P.hasScope st.scope = true := by
      simpa [Page.hasScope] using ⟨st, List.mem_of_getElem? state, rfl⟩
    have held := history.held_iff sound fresh.storedOnce split opened kept
    rw [sameConfig] at held
    have parsed := StateToken.parse_render_memory st.scope P.id j.toUInt64 P.nonce
      (history before handle S P after split).nonce
    have otherwise : ∀ {σ n}, (σ, n) ≠ (st.scope, P.nonce) →
        d.guard.named s' ⟨σ, .memory P.id j.toUInt64 n⟩ = none := by
      intro σ n changed
      cases named : d.guard.named s' ⟨σ, .memory P.id j.toUInt64 n⟩ with
      | none => rfl
      | some x =>
        obtain ⟨-, rfl, rfl, -⟩ := sound.named_stored fresh.storedOnce stored opened state small named
        exact absurd rfl changed
    refine ⟨?_, fun dead => ?_, fun raw σ n parsed' changed => refused parsed' (otherwise changed)⟩
    · constructor
      · intro resolved
        rw [Guard.resolve_eq, parsed] at resolved
        cases named : d.guard.named s' ⟨st.scope, .memory P.id j.toUInt64 P.nonce⟩ with
        | none => simp [named] at resolved
        | some x => exact held.mp (sound.named_stored fresh.storedOnce stored opened state small named).1
      · intro alive
        rw [Guard.resolve_eq, parsed]
        simp only [sound.named_held opened (held.mpr alive) state small]
    · -- a dead page is in no cache the session looks in, so the token names nothing
      apply refused parsed
      cases named : d.guard.named s' ⟨st.scope, .memory P.id j.toUInt64 P.nonce⟩ with
      | none => rfl
      | some x => exact absurd (held.mp (sound.named_stored fresh.storedOnce stored opened state small named).1) dead

theorem token_lifetime_transfer :
    Config.default.strategy = .memory ∧ started transferRun.2 < 2 ^ 64 ∧
    (∀ (handle owner : Nat) (c : Composer) (D : PageDraft), transferRun.1.composers[handle]? = some (owner, c) →
      c.page = some D → ∀ (S' : Nat) (s' : Session), transferRun.1.sessions[S']? = some s' →
      ∀ (raw : String) (σ : Scope) (index : UInt64) (n : String),
        StateToken.parse raw = .ok ⟨σ, .memory D.id index n⟩ →
        transferRun.1.guard.resolve s' raw = .error (.expiredOrTampered raw)) ∧
    ∀ (before : List Event) (handle S : Nat) (P : Page) (after : List Event),
      transferRun.2 = before ++ Event.composer handle S (.stored P) :: after →
      ∀ (j : Nat) (st : State), P.states[j]? = some st → j < 2 ^ 64 →
        Event.composer handle S (.issued ⟨st.scope, .memory P.id j.toUInt64 P.nonce⟩ st) ∈ transferRun.2 ∧
        ∀ (S' : Nat) (s' : Session), transferRun.1.sessions[S']? = some s' →
          (transferRun.1.guard.resolve s' (StateToken.render ⟨st.scope, .memory P.id j.toUInt64 P.nonce⟩) =
              .ok st ↔
            Alive Config.default.maxPagesPerSession S S' P after st.scope) ∧
          (¬Alive Config.default.maxPagesPerSession S S' P after st.scope →
            transferRun.1.guard.resolve s' (StateToken.render ⟨st.scope, .memory P.id j.toUInt64 P.nonce⟩) =
              .error (.expiredOrTampered (StateToken.render ⟨st.scope, .memory P.id j.toUInt64 P.nonce⟩))) ∧
          ∀ (raw : String) (σ : Scope) (n : String),
            StateToken.parse raw = .ok ⟨σ, .memory P.id j.toUInt64 n⟩ →
            (σ, n) ≠ (st.scope, P.nonce) → transferRun.1.guard.resolve s' raw = .error (.expiredOrTampered raw) :=
  ⟨rfl, by decide, token_lifetime rfl rfl (by decide)⟩

end Deployment

end FormIntegrity
