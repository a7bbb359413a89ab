import FormIntegrity.Proofs.Resolution
import FormIntegrity.Proofs.PageCache

/-!
# Memory tokens cannot be forged

Under the memory strategy a token is a reference into a page cache: a page id, a state index and
the page's nonce. Resolving a text succeeds only when it names, under the right scope, a state of a
page some cache still holds. So the one way to hold a resolvable token is to have been handed it.

The argument is an invariant of every run (`Sound`). Every state of a page being drafted was handed
out, by that draft's composer, the memory token of its position; every stored page was drafted so;
and every cache holds only stored pages, a session's caches only pages its own composers stored.
Resolution then finds a stored page, and the nonce and scope checks pin the token down to the one
handed out.

Cipher-format texts are decrypted with the key of their scope, and this strategy produces no
ciphertext at all: such a text resolves only if the cipher accepts a ciphertext nobody sealed.
-/

namespace FormIntegrity


namespace Deployment

/-- The composer `handle` of session `owner` handed out, for each state of a page with this id and
nonce, the memory token of the state's scope and position. -/
def Issued (trace : List Event) (handle owner : Nat) (id : UInt64) (nonce : String)
    (states : List State) : Prop :=
  ∀ (j : Nat) (st : State), states[j]? = some st →
    Event.composer handle owner (.issued ⟨st.scope, .memory id j.toUInt64 nonce⟩ st) ∈ trace

/-- A cache whose map and storage order agree and that holds only pages stored by a composer of a
session that `owns` accepts. -/
def Keeps (trace : List Event) (owns : Nat → Prop) (c : PageCache) : Prop :=
  c.Inv ∧ ∀ p ∈ c.view, ∃ handle owner, owns owner ∧ Event.composer handle owner (.stored p) ∈ trace

variable {trace : List Event} {handle owner : Nat} {id : UInt64} {nonce : String}
variable {states : List State} {owns : Nat → Prop} {c : PageCache}

theorem Issued.mono (issued : Issued trace handle owner id nonce states) (more : List Event) :
    Issued (trace ++ more) handle owner id nonce states :=
  fun j st found => List.mem_append_left more (issued j st found)

theorem Keeps.mono (keeps : Keeps trace owns c) (more : List Event) : Keeps (trace ++ more) owns c := by
  refine ⟨keeps.1, fun p held => ?_⟩
  obtain ⟨handle, owner, owned, stored⟩ := keeps.2 p held
  exact ⟨handle, owner, owned, List.mem_append_left more stored⟩

theorem keeps_empty (capacity : Option Nat) : Keeps trace owns { capacity } := by
  refine ⟨(PageCache.Inv.empty capacity).1, fun p held => ?_⟩
  simp [(PageCache.Inv.empty capacity).2] at held

theorem keeps_clear (c : PageCache) : Keeps trace owns c.clear := by
  refine ⟨(PageCache.Inv.clear c).1, fun p held => ?_⟩
  simp [(PageCache.Inv.clear c).2] at held

theorem Keeps.removeFlow (keeps : Keeps trace owns c) (flow : String) :
    Keeps trace owns (c.removeFlow flow).2 := by
  obtain ⟨-, -, inv, view⟩ := keeps.1.removeFlow flow
  refine ⟨inv, fun p held => ?_⟩
  rw [view] at held
  exact keeps.2 p (PageList.mem_removeFlow held).1

/-- Storing a page that a composer of an accepted session stored keeps a cache keeping. -/
theorem Keeps.put (keeps : Keeps trace owns c) {p : Page}
    (stored : ∃ handle owner, owns owner ∧ Event.composer handle owner (.stored p) ∈ trace) :
    Keeps trace owns (c.put p).2 := by
  obtain ⟨-, -, inv, view⟩ := keeps.1.put p
  refine ⟨inv, fun q held => ?_⟩
  rw [view] at held
  rcases PageList.mem_put held with old | rfl
  · exact keeps.2 q old
  · exact stored

/-- The invariant of a run under the memory strategy: composers stay coherent, every state of a
draft or of a stored page was handed the memory token of its position by the page's composer, and
every cache holds only stored pages, a session's caches only those its own composers stored. -/
structure Sound (d : Deployment) (trace : List Event) : Prop where
  memory : d.guard.config.strategy = .memory
  coherent : ∀ (handle owner : Nat) (c : Composer), d.composers[handle]? = some (owner, c) → c.Coherent
  drafts : ∀ (handle owner : Nat) (c : Composer) (D : PageDraft), d.composers[handle]? = some (owner, c) → c.page = some D →
    Issued trace handle owner D.id D.nonce D.states
  stored : ∀ (handle owner : Nat) (p : Page), Event.composer handle owner (.stored p) ∈ trace →
    Issued trace handle owner p.id p.nonce p.states
  tokens : ∀ (handle owner : Nat) token st, Event.composer handle owner (.issued token st) ∈ trace →
    ∃ id index nonce, token.body = .memory id index nonce
  sessions : ∀ (owner : Nat) (s : Session), d.sessions[owner]? = some s →
    Keeps trace (· = owner) s.pages ∧ Keeps trace (· = owner) s.userPages
  application : Keeps trace (fun _ => True) d.guard.appPages

theorem sound_init {config : Config} (memory : config.strategy = .memory) (appKey : CipherKey)
    (entropy : Entropy) : (init config appKey entropy).Sound [] where
  memory := memory
  coherent := by simp [init]
  drafts := by simp [init]
  stored := by simp
  tokens := by simp
  sessions := by simp [init]
  application := keeps_empty none

/-- A lookup in a list after one position was set: the new value there, the old one elsewhere. -/
theorem getElem?_set_eq_some {α : Type} {l : List α} {i j : Nat} {a b : α}
    (found : (l.set i a)[j]? = some b) : (i = j ∧ b = a) ∨ (i ≠ j ∧ l[j]? = some b) := by
  rw [List.getElem?_set] at found
  split at found
  · rename_i same
    split at found
    · exact .inl ⟨same, (Option.some.inj found).symm⟩
    · cases found
  · rename_i other
    exact .inr ⟨other, found⟩

/-- Setting a position to the value it holds changes nothing. -/
theorem set_of_getElem?_eq_some {α : Type} {l : List α} {i : Nat} {a : α} (found : l[i]? = some a) :
    l.set i a = l := by
  apply List.ext_getElem?
  intro j
  rw [List.getElem?_set]
  split
  · rename_i same
    subst same
    have := (List.getElem?_eq_some_iff.mp found).1
    rw [if_pos this, found]
  · rfl

variable {d : Deployment}

/-- What a composer call must establish, for its own composer, session and guard, to keep a run
sound; everything else it leaves alone. -/
theorem Sound.update (sound : d.Sound trace) {c' : Composer} {s' : Session} {g' : Guard}
    {notes : List Note} (memory : g'.config.strategy = .memory) (coherent : c'.Coherent)
    (drafts : ∀ D, c'.page = some D →
      Issued (trace ++ notes.map (.composer handle owner)) handle owner D.id D.nonce D.states)
    (stored : ∀ p, Note.stored p ∈ notes →
      Issued (trace ++ notes.map (.composer handle owner)) handle owner p.id p.nonce p.states)
    (tokens : ∀ token st, Note.issued token st ∈ notes → ∃ id index nonce, token.body = .memory id index nonce)
    (session : Keeps (trace ++ notes.map (.composer handle owner)) (· = owner) s'.pages ∧
      Keeps (trace ++ notes.map (.composer handle owner)) (· = owner) s'.userPages)
    (application : Keeps (trace ++ notes.map (.composer handle owner)) (fun _ => True) g'.appPages) :
    Sound { guard := g', sessions := d.sessions.set owner s',
            composers := d.composers.set handle (owner, c') }
      (trace ++ notes.map (.composer handle owner)) where
  memory := memory
  coherent handle' owner' c₀ found' := by
    rcases getElem?_set_eq_some found' with ⟨-, same⟩ | ⟨-, old⟩
    · cases same
      exact coherent
    · exact sound.coherent handle' owner' c₀ old
  drafts handle' owner' c₀ D found' drafted := by
    rcases getElem?_set_eq_some found' with ⟨rfl, same⟩ | ⟨-, old⟩
    · cases same
      exact drafts D drafted
    · exact (sound.drafts handle' owner' c₀ D old drafted).mono _
  stored handle' owner' p noted := by
    rcases List.mem_append.mp noted with old | new
    · exact (sound.stored handle' owner' p old).mono _
    · obtain ⟨note, noted, same⟩ := List.mem_map.mp new
      cases same
      exact stored p noted
  tokens handle' owner' token st noted := by
    rcases List.mem_append.mp noted with old | new
    · exact sound.tokens handle' owner' token st old
    · obtain ⟨note, noted, same⟩ := List.mem_map.mp new
      cases same
      exact tokens token st noted
  sessions owner' s₀ found' := by
    rcases getElem?_set_eq_some found' with ⟨rfl, same⟩ | ⟨-, old⟩
    · cases same
      exact session
    · exact ⟨((sound.sessions owner' s₀ old).1.mono _), ((sound.sessions owner' s₀ old).2.mono _)⟩
  application := application

/-- A composer call keeps a run sound. -/
theorem Sound.call (sound : d.Sound trace) {c c' : Composer} {s s' : Session} {g' : Guard}
    {notes : List Note} {cc : ComposerCall} (found : d.composers[handle]? = some (owner, c))
    (sfound : d.sessions[owner]? = some s) (ok : c.call d.guard s cc = .ok (notes, c', g', s')) :
    Sound { guard := g', sessions := d.sessions.set owner s',
            composers := d.composers.set handle (owner, c') }
      (trace ++ notes.map (.composer handle owner)) := by
  have memory : g'.config.strategy = .memory := by rw [Composer.call_config ok]; exact sound.memory
  have coherent := sound.coherent handle owner c found
  have drafts := fun D => sound.drafts handle owner c D found
  have caches := sound.sessions owner s sfound
  by_cases keeps : cc.keepsPage
  · -- the draft keeps its id, nonce and states, and nothing is stored
    obtain ⟨rfl, rfl, same, aboutRequest⟩ := Composer.call_keepsPage keeps ok
    refine sound.update memory (coherent.call ok) ?_ ?_ ?_ ⟨caches.1.mono _, caches.2.mono _⟩
      (sound.application.mono _)
    · intro D' drafted
      rw [drafted, Option.map_some] at same
      obtain ⟨D, before, contents⟩ := Option.map_eq_some_iff.mp same.symm
      simp only [PageDraft.contents, Prod.mk.injEq] at contents
      obtain ⟨sameId, sameNonce, sameStates⟩ := contents
      rw [← sameId, ← sameNonce, ← sameStates]
      exact (drafts D before).mono _
    · intro p noted
      simpa [Note.aboutRequest] using aboutRequest _ noted
    · intro token st noted
      simpa [Note.aboutRequest] using aboutRequest _ noted
  · cases cc with
    | startPage =>
      obtain ⟨-, rfl, rfl, rfl, rfl⟩ := Composer.call_startPage ok
      refine sound.update memory (coherent.call ok) ?_ (by simp) (by simp)
        ⟨caches.1.mono _, caches.2.mono _⟩ (sound.application.mono _)
      intro D drafted
      cases drafted
      intro j st found
      simp at found
    | endRequest =>
      obtain ⟨st, D, token, opened, drafted, rfl, rfl, rfl, memoryToken, -⟩ := Composer.call_endRequest ok
      obtain ⟨rfl, rfl⟩ := memoryToken sound.memory
      have next : st.index = D.states.length := coherent.nextIndex D st drafted opened
      refine sound.update memory (coherent.call ok) ?_ (by simp) (by simp)
        ⟨caches.1.mono _, caches.2.mono _⟩ (sound.application.mono _)
      · intro D' redrafted
        cases redrafted
        intro j st' found'
        rw [List.getElem?_append] at found'
        split at found'
        · exact (drafts D drafted) j st' found' |> List.mem_append_left _
        · -- the state just closed sits at the end, and was handed its token just now
          rename_i beyond
          cases offset : j - D.states.length with
          | zero =>
            simp only [offset, List.getElem?_cons_zero, Option.some.injEq] at found'
            subst found'
            have atEnd : j = st.index := by omega
            subst atEnd
            exact List.mem_append_right _ (by simp)
          | succ k => simp [offset] at found'
    | endPage =>
      obtain ⟨-, -, -, rfl, rfl, stored⟩ := Composer.call_endPage ok
      cases storedAt : c.storedPage d.guard with
      | none =>
        rw [storedAt] at stored
        obtain ⟨rfl, rfl⟩ := stored
        exact sound.update memory (coherent.call ok) (by simp) (by simp) (by simp)
          ⟨caches.1.mono _, caches.2.mono _⟩ (sound.application.mono _)
      | some p =>
        rw [storedAt] at stored
        obtain ⟨rfl, rfl⟩ := stored
        obtain ⟨D, before, rfl, -, -⟩ := Composer.storedPage_eq_some storedAt
        -- the page just stored is in the trace, stored by this composer of this session
        have noted : Event.composer handle owner (.stored ⟨D.id, D.nonce, D.states, D.flows⟩) ∈
            trace ++ (((some ⟨D.id, D.nonce, D.states, D.flows⟩ : Option Page).toList.map Note.stored).map
              (.composer handle owner)) :=
          List.mem_append_right trace (by simp)
        refine sound.update memory (coherent.call ok) (by simp) ?_ (by simp) ⟨?_, ?_⟩ ?_
        · intro p noted'
          simp only [Option.toList_some, List.map_cons, List.map_nil, List.mem_singleton,
            Note.stored.injEq] at noted'
          subst noted'
          exact (drafts D before).mono _
        · rw [Session.store_pages]
          split
          · exact (caches.1.mono _).put ⟨handle, owner, rfl, noted⟩
          · exact caches.1.mono _
        · rw [Session.store_userPages]
          split
          · exact (caches.2.mono _).put ⟨handle, owner, rfl, noted⟩
          · exact caches.2.mono _
        · rw [Guard.store_appPages]
          split
          · exact (sound.application.mono _).put ⟨handle, owner, trivial, noted⟩
          · exact sound.application.mono _
    | _ => simp [ComposerCall.keepsPage] at keeps

/-- Every call keeps a run sound. -/
theorem Sound.step (sound : d.Sound trace) (call : Call) :
    (d.step call).1.Sound (trace ++ (d.step call).2) := by
  rcases stepped : d.step call with ⟨d', events⟩
  rcases step_cases stepped with ⟨rfl, rfl⟩ | ⟨id, rfl, rfl⟩ | ⟨session, -, rfl, rfl⟩ |
      ⟨handle, owner, c, s, cc, notes, c', g', s', found, sfound, ok, rfl, rfl⟩ |
      ⟨session, s, sfound, rfl, rfl⟩ | ⟨session, s, flow, sfound, rfl, rfl⟩
  · simpa using sound
  · -- a new session starts with empty caches
    rw [List.append_nil]
    refine ⟨by simpa using sound.memory, sound.coherent, sound.drafts, sound.stored, sound.tokens, ?_, ?_⟩
    · intro owner s' found
      rw [List.getElem?_append] at found
      split at found
      · exact sound.sessions owner s' found
      · cases offset : owner - d.sessions.length with
        | zero =>
          simp only [offset, List.getElem?_cons_zero, Option.some.injEq] at found
          subst found
          simp only [Guard.newSession_pages, Guard.newSession_userPages, PageCache.bounded,
            PageCache.unbounded]
          exact ⟨keeps_empty _, keeps_empty _⟩
        | succ k => simp [offset] at found
    · simpa using sound.application
  · -- a new composer holds no page
    rw [List.append_nil]
    refine ⟨sound.memory, ?_, ?_, sound.stored, sound.tokens, sound.sessions, sound.application⟩
    · intro handle owner c found
      rw [List.getElem?_append] at found
      split at found
      · exact sound.coherent handle owner c found
      · cases offset : handle - d.composers.length with
        | zero =>
          simp only [offset, List.getElem?_cons_zero, Option.some.injEq, Prod.mk.injEq] at found
          rw [← found.2]
          exact Composer.coherent_empty
        | succ k => simp [offset] at found
    · intro handle owner c D found drafted
      rw [List.getElem?_append] at found
      split at found
      · exact sound.drafts handle owner c D found drafted
      · cases offset : handle - d.composers.length with
        | zero =>
          simp only [offset, List.getElem?_cons_zero, Option.some.injEq, Prod.mk.injEq] at found
          rw [← found.2] at drafted
          cases drafted
        | succ k => simp [offset] at found
  · exact sound.call found sfound ok
  · -- invalidating empties both caches of the session
    refine ⟨sound.memory, sound.coherent, fun h o c D f dr => (sound.drafts h o c D f dr).mono _,
      fun h o p noted => ?_, fun h o token st noted => ?_, ?_, sound.application.mono _⟩
    · exact (sound.stored h o p (by simpa using noted)).mono _
    · exact sound.tokens h o token st (by simpa using noted)
    · intro owner s' found
      rcases getElem?_set_eq_some found with ⟨rfl, rfl⟩ | ⟨-, old⟩
      · exact ⟨keeps_clear _, keeps_clear _⟩
      · exact ⟨(sound.sessions owner s' old).1.mono _, (sound.sessions owner s' old).2.mono _⟩
  · -- ending a flow removes its pages from the user-session and application caches
    have caches := sound.sessions session s sfound
    refine ⟨by simpa using sound.memory, sound.coherent,
      fun h o c D f dr => (sound.drafts h o c D f dr).mono _, fun h o p noted => ?_,
      fun h o token st noted => ?_, ?_, ?_⟩
    · exact (sound.stored h o p (by simpa using noted)).mono _
    · exact sound.tokens h o token st (by simpa using noted)
    · intro owner s' found
      rcases getElem?_set_eq_some found with ⟨rfl, rfl⟩ | ⟨-, old⟩
      · simp only [Guard.endFlow_pages, Guard.endFlow_userPages]
        exact ⟨caches.1.mono _, (caches.2.removeFlow flow).mono _⟩
      · exact ⟨(sound.sessions owner s' old).1.mono _, (sound.sessions owner s' old).2.mono _⟩
    · simp only [Guard.endFlow_appPages]
      exact (sound.application.removeFlow flow).mono _

/-- Every run of a fresh guard under the memory strategy is sound. -/
theorem sound_run {config : Config} (memory : config.strategy = .memory) (appKey : CipherKey)
    (entropy : Entropy) (calls : List Call) :
    ((init config appKey entropy).run calls).1.Sound ((init config appKey entropy).run calls).2 := by
  simpa using run_preserves Sound (fun _ _ call sound => sound.step call) (sound_init memory appKey entropy) calls

theorem Keeps.weaken (keeps : Keeps trace owns c) {owns' : Nat → Prop} (weaker : ∀ o, owns o → owns' o) :
    Keeps trace owns' c := by
  refine ⟨keeps.1, fun p held => ?_⟩
  obtain ⟨handle, owner, owned, stored⟩ := keeps.2 p held
  exact ⟨handle, owner, weaker owner owned, stored⟩

/-- The cache a session looks a scope's tokens up in holds only stored pages, and for page and
user-session scopes only pages the session's own composers stored. -/
theorem Sound.cacheFor (sound : d.Sound trace) {s : Session} (sfound : d.sessions[owner]? = some s)
    (scope : Scope) :
    Keeps trace (fun o => scope ≠ .application → o = owner) (d.guard.cacheFor s scope) := by
  cases scope with
  | page => exact (sound.sessions owner s sfound).1.weaken fun o same _ => same
  | userSession => exact (sound.sessions owner s sfound).2.weaken fun o same _ => same
  | application => exact sound.application.weaken fun o _ notApp => absurd rfl notApp

/-- A state a composer of a session sealed on a page it stored, with the token it handed out for
it: the page is still held in the cache of the state's scope, and, unless the state is an
application state, the composer works for the session `owner`. -/
def Sealed (d : Deployment) (trace : List Event) (owner : Nat) (s : Session) (st : State)
    (token : StateToken) : Prop :=
  ∃ (handle composedIn : Nat) (p : Page) (j : Nat), Event.composer handle composedIn (.stored p) ∈ trace ∧
    p.states[j]? = some st ∧ (st.scope ≠ .application → composedIn = owner) ∧
    p ∈ (d.guard.cacheFor s st.scope).view ∧ token = ⟨st.scope, .memory p.id j.toUInt64 p.nonce⟩ ∧
    Event.composer handle composedIn (.issued token st) ∈ trace

/-- In a sound run, a memory token that names a state in a session is the token a composer handed
out for that state, on a page it stored that the state's cache still holds. -/
theorem Sound.named_memory (sound : d.Sound trace) {s : Session} (sfound : d.sessions[owner]? = some s)
    {token : StateToken} {id index : UInt64} {nonce : String} (memory : token.body = .memory id index nonce)
    {st : State} (named : d.guard.named s token = some st) : d.Sealed trace owner s st token := by
  rcases token with ⟨scope, body⟩
  simp only at memory
  subst memory
  simp only [Guard.named, Option.filter_eq_some_iff, beq_iff_eq] at named
  obtain ⟨found, sameScope⟩ := named
  obtain ⟨page, held, picked⟩ := Option.bind_eq_some_iff.mp found
  split at picked
  · rename_i sameNonce
    subst sameScope
    -- the page is in the cache's view, so a composer of the right session stored it
    have keeps := sound.cacheFor sfound st.scope
    obtain ⟨inView, keyed⟩ :=
      PageList.page?_eq_some (((keeps.1.shows).page id).symm.trans held)
    obtain ⟨handle, composedIn, right, stored⟩ := keeps.2 page inView
    have issued := sound.stored handle composedIn page stored index.toNat st picked
    rw [Nat.toUInt64, UInt64.ofNat_toNat] at issued
    refine ⟨handle, composedIn, page, index.toNat, stored, picked, right, inView, ?_, ?_⟩
    · simp [keyed, sameNonce]
    · simpa [keyed, sameNonce] using issued
  · cases picked

/-- How a text can resolve to a state in a session: it reads as the memory token a composer handed
out for that state, sealed as `Sealed` says; or it reads as a cipher token whose payload the cipher
accepts under the key of the token's scope. -/
def Accounted (d : Deployment) (trace : List Event) (owner : Nat) (s : Session) (t : String)
    (st : State) : Prop :=
  (∃ token, StateToken.parse t = .ok token ∧ d.Sealed trace owner s st token) ∨
  (∃ scope payload plain, StateToken.parse t = .ok ⟨scope, .cipher payload⟩ ∧
    Cipher.decrypt (d.guard.keyFor s scope) payload = .ok plain)

theorem SealedState.ofPayload_ok {key : CipherKey} {payload : List UInt8} {sealed : SealedState}
    (opened : SealedState.ofPayload key payload = .ok sealed) :
    ∃ plain, Cipher.decrypt key payload = .ok plain := by
  unfold SealedState.ofPayload at opened
  cases decrypted : Cipher.decrypt key payload with
  | error e => simp [decrypted, bind, Except.bind] at opened
  | ok plain => exact ⟨plain, rfl⟩

/-- In a sound run, every resolution is accounted for. -/
theorem Sound.resolve_ok (sound : d.Sound trace) {s : Session} (sfound : d.sessions[owner]? = some s)
    {t : String} {st : State} (resolved : d.guard.resolve s t = .ok st) :
    d.Accounted trace owner s t st := by
  rw [Guard.resolve_eq] at resolved
  cases parsed : StateToken.parse t with
  | error e => simp [parsed] at resolved
  | ok token =>
    rw [parsed] at resolved
    cases named : d.guard.named s token with
    | none => simp [named] at resolved
    | some st' =>
      simp only [named, Except.ok.injEq] at resolved
      subst resolved
      rcases token with ⟨scope, body⟩
      cases body with
      | memory id index nonce =>
        exact .inl ⟨_, parsed, sound.named_memory sfound rfl named⟩
      | cipher payload =>
        -- a cipher token names a state only when its payload opens under the scope's key
        simp only [Guard.named, Option.filter_eq_some_iff] at named
        split at named
        · rename_i sealed opened
          obtain ⟨plain, decrypted⟩ := SealedState.ofPayload_ok opened
          exact .inr ⟨scope, payload, plain, parsed, decrypted⟩
        · simp at named

/-- **Memory tokens cannot be forged.** In every run of a guard under the memory strategy, with any
sessions and composers driven in any order and any invalidations and ended flows: no cipher token
is ever handed out; a text resolves in a session only as the memory token a composer handed out for
a state it sealed on a page it stored (a page of that session unless the state is an application
state, still held in the cache of the state's scope), or as a cipher token the cipher accepts; a
request passes with a state only when its one token resolves to that state and its parameters pass
the integrity check, and without a state only when it carries no token on a start page. -/
theorem memory_tokens_unforgeable {config : Config} (memory : config.strategy = .memory)
    {appKey : CipherKey} {entropy : Entropy} {calls : List Call} {d : Deployment}
    {trace : List Event} (ran : (init config appKey entropy).run calls = (d, trace)) {owner : Nat}
    {s : Session} (opened : d.sessions[owner]? = some s) :
    (∀ handle composedIn token st, Event.composer handle composedIn (.issued token st) ∈ trace →
      ∃ id index nonce, token.body = .memory id index nonce) ∧
    (∀ t st, d.guard.resolve s t = .ok st → d.Accounted trace owner s t st) ∧
    ∀ r v, d.guard.validate s r = .passed v →
      (∀ st, v.state = some st → ∃ t, r.parameters.find? s.stateParameterName = some [t] ∧
        d.Accounted trace owner s t st ∧
        Validation.integrity config st r.path (r.parameters.erase s.stateParameterName) =
          .ok v.parameters) ∧
      (v.state = none → r.parameters.find? s.stateParameterName = none ∧
        config.isStartPage r.path = true ∧ v.parameters = r.parameters.erase s.stateParameterName) := by
  have sound := sound_run memory appKey entropy calls
  rw [ran] at sound
  have sameConfig : d.guard.config = config := by
    have kept := run_config (init config appKey entropy) calls
    rw [ran] at kept
    exact kept
  refine ⟨sound.tokens, fun t st resolved => sound.resolve_ok opened resolved, ?_⟩
  intro r v passed
  rcases Guard.validate_passed passed with ⟨t, st, carried, resolved, withState, integral⟩ |
    ⟨uncarried, start, withoutState, params⟩
  · refine ⟨fun st' named => ?_, fun unnamed => by simp [withState] at unnamed⟩
    rw [withState, Option.some.injEq] at named
    subst named
    exact ⟨t, carried, sound.resolve_ok opened resolved, sameConfig ▸ integral⟩
  · refine ⟨fun st' named => by simp [withoutState] at named, fun _ => ?_⟩
    exact ⟨uncarried, sameConfig ▸ start, params⟩

/-- A guard under the default configuration, which keeps pages in memory and shows pinned values
as placeholders, in which alice opens a session and a composer, starts a page, opens a transfer
form, composes its amount, closes the form and ends the page. -/
def transferRun : Deployment × List Event :=
  (init Config.default ⟨List.replicate 32 11, rfl⟩ {}).run
    [.openSession "alice", .openComposer 0, .composer 0 .startPage,
      .composer 0 (.beginRequest .post "/transfer"),
      .composer 0 (.compose "amount" "100" false none), .composer 0 .endRequest,
      .composer 0 .endPage]

/-- Alice's session after the run. -/
def transferSession : Session :=
  transferRun.1.sessions.get ⟨0, by decide⟩

theorem memory_tokens_unforgeable_transfer :
    Config.default.strategy = .memory ∧ transferRun.1.sessions[0]? = some transferSession ∧
    (∀ handle composedIn token st, Event.composer handle composedIn (.issued token st) ∈ transferRun.2 →
      ∃ id index nonce, token.body = .memory id index nonce) ∧
    (∀ t st, transferRun.1.guard.resolve transferSession t = .ok st →
      transferRun.1.Accounted transferRun.2 0 transferSession t st) ∧
    ∀ r v, transferRun.1.guard.validate transferSession r = .passed v →
      (∀ st, v.state = some st → ∃ t, r.parameters.find? transferSession.stateParameterName = some [t] ∧
        transferRun.1.Accounted transferRun.2 0 transferSession t st ∧
        Validation.integrity Config.default st r.path
          (r.parameters.erase transferSession.stateParameterName) = .ok v.parameters) ∧
      (v.state = none → r.parameters.find? transferSession.stateParameterName = none ∧
        Config.default.isStartPage r.path = true ∧
        v.parameters = r.parameters.erase transferSession.stateParameterName) :=
  ⟨rfl, rfl, memory_tokens_unforgeable rfl rfl rfl⟩

end Deployment

end FormIntegrity
