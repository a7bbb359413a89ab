import FormIntegrity.Proofs.RequestHistory

/-!
# Where an issued token leads

Under the memory strategy a token names a page id, a position and a nonce. The state it was issued
for sits at that position of the page its composer is drafting, and once the page ends, of the page
the composer stored, under the same id and nonce (`Placed`): closing a request appends to the page,
no other call moves its states, and ending a page with states stores it.

Under the cipher strategy a token carries its state sealed under the key of its scope. Keys never
change: the guard keeps its application key and every session keeps the key it was opened with
(`step_keys`), so every issued token is sealed under the key its scope is opened with now (`Seals`).
-/

namespace FormIntegrity

namespace Composer

variable {c c' : Composer} {g g' : Guard} {s s' : Session} {notes : List Note} {cc : ComposerCall}

/-- No composer call changes the application key or the key of its session. -/
theorem call_keys (ok : c.call g s cc = .ok (notes, c', g', s')) : g'.appKey = g.appKey ∧ s'.key = s.key := by
  by_cases keeps : cc.keepsPage
  · obtain ⟨rfl, rfl, -⟩ := call_keepsPage keeps ok
    exact ⟨rfl, rfl⟩
  · cases cc with
    | startPage =>
      obtain ⟨-, -, -, rfl, rfl⟩ := call_startPage ok
      exact ⟨rfl, rfl⟩
    | endRequest =>
      obtain ⟨st, D, token, -, -, -, -, rfl, memory, cipher⟩ := call_endRequest ok
      cases strategy : g.config.strategy with
      | memory => exact ⟨by rw [(memory strategy).2], rfl⟩
      | cipher => exact ⟨by rw [(cipher strategy).2], rfl⟩
    | endPage =>
      obtain ⟨-, -, -, -, -, stored⟩ := call_endPage ok
      split at stored
      · rw [stored.1, stored.2]
        exact ⟨Guard.store_appKey _ _, Session.store_key _ _⟩
      · rw [stored.1, stored.2]
        exact ⟨rfl, rfl⟩
    | _ => simp [ComposerCall.keepsPage] at keeps

/-- Under the memory strategy a call keeps every state of the drafted page at its position: on the
new draft, under the same id and nonce, or on the page it stored. -/
theorem call_keeps_state (memory : g.config.strategy = .memory) (coherent : c.Coherent)
    (ok : c.call g s cc = .ok (notes, c', g', s')) {D : PageDraft} (drafted : c.page = some D) {j : Nat}
    {st : State} (placed : D.states[j]? = some st) :
    (∃ D', c'.page = some D' ∧ D'.id = D.id ∧ D'.nonce = D.nonce ∧ D'.states[j]? = some st) ∨
    (∃ P, Note.stored P ∈ notes ∧ P.id = D.id ∧ P.nonce = D.nonce ∧ P.states[j]? = some st) := by
  by_cases keeps : cc.keepsPage
  · obtain ⟨-, -, same, -⟩ := call_keepsPage keeps ok
    rw [drafted, Option.map_some] at same
    obtain ⟨D', redrafted, contents⟩ := Option.map_eq_some_iff.mp same
    simp only [PageDraft.contents, Prod.mk.injEq] at contents
    exact .inl ⟨D', redrafted, contents.1, contents.2.1, by rw [contents.2.2]; exact placed⟩
  · cases cc with
    | startPage =>
      obtain ⟨idle, -⟩ := call_startPage ok
      have noPage : c.page = none := by
        simpa using mt coherent.drafting.mp (by rcases idle with idle | idle <;> simp [idle])
      simp [noPage] at drafted
    | endRequest =>
      obtain ⟨st', D₀, token, -, drafted₀, -, rfl, -⟩ := call_endRequest ok
      cases drafted.symm.trans drafted₀
      have within : j < D.states.length := (List.getElem?_eq_some_iff.mp placed).1
      exact .inl ⟨_, rfl, rfl, rfl, by rw [List.getElem?_append_left within]; exact placed⟩
    | endPage =>
      obtain ⟨-, -, -, -, rfl, -⟩ := call_endPage ok
      cases storedAt : c.storedPage g with
      | none =>
        -- a page with states is stored under the memory strategy
        simp only [storedPage, drafted, memory, reduceCtorEq, decide_false, Bool.or_false] at storedAt
        split at storedAt
        · rename_i empty
          simp [List.isEmpty_iff.mp empty] at placed
        · cases storedAt
      | some P =>
        obtain ⟨D₀, drafted₀, rfl, -⟩ := storedPage_eq_some storedAt
        cases drafted.symm.trans drafted₀
        exact .inr ⟨⟨D.id, D.nonce, D.states, D.flows⟩, by simp, rfl, rfl, placed⟩
    | _ => simp [ComposerCall.keepsPage] at keeps

/-- Under the cipher strategy the token a call issues carries its state, sealed with a nonce of the
cipher's length under the key the guard and the session the call leaves open its scope with. -/
theorem call_seals (cipher : g.config.strategy = .cipher) (ok : c.call g s cc = .ok (notes, c', g', s'))
    {token : StateToken} {st : State} (noted : Note.issued token st ∈ notes) :
    ∃ (id : UInt64) (nonce : List UInt8), nonce.length = Cipher.nonceLength ∧
      token = (SealedState.mk st.scope id st).toToken (g'.keyFor s' st.scope) nonce := by
  obtain ⟨rfl, -, rfl, -⟩ := call_issued ok noted
  obtain ⟨st₀, D, token₀, -, -, issuedNote, -, rfl, -, cipherToken⟩ := call_endRequest ok
  simp only [List.cons.injEq, Note.issued.injEq, and_true] at issuedNote
  obtain ⟨rfl, rfl⟩ := issuedNote
  obtain ⟨rfl, rfl⟩ := cipherToken cipher
  exact ⟨D.id, (g.entropy.bytes Cipher.nonceLength).1, Entropy.length_bytes _ _, by simp only [Guard.keyFor]⟩

end Composer

namespace Deployment

variable {d : Deployment} {trace : List Event} {handle owner : Nat} {id : UInt64} {nonce : String}
variable {st : State}

/-- Where the state a memory token was issued for sits: at the state's position on the page its
composer is drafting or on a page the composer stored, under the token's page id and nonce. -/
def Sits (d : Deployment) (trace : List Event) (handle owner : Nat) (id : UInt64) (nonce : String)
    (st : State) : Prop :=
  (∃ c D, d.composers[handle]? = some (owner, c) ∧ c.page = some D ∧ D.id = id ∧ D.nonce = nonce ∧
    D.states[st.index]? = some st) ∨
  (∃ P, Event.composer handle owner (.stored P) ∈ trace ∧ P.id = id ∧ P.nonce = nonce ∧
    P.states[st.index]? = some st)

/-- Where a state sits stays so while its composer is left alone. -/
theorem Sits.keep (sits : d.Sits trace handle owner id nonce st) {d' : Deployment}
    (same : d'.composers[handle]? = d.composers[handle]?) (more : List Event) :
    d'.Sits (trace ++ more) handle owner id nonce st := by
  rcases sits with ⟨c, D, found, rest⟩ | ⟨P, stored, rest⟩
  · exact .inl ⟨c, D, same.trans found, rest⟩
  · exact .inr ⟨P, List.mem_append_left more stored, rest⟩

/-- Every memory token issued in the trace names its state's scope, position and a page's id and
nonce, a nonce of hexadecimal digits, and the state sits there. -/
def Placed (d : Deployment) (trace : List Event) : Prop :=
  ∀ (handle owner : Nat) (token : StateToken) (st : State),
    Event.composer handle owner (.issued token st) ∈ trace →
    ∃ id nonce, token = ⟨st.scope, .memory id st.index.toUInt64 nonce⟩ ∧
      StateToken.validNonce nonce.toList = true ∧ d.Sits trace handle owner id nonce st

theorem placed_init (config : Config) (appKey : CipherKey) (entropy : Entropy) :
    (init config appKey entropy).Placed [] := by
  intro handle owner token st issued
  simp at issued

/-- A step that leaves every composer alone keeps every issued state where it sits. -/
theorem Placed.keep (placed : d.Placed trace) {d' : Deployment}
    (same : ∀ h : Nat, d.composers[h]? ≠ none → d'.composers[h]? = d.composers[h]?)
    {more : List Event} (noneIssued : ∀ h o token st, Event.composer h o (.issued token st) ∉ more) :
    d'.Placed (trace ++ more) := by
  intro h o token st issued
  have old : Event.composer h o (.issued token st) ∈ trace := by
    rcases List.mem_append.mp issued with old | new
    · exact old
    · exact absurd new (noneIssued h o token st)
  obtain ⟨id, nonce, named, valid, sits⟩ := placed h o token st old
  refine ⟨id, nonce, named, valid, ?_⟩
  rcases sits with ⟨c, D, found, rest⟩ | ⟨P, stored, rest⟩
  · exact .inl ⟨c, D, (same h (by simp [found])).trans found, rest⟩
  · exact .inr ⟨P, List.mem_append_left more stored, rest⟩

/-- A composer call keeps every issued state where it sits, and places the one it issues. -/
theorem Placed.call (placed : d.Placed trace) (requests : d.Requests trace)
    (memory : d.guard.config.strategy = .memory) {c c' : Composer} {s s' : Session} {g' : Guard}
    {notes : List Note} {cc : ComposerCall} (found : d.composers[handle]? = some (owner, c))
    (ok : c.call d.guard s cc = .ok (notes, c', g', s')) :
    Placed { guard := g', sessions := d.sessions.set owner s',
             composers := d.composers.set handle (owner, c') }
      (trace ++ notes.map (.composer handle owner)) := by
  have coherent := requests.coherent handle owner c found
  have within : handle < d.composers.length := (List.getElem?_eq_some_iff.mp found).1
  intro h o token st issued
  rcases List.mem_append.mp issued with old | new
  · obtain ⟨id, nonce, named, valid, sits⟩ := placed h o token st old
    refine ⟨id, nonce, named, valid, ?_⟩
    by_cases same : h = handle
    · subst same
      rcases sits with ⟨c₀, D, found₀, drafted, sameId, sameNonce, at₀⟩ | ⟨P, stored, rest⟩
      · -- the composer just called held the page: it keeps the state, or stored it
        rw [found, Option.some.injEq, Prod.mk.injEq] at found₀
        obtain ⟨rfl, rfl⟩ := found₀
        rcases Composer.call_keeps_state memory coherent ok drafted at₀ with
            ⟨D', redrafted, sameId', sameNonce', at'⟩ | ⟨P, stored, sameId', sameNonce', at'⟩
        · exact .inl ⟨c', D', by simp [within], redrafted, sameId'.trans sameId,
            sameNonce'.trans sameNonce, at'⟩
        · exact .inr ⟨P, List.mem_append_right trace (List.mem_map_of_mem stored),
            sameId'.trans sameId, sameNonce'.trans sameNonce, at'⟩
      · exact .inr ⟨P, List.mem_append_left _ stored, rest⟩
    · exact sits.keep (by simp [Ne.symm same]) _
  · -- the token issued now: the closed request's state, appended to the draft
    obtain ⟨note, noted, named⟩ := List.mem_map.mp new
    cases named
    obtain ⟨rfl, opened, rfl, D, drafted⟩ := Composer.call_issued ok noted
    obtain ⟨st₀, D₀, token₀, opened₀, drafted₀, issuedNote, closed, -, memoryToken, -⟩ :=
      Composer.call_endRequest ok
    cases opened.symm.trans opened₀
    cases drafted.symm.trans drafted₀
    simp only [List.cons.injEq, Note.issued.injEq, and_true] at issuedNote
    obtain ⟨rfl, -⟩ := issuedNote
    obtain ⟨rfl, -⟩ := memoryToken memory
    have next := coherent.nextIndex D st drafted opened
    refine ⟨D.id, D.nonce, rfl, coherent.nonce D drafted,
      .inl ⟨c', { D with states := D.states ++ [st] }, by simp [within], by rw [closed], rfl, rfl, ?_⟩⟩
    simp [next]

/-- Under the memory strategy every step keeps every issued state where it sits. -/
theorem Placed.step (placed : d.Placed trace) (requests : d.Requests trace)
    (memory : d.guard.config.strategy = .memory) (call : Call) :
    (d.step call).1.Placed (trace ++ (d.step call).2) := by
  rcases stepped : d.step call with ⟨d', events⟩
  rcases step_cases stepped with ⟨rfl, rfl⟩ | ⟨id, rfl, rfl⟩ | ⟨session, -, rfl, rfl⟩ |
      ⟨handle, owner, c, s, cc, notes, c', g', s', found, -, ok, rfl, rfl⟩ |
      ⟨session, s, -, rfl, rfl⟩ | ⟨session, s, flow, -, rfl, rfl⟩
  · simpa using placed
  · exact Placed.keep placed (fun _ _ => rfl) (by simp)
  · exact Placed.keep placed (fun h known => List.getElem?_append_left
      (List.getElem?_eq_some_iff.mp (Option.ne_none_iff_exists'.mp known).choose_spec).1) (by simp)
  · exact Placed.call placed requests memory found ok
  · exact Placed.keep placed (fun _ _ => rfl) (by simp)
  · exact Placed.keep placed (fun _ _ => rfl) (by simp)

/-- Under the memory strategy, every run of a fresh guard keeps every issued state where it sits. -/
theorem placed_run {config : Config} (memory : config.strategy = .memory) (appKey : CipherKey)
    (entropy : Entropy) (calls : List Call) :
    ((init config appKey entropy).run calls).1.Placed ((init config appKey entropy).run calls).2 := by
  have all := @run_preserves
    (fun d trace => d.Requests trace ∧ d.guard.config.strategy = .memory ∧ d.Placed trace)
    (fun d trace call ⟨requests, kept, placed⟩ => ⟨requests.step call,
      by rw [step_config]; exact kept, placed.step requests kept call⟩)
    (init config appKey entropy) []
    ⟨requests_init config appKey entropy, memory, placed_init config appKey entropy⟩ calls
  simp only [List.nil_append] at all
  exact all.2.2

/-- No call changes the application key, and every session keeps its key. -/
theorem step_keys (d : Deployment) (call : Call) :
    (d.step call).1.guard.appKey = d.guard.appKey ∧
      ∀ (o : Nat) (s : Session), d.sessions[o]? = some s →
        ∃ s', (d.step call).1.sessions[o]? = some s' ∧ s'.key = s.key := by
  rcases stepped : d.step call with ⟨d', events⟩
  rcases step_cases stepped with ⟨rfl, -⟩ | ⟨id, rfl, -⟩ | ⟨session, -, rfl, -⟩ |
      ⟨handle, owner, c, s, cc, notes, c', g', s', -, sfound, ok, rfl, -⟩ |
      ⟨session, s, sfound, rfl, -⟩ | ⟨session, s, flow, sfound, rfl, -⟩
  · exact ⟨rfl, fun o s found => ⟨s, found, rfl⟩⟩
  · refine ⟨by simp, fun o s found => ⟨s, ?_, rfl⟩⟩
    exact List.getElem?_append_left (List.getElem?_eq_some_iff.mp found).1 |>.trans found
  · exact ⟨rfl, fun o s found => ⟨s, found, rfl⟩⟩
  · obtain ⟨sameApp, sameKey⟩ := Composer.call_keys ok
    refine ⟨sameApp, fun o s₀ found => ?_⟩
    by_cases same : o = owner
    · subst same
      rw [sfound, Option.some.injEq] at found
      subst found
      exact ⟨s', by simp [(List.getElem?_eq_some_iff.mp sfound).1], sameKey⟩
    · exact ⟨s₀, by simp [Ne.symm same, found], rfl⟩
  · refine ⟨rfl, fun o s₀ found => ?_⟩
    by_cases same : o = session
    · subst same
      rw [sfound, Option.some.injEq] at found
      subst found
      exact ⟨s.invalidate, by simp [(List.getElem?_eq_some_iff.mp sfound).1], rfl⟩
    · exact ⟨s₀, by simp [Ne.symm same, found], rfl⟩
  · refine ⟨by simp, fun o s₀ found => ?_⟩
    by_cases same : o = session
    · subst same
      rw [sfound, Option.some.injEq] at found
      subst found
      exact ⟨(d.guard.endFlow s flow).2.2, by simp [(List.getElem?_eq_some_iff.mp sfound).1],
        Guard.endFlow_key _ _ _⟩
    · exact ⟨s₀, by simp [Ne.symm same, found], rfl⟩

/-- Every token issued in the trace carries its state, sealed with a nonce of the cipher's length
under the key its scope is opened with now in the composer's session. -/
def Seals (d : Deployment) (trace : List Event) : Prop :=
  ∀ (handle owner : Nat) (token : StateToken) (st : State),
    Event.composer handle owner (.issued token st) ∈ trace →
    ∃ (s : Session) (id : UInt64) (nonce : List UInt8), d.sessions[owner]? = some s ∧
      nonce.length = Cipher.nonceLength ∧
      token = (SealedState.mk st.scope id st).toToken (d.guard.keyFor s st.scope) nonce

theorem seals_init (config : Config) (appKey : CipherKey) (entropy : Entropy) :
    (init config appKey entropy).Seals [] := by
  intro handle owner token st issued
  simp at issued

/-- Under the cipher strategy every step keeps every issued token sealed under the current keys. -/
theorem Seals.step (seals : d.Seals trace) (cipher : d.guard.config.strategy = .cipher) (call : Call) :
    (d.step call).1.Seals (trace ++ (d.step call).2) := by
  obtain ⟨sameApp, sameKeys⟩ := step_keys d call
  -- a token sealed under the old keys is sealed under the new ones
  have kept : ∀ h o token st, Event.composer h o (.issued token st) ∈ trace →
      ∃ (s : Session) (id : UInt64) (nonce : List UInt8), (d.step call).1.sessions[o]? = some s ∧
        nonce.length = Cipher.nonceLength ∧
        token = (SealedState.mk st.scope id st).toToken ((d.step call).1.guard.keyFor s st.scope) nonce := by
    intro h o token st issued
    obtain ⟨s, id, nonce, found, long, rfl⟩ := seals h o token st issued
    obtain ⟨s', found', sameKey⟩ := sameKeys o s found
    exact ⟨s', id, nonce, found', long, by simp [Guard.keyFor, sameApp, sameKey]⟩
  intro h o token st issued
  rcases List.mem_append.mp issued with old | new
  · exact kept h o token st old
  · rcases stepped : d.step call with ⟨d', events⟩
    rw [stepped] at new kept
    rcases step_cases stepped with ⟨rfl, rfl⟩ | ⟨id, rfl, rfl⟩ | ⟨session, -, rfl, rfl⟩ |
        ⟨handle, owner, c, s, cc, notes, c', g', s', found, sfound, ok, rfl, rfl⟩ |
        ⟨session, s, -, rfl, rfl⟩ | ⟨session, s, flow, -, rfl, rfl⟩
    · simp at new
    · simp at new
    · simp at new
    · -- the token issued now was sealed under the keys the call leaves
      obtain ⟨note, noted, named⟩ := List.mem_map.mp new
      cases named
      obtain ⟨id, nonce, long, rfl⟩ := Composer.call_seals cipher ok noted
      exact ⟨s', id, nonce, by simp [(List.getElem?_eq_some_iff.mp sfound).1], long, rfl⟩
    · simp at new
    · simp at new

/-- Under the cipher strategy, in every run of a fresh guard every issued token is sealed under the
key its scope is opened with. -/
theorem seals_run {config : Config} (cipher : config.strategy = .cipher) (appKey : CipherKey)
    (entropy : Entropy) (calls : List Call) :
    ((init config appKey entropy).run calls).1.Seals ((init config appKey entropy).run calls).2 := by
  have all := @run_preserves
    (fun d trace => d.guard.config.strategy = .cipher ∧ d.Seals trace)
    (fun d trace call ⟨kept, seals⟩ => ⟨by rw [step_config]; exact kept, seals.step kept call⟩)
    (init config appKey entropy) [] ⟨cipher, seals_init config appKey entropy⟩ calls
  simp only [List.nil_append] at all
  exact all.2

end Deployment

end FormIntegrity
