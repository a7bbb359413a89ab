import FormIntegrity.Proofs.IssuedTokens
import FormIntegrity.Proofs.SealedRoundTrip

/-!
# Sealed tokens bind their scope and key

Under the cipher strategy a token carries its state sealed under the key of the state's scope: the
session's key for page and user-session states, the guard's application key for application states.
For every run of a fresh guard, each token the run issued resolves to its state in every guard and
session that open the state's scope with that key, whatever the run did after issuing it, since no
call changes a key (`Deployment.run_appKey`, `Deployment.step_keys`); and its payload under the
prefix of another scope is refused as expired or tampered
(`Deployment.sealed_token_binds_scope_and_key`).

The refusal asks of the cipher only that a payload does not open under a key other than the one that
sealed it. Under the sealing key it does open, as when a page token is relabelled as a user-session
token of the same session: the sealed document then names the state's scope, and the check that it
is the token's scope refuses it (`Guard.resolve_cipher_refused`). So the keys of sessions and of the
application need not differ.

What the seal holds needs one fact about the state: its position is a count. It holds of every
issued state, since every issued state was issued for a request its composer opened earlier in the
trace (`Deployment.IssuesOpened`), at a position below the length of the trace.
-/

namespace FormIntegrity

namespace Cipher

/-- A sealed payload starts with its nonce, so it is never empty. -/
theorem encrypt_ne_nil (key : CipherKey) {nonce : List UInt8} (long : nonce.length = nonceLength)
    (plaintext : List UInt8) : encrypt key nonce plaintext ≠ [] := by
  have : nonce ≠ [] := List.ne_nil_of_length_pos (by rw [long]; decide)
  simp [encrypt, this]

end Cipher

namespace SealedState

/-- A payload the cipher does not open under a key does not open to a sealed state. -/
theorem ofPayload_of_decrypt {key : CipherKey} {payload : List UInt8} {e : CipherError}
    (rejected : Cipher.decrypt key payload = .error e) : ofPayload key payload = .error e := by
  simp [ofPayload, rejected, bind, Except.bind]

end SealedState

namespace Guard

variable {g : Guard} {s : Session} {st : State} {id : UInt64} {key : CipherKey} {nonce : List UInt8}

/-- A sealed token's text resolves to its state in every guard and session that open the state's
scope with the key it was sealed under. -/
theorem resolve_toToken_of_keyFor (small : st.index < 2 ^ 64)
    (long : nonce.length = Cipher.nonceLength) (keyed : g.keyFor s st.scope = key) :
    g.resolve s ((SealedState.mk st.scope id st).toToken key nonce).render = .ok st := by
  rw [← keyed]
  exact resolve_toToken small long

/-- A cipher token of scope `σ` is refused as expired or tampered when its payload opens under one
key to a document of another scope, and the key that `σ` is opened with is that key or one the
payload does not open under. -/
theorem resolve_cipher_refused {σ : Scope} {payload : List UInt8} {sealed : SealedState}
    (nonempty : payload ≠ []) (opens : SealedState.ofPayload key payload = .ok sealed)
    (other : sealed.scope ≠ σ)
    (rejects : g.keyFor s σ ≠ key → Cipher.decrypt (g.keyFor s σ) payload = .error .decryptionFailed) :
    g.resolve s (StateToken.render ⟨σ, .cipher payload⟩) =
      .error (.expiredOrTampered (StateToken.render ⟨σ, .cipher payload⟩)) := by
  have unnamed : g.named s ⟨σ, .cipher payload⟩ = none := by
    by_cases same : g.keyFor s σ = key
    · -- the payload opens, and the document it holds names another scope
      simp [named, same, opens, other]
    · simp [named, SealedState.ofPayload_of_decrypt (rejects same)]
  rw [resolve_eq, StateToken.parse_render_cipher σ nonempty]
  simp [unnamed]

end Guard

namespace Deployment

variable {d : Deployment} {trace : List Event} {handle owner : Nat} {token : StateToken} {st : State}

/-- No run changes the application key of a fresh guard. -/
theorem run_appKey (config : Config) (appKey : CipherKey) (entropy : Entropy) (calls : List Call) :
    ((init config appKey entropy).run calls).1.guard.appKey = appKey := by
  have kept := @run_preserves (fun d _ => d.guard.appKey = appKey)
    (fun d _ call same => (step_keys d call).1.trans same) (init config appKey entropy) [] rfl calls
  exact kept

/-- Every state issued in a trace was issued for a request its composer opened earlier in the
trace, with no other request of the composer opened between. -/
def IssuesOpened (trace : List Event) : Prop :=
  ∀ (handle owner : Nat) (token : StateToken) (st : State),
    Event.composer handle owner (.issued token st) ∈ trace →
    ∃ before middle after, trace = before ++ Event.composer handle owner .requestOpened :: middle ++
        Event.composer handle owner (.issued token st) :: after ∧
      ∀ e ∈ middle, e.opensRequest handle = false

theorem issuesOpened_nil : IssuesOpened [] := by
  intro handle owner token st issued
  simp at issued

/-- Every step keeps every issued state after the opening of its request: a state issued now ends
the request its composer holds open, which the trace shows opened. -/
theorem IssuesOpened.step (issues : IssuesOpened trace) (requests : d.Requests trace) (call : Call) :
    IssuesOpened (trace ++ (d.step call).2) := by
  intro h o token st issued
  rcases List.mem_append.mp issued with old | new
  · obtain ⟨before, middle, after, split, quiet⟩ := issues h o token st old
    exact ⟨before, middle, after ++ (d.step call).2, by simp [split], quiet⟩
  · rcases stepped : d.step call with ⟨d', events⟩
    rw [stepped] at new
    rcases step_cases stepped with ⟨rfl, rfl⟩ | ⟨id, rfl, rfl⟩ | ⟨session, -, rfl, rfl⟩ |
        ⟨handle, owner, c, s, cc, notes, c', g', s', found, -, ok, rfl, rfl⟩ |
        ⟨session, s, -, rfl, rfl⟩ | ⟨session, s, flow, -, rfl, rfl⟩
    · simp at new
    · simp at new
    · simp at new
    · obtain ⟨note, noted, named⟩ := List.mem_map.mp new
      cases named
      obtain ⟨-, opened, rfl, -⟩ := Composer.call_issued ok noted
      obtain ⟨before, middle, split, quiet, -⟩ := requests.opened h o c st found opened
      exact ⟨before, middle, [], by simp [split], quiet⟩
    · simp at new
    · simp at new

/-- In every run of a fresh guard every issued state was issued after the opening of its request. -/
theorem issuesOpened_run (config : Config) (appKey : CipherKey) (entropy : Entropy) (calls : List Call) :
    IssuesOpened ((init config appKey entropy).run calls).2 := by
  have all := @run_preserves (fun d trace => d.Requests trace ∧ IssuesOpened trace)
    (fun _ _ call ⟨requests, issues⟩ => ⟨requests.step call, issues.step requests call⟩)
    (init config appKey entropy) [] ⟨requests_init config appKey entropy, issuesOpened_nil⟩ calls
  simpa using all.2

/-- Every state issued in the trace has a position below the length of the trace. -/
theorem Requests.issued_of_mem (requests : d.Requests trace) (issues : IssuesOpened trace)
    (issued : Event.composer handle owner (.issued token st) ∈ trace) :
    st.index < trace.length := by
  obtain ⟨before, middle, after, split, quiet⟩ := issues handle owner token st issued
  exact (requests.issued before middle after handle owner token st split quiet).2

/-- **Sealed tokens bind their scope and key.** Under the cipher strategy, in every run of a fresh
guard with fewer than `2 ^ 64` events, every token issued for a state carries the state's scope and
a payload. It resolves to the state in every session with the same key as the composer's session
now, for a page or user-session state, and in every session of every guard with the application key
of the run, for an application state. Its payload under the prefix of any other scope is refused as
expired or tampered by every guard and session whose key for that scope is the sealing key or one
the payload does not open under. -/
theorem sealed_token_binds_scope_and_key {config : Config} (cipher : config.strategy = .cipher)
    {appKey : CipherKey} {entropy : Entropy} {calls : List Call}
    (ran : (init config appKey entropy).run calls = (d, trace)) (short : trace.length < 2 ^ 64)
    (issued : Event.composer handle owner (.issued token st) ∈ trace) {s : Session}
    (opened : d.sessions[owner]? = some s) :
    ∃ payload, token = ⟨st.scope, .cipher payload⟩ ∧
      (∀ (g' : Guard) (s' : Session),
        st.scope ≠ .application ∧ s'.key = s.key ∨ st.scope = .application ∧ g'.appKey = appKey →
        g'.resolve s' token.render = .ok st) ∧
      ∀ σ, σ ≠ st.scope → ∀ (g' : Guard) (s' : Session),
        (g'.keyFor s' σ ≠ d.guard.keyFor s st.scope →
          Cipher.decrypt (g'.keyFor s' σ) payload = .error .decryptionFailed) →
        g'.resolve s' (StateToken.render ⟨σ, .cipher payload⟩) =
          .error (.expiredOrTampered (StateToken.render ⟨σ, .cipher payload⟩)) := by
  have requests : d.Requests trace := by simpa [ran] using requests_run config appKey entropy calls
  have issues : IssuesOpened trace := by simpa [ran] using issuesOpened_run config appKey entropy calls
  have seals := seals_run cipher appKey entropy calls
  have sameApp := run_appKey config appKey entropy calls
  simp only [ran] at seals sameApp
  have small : st.index < 2 ^ 64 := lt_trans (requests.issued_of_mem issues issued) short
  -- the token was sealed under the key its scope is opened with in the composer's session now
  obtain ⟨s₀, id, nonce, found, long, rfl⟩ := seals handle owner token st issued
  rw [opened, Option.some.injEq] at found
  subst found
  refine ⟨_, rfl, fun g' s' keyed => ?_, fun σ other g' s' rejects => ?_⟩
  · apply Guard.resolve_toToken_of_keyFor small long
    rcases keyed with ⟨notApplication, sameKey⟩ | ⟨application, sameAppKey⟩
    · simp [Guard.keyFor, notApplication, sameKey]
    · simp [Guard.keyFor, application, sameAppKey, sameApp]
  · exact Guard.resolve_cipher_refused (Cipher.encrypt_ne_nil _ long _)
      (SealedState.ofPayload_toToken (s := ⟨st.scope, id, st⟩) small _ long) (Ne.symm other) rejects

/-- A guard under the default configuration switched to the cipher strategy, in which alice opens a
session and a composer, starts a page, opens a profile form, composes an editable note with a
non-ASCII value, closes the form and ends the page. -/
def profileRun : Deployment × List Event :=
  (init { Config.default with strategy := .cipher } ⟨List.replicate 32 5, rfl⟩ {}).run
    [.openSession "alice", .openComposer 0, .composer 0 .startPage,
      .composer 0 (.beginRequest .post "/profile"),
      .composer 0 (.compose "note" "héllo wörld" true none), .composer 0 .endRequest,
      .composer 0 .endPage]

/-- The state of the profile form. -/
def profileState : State :=
  { index := 0, scope := .page, method := .post, action := "/profile",
    parameters :=
      ⟨[("note", { name := "note", values := ["héllo wörld"], editable := true, dataType := none })],
        List.pairwise_singleton _ _⟩ }

/-- The token the profile run issued. -/
def profileToken : StateToken :=
  match profileRun.2 with
  | [_, _, _, .composer _ _ (.issued token _)] => token
  | _ => default

/-- Alice's session after the profile run. -/
def profileSession : Session :=
  profileRun.1.sessions.get ⟨0, by decide⟩

/-- The profile run issues a cipher token for the profile state that resolves to it in alice's
session, while its payload relabelled as a user-session token, which opens under the same session
key, is refused. -/
theorem sealed_token_binds_scope_and_key_alice :
    profileRun.2.length < 2 ^ 64 ∧
    Event.composer 0 0 (.issued profileToken profileState) ∈ profileRun.2 ∧
    profileRun.1.sessions[0]? = some profileSession ∧
    ∃ payload, profileToken = ⟨.page, .cipher payload⟩ ∧
      profileRun.1.guard.resolve profileSession profileToken.render = .ok profileState ∧
      profileRun.1.guard.resolve profileSession (StateToken.render ⟨.userSession, .cipher payload⟩) =
        .error (.expiredOrTampered (StateToken.render ⟨.userSession, .cipher payload⟩)) := by
  have short : profileRun.2.length < 2 ^ 64 := by decide
  have events : profileRun.2 = [.composer 0 0 (.pageStarted 1), .composer 0 0 .requestOpened,
      .composer 0 0 (.recorded "note" "héllo wörld" "héllo wörld"),
      .composer 0 0 (.issued profileToken profileState)] := rfl
  have issued : Event.composer 0 0 (.issued profileToken profileState) ∈ profileRun.2 := by
    rw [events]
    simp
  have opened : profileRun.1.sessions[0]? = some profileSession := rfl
  -- the run is named by its two parts, not computed
  have ran : profileRun = (profileRun.1, profileRun.2) := Prod.mk.eta.symm
  obtain ⟨payload, form, resolves, relabelled⟩ :=
    sealed_token_binds_scope_and_key rfl ran short issued opened
  -- a page token relabelled as a user-session token is opened with the same session key
  have sameKey : profileRun.1.guard.keyFor profileSession .userSession =
      profileRun.1.guard.keyFor profileSession profileState.scope := by
    simp [Guard.keyFor, profileState]
  exact ⟨short, issued, opened, payload, form, resolves _ _ (.inl ⟨by decide, rfl⟩),
    relabelled .userSession (by decide) _ _ fun differs => absurd sameKey differs⟩

end Deployment

end FormIntegrity
