import FormIntegrity.Proofs.Calls

/-!
# What resolution and validation answer

Spec lemmas of the validator, which proofs about runs cite instead of unfolding it. A text resolves
to a state only when it reads as a token and either names, with the page's nonce, a state of a page
held in the cache of the token's scope, or carries a payload that opens under the key of the token's
scope; in both cases the state has the token's scope. A text that reads as a token and does not
resolve is refused as expired or tampered.

A request passes with a state only when its one token resolves to that state and its parameters pass
the integrity check; it passes without a state only when it carries no token and its path is a start
page.
-/

namespace FormIntegrity

namespace Guard

variable {g : Guard} {s : Session} {raw : String} {st : State}

/-- The cache a memory token of a scope is looked up in: the session's for page and user-session
states, the guard's for application states. -/
def cacheFor (g : Guard) (s : Session) (scope : Scope) : PageCache :=
  (s.cache? scope).getD g.appPages

/-- The key a cipher token of a scope opens under. -/
def keyFor (g : Guard) (s : Session) (scope : Scope) : CipherKey :=
  if scope = .application then g.appKey else s.key

/-- What a token names in a guard and a session, if anything. -/
def named (g : Guard) (s : Session) (token : StateToken) : Option State :=
  let found := match token.body with
    | .memory id index nonce =>
      ((g.cacheFor s token.scope).page? id).bind fun page =>
        if page.nonce = nonce then page.state? index.toNat else none
    | .cipher payload =>
      match SealedState.ofPayload (g.keyFor s token.scope) payload with
      | .ok sealed => if sealed.scope = token.scope then some sealed.state else none
      | .error _ => none
  found.filter (·.scope == token.scope)

/-- Resolution reads the token, then answers what it names, or refuses it as expired or tampered. -/
theorem resolve_eq (g : Guard) (s : Session) (raw : String) :
    g.resolve s raw = match StateToken.parse raw with
      | .error _ => .error (.malformedToken raw)
      | .ok token => match g.named s token with
        | some st => .ok st
        | none => .error (.expiredOrTampered raw) := by
  unfold resolve named cacheFor keyFor
  cases StateToken.parse raw with
  | error e => rfl
  | ok token =>
    rcases token with ⟨scope, body⟩
    cases body with
    | memory id index nonce =>
      simp only [bind, Except.bind, pure, Except.pure]
      cases ((s.cache? scope).getD g.appPages).page? id with
      | none => rfl
      | some page =>
        simp only [Option.bind_some]
        by_cases sameNonce : page.nonce = nonce
        · cases page.state? index.toNat with
          | none => simp [sameNonce, throw, throwThe, MonadExceptOf.throw]
          | some found =>
            by_cases sameScope : found.scope = scope <;>
              simp [sameNonce, sameScope, Option.filter, throw, throwThe, MonadExceptOf.throw]
        · simp [sameNonce, throw, throwThe, MonadExceptOf.throw]
    | cipher payload =>
      simp only [bind, Except.bind, pure, Except.pure]
      cases SealedState.ofPayload (if scope = .application then g.appKey else s.key) payload with
      | error e => rfl
      | ok sealed =>
        by_cases sameScope : sealed.scope = scope
        · by_cases stateScope : sealed.state.scope = scope <;>
            simp [sameScope, stateScope, Option.filter, throw, throwThe, MonadExceptOf.throw]
        · simp [sameScope, throw, throwThe, MonadExceptOf.throw]

variable {r : Request}

/-- A request passes with the state its one token resolves to and parameters that pass the integrity
check, or, carrying no token on a start page, with no state and its parameters as submitted. -/
theorem validate_passed {v : Passed} (passed : g.validate s r = .passed v) :
    (∃ t st, r.parameters.find? s.stateParameterName = some [t] ∧ g.resolve s t = .ok st ∧
      v.state = some st ∧
      Validation.integrity g.config st r.path (r.parameters.erase s.stateParameterName) = .ok v.parameters) ∨
    (r.parameters.find? s.stateParameterName = none ∧ g.config.isStartPage r.path = true ∧
      v.state = none ∧ v.parameters = r.parameters.erase s.stateParameterName) := by
  unfold validate at passed
  cases carried : r.parameters.find? s.stateParameterName with
  | none =>
    simp only [carried] at passed
    by_cases start : g.config.isStartPage r.path = true
    · simp only [start, if_true, pure, Except.pure, Outcome.passed.injEq] at passed
      subst passed
      exact .inr ⟨rfl, start, rfl, rfl⟩
    · simp [start, throw, throwThe, MonadExceptOf.throw] at passed
  | some values =>
    rcases values with _ | ⟨t, _ | ⟨t', rest⟩⟩
    · simp [carried, throw, throwThe, MonadExceptOf.throw] at passed
    · simp only [carried, bind, Except.bind] at passed
      cases resolved : g.resolve s t with
      | error violation => simp [resolved] at passed
      | ok st =>
        cases integral : Validation.integrity g.config st r.path (r.parameters.erase s.stateParameterName) with
        | error violation => simp [resolved, integral] at passed
        | ok params =>
          simp only [resolved, integral, pure, Except.pure, Outcome.passed.injEq] at passed
          subst passed
          exact .inl ⟨t, st, rfl, resolved, rfl, integral⟩
    · simp [carried, throw, throwThe, MonadExceptOf.throw] at passed

/-- A request whose one token resolves to a state, and whose other parameters pass the integrity
check of that state, passes with the state and the restored parameters. -/
theorem validate_of_resolve {t : String} {restored : NameMap (List String)}
    (carried : r.parameters.find? s.stateParameterName = some [t]) (resolved : g.resolve s t = .ok st)
    (integral : Validation.integrity g.config st r.path (r.parameters.erase s.stateParameterName) =
      .ok restored) :
    g.validate s r = .passed ⟨some st, restored, Validation.fieldErrors g.config (some st) r.path restored⟩ := by
  simp [validate, carried, resolved, integral, bind, Except.bind, pure, Except.pure]

end Guard

end FormIntegrity
