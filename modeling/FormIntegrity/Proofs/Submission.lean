import FormIntegrity.Proofs.Lifetime
import FormIntegrity.Proofs.IssuedTokens
import FormIntegrity.Proofs.SealedRoundTrip

/-!
# Submitting a composed form

A page shows, for every value composed into a request target, a text: the value itself, or the
placeholder of its position. The form the page makes submits those texts back, one entry per
composed name with its texts in the order they were handed out, and the target's token under the
session's state parameter name (`Recordings.submission`).

Such a submission passes validation, in every run of a guard, for every token issued: the token
resolves to the state it was issued for, under the memory strategy while the cache of the state's
scope still holds its page and under the cipher strategy always, and the integrity check passes on
each composed name's values as `Recordings.passedOn` says: the composed values for a pinned name,
the submitted texts for an editable or exempt one (`submitted_form_passes`). Nothing is asked of the
values: a value that looks like a placeholder is composed and restored like any other.
-/

namespace FormIntegrity

namespace Recordings

/-- A request with the text shown for each recorded value added under its name, in order. -/
def addShown (r : Request) : List (String × String × String) → Request
  | [] => r
  | (n, _, sh) :: rest => addShown (r.add n sh) rest

/-- The request a page submits for a target: to `path`, with the text shown for each composed value
under its name, in the order composed, and a token's text under the state parameter name. -/
def submission (method : Method) (path : String) (records : List (String × String × String))
    (stateName token : String) : Request :=
  (addShown { method, path } records).add stateName token

variable {records : List (String × String × String)}

theorem path_addShown (r : Request) : (addShown r records).path = r.path := by
  induction records generalizing r with
  | nil => rfl
  | cons e rest ih => exact ih _

/-- Adding the shown texts appends, to each composed name's values, the texts shown for it. -/
theorem find?_addShown {r : Request} (k : String) :
    (addShown r records).parameters.find? k =
      if k ∈ records.map (·.1) then some ((r.parameters.find? k).getD [] ++ shown records k)
      else r.parameters.find? k := by
  induction records generalizing r with
  | nil => simp [addShown]
  | cons e rest ih =>
    obtain ⟨n, v, sh⟩ := e
    rw [addShown, ih]
    simp only [Request.add, NameMap.find?_push]
    rw [show (n, v, sh) :: rest = [(n, v, sh)] ++ rest from rfl, shown_append]
    by_cases later : k ∈ rest.map (·.1)
    · by_cases same : k = n
      · subst same
        simp [later]
      · simp [same, later, Ne.symm same]
    · have unshown := shown_eq_nil later
      by_cases same : k = n
      · subst same
        simp [later, unshown]
      · simp [same, later]

variable {method : Method} {path stateName token : String}

@[simp] theorem path_submission :
    (submission method path records stateName token).path = path :=
  path_addShown _

/-- The submission carries the token, alone, under the state parameter name. -/
theorem find?_submission_state (apart : stateName ∉ records.map (·.1)) :
    (submission method path records stateName token).parameters.find? stateName = some [token] := by
  rw [submission, Request.add, NameMap.find?_push, if_pos rfl, find?_addShown, if_neg apart]
  rfl

/-- Without the token, the submission carries for each composed name exactly the texts shown for it,
and nothing else. -/
theorem find?_submission_erase (apart : stateName ∉ records.map (·.1)) (k : String) :
    ((submission method path records stateName token).parameters.erase stateName).find? k =
      if k ∈ records.map (·.1) then some (shown records k) else none := by
  rw [NameMap.find?_erase]
  by_cases same : k = stateName
  · subst same
    simp [apart]
  · rw [if_neg same, submission, Request.add, NameMap.find?_push, if_neg same, find?_addShown]
    rfl

/-- Without the token, every entry of a submission is a composed name with the texts shown for
it. -/
theorem mem_submission_erase (apart : stateName ∉ records.map (·.1)) {e : String × List String}
    (member : e ∈ ((submission method path records stateName token).parameters.erase stateName).entries) :
    e.1 ∈ records.map (·.1) ∧ e.2 = shown records e.1 := by
  have found := NameMap.find?_eq_some_iff.mpr member
  rw [find?_submission_erase apart] at found
  split at found
  · exact ⟨‹_›, (Option.some.inj found).symm⟩
  · cases found

/-- Without the token, a submission carries every composed name. -/
theorem contains_submission_erase (apart : stateName ∉ records.map (·.1)) {n : String}
    (composed : n ∈ records.map (·.1)) :
    ((submission method path records stateName token).parameters.erase stateName).contains n = true := by
  simp [NameMap.contains_eq_isSome_find?, find?_submission_erase apart, composed]

/-- Submitting what was shown for a state, with its token, passes the integrity check of the state:
the check passes on each composed name's values as `passedOn` says, and no other name. -/
theorem integrity_submission {cfg : Config} {st : State} (method : Method) (token : String)
    (recorded : Records cfg.confidentiality st records) (few : records.length ≤ 2 ^ 64)
    (apart : stateName ∉ records.map (·.1)) :
    ∃ restored, Validation.integrity cfg st st.action
        ((submission method st.action records stateName token).parameters.erase stateName) =
          .ok restored ∧
      ∀ k, restored.find? k =
        if k ∈ records.map (·.1) then some (passedOn cfg st st.action records k) else none := by
  refine ⟨_, recorded.integrity few rfl (fun e member => mem_submission_erase apart member)
    (fun n composed => contains_submission_erase apart composed), fun k => ?_⟩
  rw [NameMap.find?_withValues, find?_submission_erase apart]
  split <;> rfl

end Recordings

namespace Deployment

variable {d : Deployment} {trace : List Event} {handle owner : Nat} {token : StateToken}
variable {st : State} {s : Session}

/-- Under the memory strategy, the token issued for a state resolves to it in a session whose cache
for the state's scope holds a page with the token's page id: that page is the one the state was
stored on. -/
theorem resolve_issued_memory (sound : d.Sound trace) (fresh : d.Fresh trace)
    (placed : d.Placed trace) (issued : Event.composer handle owner (.issued token st) ∈ trace)
    {S : Nat} (opened : d.sessions[S]? = some s) (small : st.index < 2 ^ 64)
    (retained : ∀ id index nonce, token.body = .memory id index nonce →
      ∃ P ∈ (d.guard.cacheFor s st.scope).view, P.id = id) :
    d.guard.resolve s token.render = .ok st := by
  obtain ⟨id, nonce, rfl, valid, sits⟩ := placed handle owner token st issued
  obtain ⟨P, held, keyed⟩ := retained id st.index.toUInt64 nonce rfl
  obtain ⟨h, o, -, storedP⟩ := (sound.cacheFor opened st.scope).2 P held
  rcases sits with ⟨c, D, found, drafted, sameId, -, -⟩ | ⟨Q, storedQ, sameId, sameNonce, placedAt⟩
  · -- a page still being drafted has an id that no stored page has
    exact absurd (mem_storedIds.mpr ⟨h, o, P, storedP, keyed.trans sameId.symm⟩)
      (fresh.draftUnstored handle owner c D found drafted)
  · obtain ⟨-, rfl⟩ := stored_unique fresh.storedOnce storedP storedQ (keyed.trans sameId.symm)
    subst sameId sameNonce
    have named := sound.named_held opened held placedAt small
    rw [Guard.resolve_eq, StateToken.parse_render_memory _ _ _ _ valid]
    simp [named]

/-- **A submitted form passes.** In every run of a guard, with any configuration, in which fewer than
`2 ^ 64` events happen: take a request a composer opened and the token it issued for the request's
state, the values the composer recorded in between, and a session the composer works for, whose
state parameter name no composed name takes. Under the memory strategy, let the cache of the
state's scope in that session still hold the page the token names. Then the state records exactly
the composed values, and the request to the state's action that submits the texts shown for them
with the token's text passes validation in the session, with that state, passing on each composed
name, and no other, with the values `passedOn` gives. -/
theorem submitted_form_passes {config : Config} {appKey : CipherKey} {entropy : Entropy}
    {calls : List Call} (ran : (init config appKey entropy).run calls = (d, trace))
    (short : trace.length < 2 ^ 64) {before middle after : List Event}
    (split : trace = before ++ Event.composer handle owner .requestOpened :: middle ++
      Event.composer handle owner (.issued token st) :: after)
    (quiet : ∀ e ∈ middle, e.opensRequest handle = false) (opened : d.sessions[owner]? = some s)
    (apart : s.stateParameterName ∉ (recordsOf handle middle).map (·.1))
    (retained : ∀ id index nonce, token.body = .memory id index nonce →
      ∃ P ∈ (d.guard.cacheFor s st.scope).view, P.id = id)
    (method : Method) :
    Records config.confidentiality st (recordsOf handle middle) ∧
    ∃ v, d.guard.validate s (Recordings.submission method st.action (recordsOf handle middle)
        s.stateParameterName token.render) = .passed v ∧ v.state = some st ∧
      ∀ n, v.parameters.find? n = if n ∈ (recordsOf handle middle).map (·.1) then
        some (Recordings.passedOn config st st.action (recordsOf handle middle) n) else none := by
  have requests : d.Requests trace := by simpa [ran] using requests_run config appKey entropy calls
  have sameConfig : d.guard.config = config := by
    have kept := run_config (init config appKey entropy) calls
    rw [ran] at kept
    exact kept
  obtain ⟨recorded, below⟩ := requests.issued before middle after handle owner token st split quiet
  rw [sameConfig] at recorded
  have small : st.index < 2 ^ 64 := lt_trans below short
  have few : (recordsOf handle middle).length ≤ 2 ^ 64 := by
    have := length_recordsOf_le handle middle
    have : middle.length ≤ trace.length := by simp [split]; omega
    omega
  have issued : Event.composer handle owner (.issued token st) ∈ trace := by simp [split]
  -- the token resolves to the state, by the cache under the memory strategy and by the seal
  -- under the cipher strategy
  have resolved : d.guard.resolve s token.render = .ok st := by
    cases strategy : config.strategy with
    | memory =>
      have sound := sound_run strategy appKey entropy calls
      have placed := placed_run strategy appKey entropy calls
      have fresh := fresh_run strategy appKey entropy calls (by
        rw [ran]
        exact lt_of_le_of_lt (List.countP_le_length) short)
      simp only [ran] at sound placed fresh
      exact resolve_issued_memory sound fresh placed issued opened small retained
    | cipher =>
      have seals := seals_run strategy appKey entropy calls
      simp only [ran] at seals
      obtain ⟨s', id, nonce, found, long, rfl⟩ := seals handle owner token st issued
      rw [opened, Option.some.injEq] at found
      subst found
      exact Guard.resolve_toToken small long
  obtain ⟨restored, integral, restoredAt⟩ :=
    Recordings.integrity_submission method token.render recorded few apart
  refine ⟨recorded, _, Guard.validate_of_resolve
    (Recordings.find?_submission_state apart) resolved (by rw [sameConfig, Recordings.path_submission]; exact integral), rfl,
    restoredAt⟩

/-- The state of the transfer form. -/
def transferState : State :=
  { index := 0, scope := .page, method := .post, action := "/transfer",
    parameters :=
      ⟨[("amount", { name := "amount", values := ["100"], editable := false, dataType := none })],
        List.pairwise_singleton _ _⟩ }

theorem submitted_form_passes_transfer :
    transferRun.2.length < 2 ^ 64 ∧
    transferRun.2 = [.composer 0 0 (.pageStarted 1)] ++ .composer 0 0 .requestOpened ::
      [.composer 0 0 (.recorded "amount" "100" "~0")] ++
      .composer 0 0 (.issued ⟨.page, .memory 1 0 "fca8f6d8cb55fa34"⟩ transferState) ::
      [.composer 0 0 (.stored ⟨1, "fca8f6d8cb55fa34", [transferState], []⟩)] ∧
    (∀ e ∈ [Event.composer 0 0 (.recorded "amount" "100" "~0")], e.opensRequest 0 = false) ∧
    transferRun.1.sessions[0]? = some transferSession ∧
    transferSession.stateParameterName ∉ (recordsOf 0 [.composer 0 0 (.recorded "amount" "100" "~0")]).map (·.1) ∧
    (∀ id index nonce, TokenBody.memory 1 0 "fca8f6d8cb55fa34" = .memory id index nonce →
      ∃ P ∈ (transferRun.1.guard.cacheFor transferSession transferState.scope).view, P.id = id) ∧
    Records Config.default.confidentiality transferState
      (recordsOf 0 [.composer 0 0 (.recorded "amount" "100" "~0")]) ∧
    ∃ v, transferRun.1.guard.validate transferSession
        (Recordings.submission .post transferState.action
          (recordsOf 0 [.composer 0 0 (.recorded "amount" "100" "~0")])
          transferSession.stateParameterName (StateToken.render ⟨.page, .memory 1 0 "fca8f6d8cb55fa34"⟩)) =
        .passed v ∧ v.state = some transferState ∧
      ∀ n, v.parameters.find? n =
        if n ∈ (recordsOf 0 [.composer 0 0 (.recorded "amount" "100" "~0")]).map (·.1) then
          some (Recordings.passedOn Config.default transferState transferState.action
            (recordsOf 0 [.composer 0 0 (.recorded "amount" "100" "~0")]) n)
        else none := by
  refine ⟨?short, ?split, ?quiet, ?opened, ?apart, ?retained,
    submitted_form_passes rfl ?short ?split ?quiet ?opened ?apart ?retained .post⟩
  case short => decide
  case split => rfl
  case quiet => decide
  case opened => rfl
  case apart => decide
  case retained =>
    intro id index nonce named
    cases named
    -- the page cache of alice's session holds the transfer page
    have held : (transferRun.1.guard.cacheFor transferSession transferState.scope).view =
        [⟨1, "fca8f6d8cb55fa34", [transferState], []⟩] := rfl
    exact ⟨_, by rw [held]; exact List.mem_singleton_self _, rfl⟩

end Deployment

end FormIntegrity
