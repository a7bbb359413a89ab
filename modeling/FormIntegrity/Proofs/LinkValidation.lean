import FormIntegrity.Proofs.ComposedQuery
import FormIntegrity.Proofs.ComposedParameters
import FormIntegrity.Proofs.Lifecycle
import FormIntegrity.Proofs.TokenBinding

/-!
# Following a composed link

A page links to a target by composing a query into the open request: the answer is the query the
link carries, each pinned value written as the text the page shows for it. Following the link, the
request's action, then `?`, that query and the token of the request's state under the session's
state parameter name, passes validation with the state and passes on, for each name of the query,
the values its pairs decode to, in order (`link_passes_validation`).

Four facts carry it. A request is opened only for an action without a query, since the lifecycle
refuses a `?` (`plainActions_run`). The texts shown for a stretch of a pinned name's values are the
texts of their positions among all its values, so they restore to the values of the stretch even
when other values of the name were composed around it (`Records.integrity_slice`). The token of an
issued state resolves to the state and is carried verbatim (`resolve_issued`, `verbatim_issued`).
And the state parameter name is read back as itself only when it decodes to itself: a link with the
name `a+b` carries its token under `a b`, where the guard does not look.
-/

namespace FormIntegrity

namespace Query

/-- The names of a query's pairs that decode, in order. -/
def decodedNames (query : String) : List String :=
  (Composer.decodedPairs query).map (·.2.2.1)

/-- The decoded values of a query's pairs that decode with a name, in order. -/
def decodedValues (query name : String) : List String :=
  (Composer.decodedPairs query).filterMap fun p => if p.2.2.1 = name then some p.2.2.2 else none

end Query

namespace Config

/-- A usable state parameter name neither ends a query pair nor cuts one. -/
theorem validStateName_apart {name : String} (usable : validStateName name = true) :
    '&' ∉ name.toList ∧ '=' ∉ name.toList := by
  simp only [validStateName, Bool.and_eq_true, Bool.not_eq_true', List.all_eq_true] at usable
  exact ⟨fun mem => by simpa using usable.2 '&' mem, fun mem => by simpa using usable.2 '=' mem⟩

end Config

namespace Lifecycle

variable {l l' : Lifecycle} {call : ComposerCall}

/-- The open request, if any, is for an action that holds no query. -/
def Plain (l : Lifecycle) : Prop :=
  ∀ scope action, l.opened = some (scope, action) → '?' ∉ action.toList

theorem plain_start : start.Plain := by
  intro scope action opened
  cases opened

/-- Every move of the diagram keeps the open request's action free of a query: only `openFor`
opens a request, and it refuses an action with a `?`. -/
theorem Plain.step (plain : l.Plain) (stepped : l.step call = some l') : l'.Plain := by
  intro scope action opened
  unfold Lifecycle.step openFor at stepped
  cases call <;> (split at stepped <;> try split at stepped) <;> grind [Plain]

end Lifecycle

namespace Composer

variable {c c' : Composer} {confidential : Bool} {query encoding : String}
variable {records : List (String × String × String)}

/-- Recording query pairs records each pair's name and value, in order. -/
theorem pairsShown_values {pairs : List (String × String × String × String)}
    (ok : c.pairsShown confidential pairs = .ok (records, c')) :
    records.map (fun r => (r.1, r.2.1)) = pairs.map (·.2.2) := by
  induction pairs generalizing c c' records with
  | nil =>
    simp only [pairsShown, Except.pure_eq_ok, Prod.mk.injEq] at ok
    obtain ⟨rfl, -⟩ := ok
    rfl
  | cons pair rest ih =>
    obtain ⟨rawName, rawValue, name, value⟩ := pair
    simp only [pairsShown, Except.bind_eq_ok] at ok
    obtain ⟨⟨shown₁, c₁⟩, -, ⟨records₂, c₂⟩, restOk, finished⟩ := ok
    simp only [Except.pure_eq_ok, Prod.mk.injEq] at finished
    obtain ⟨rfl, rfl⟩ := finished
    simp [ih restOk]

/-- Composing a query records the names of its decoded pairs, each with the values decoded for
it, in order. -/
theorem paramsShown_decoded (ok : c.paramsShown confidential query encoding = .ok (records, c')) :
    records.map (·.1) = Query.decodedNames query ∧
      ∀ n, Recordings.values records n = Query.decodedValues query n := by
  rw [paramsShown_eq] at ok
  split at ok
  · cases ok
  · split at ok
    · cases ok
    · obtain ⟨decoded, decodedOk, shown⟩ := Except.bind_eq_ok.mp ok
      have all : decodedPairs query = decoded :=
        List.filterMap_toOption_of_forall₂ (List.mapM_except_eq_ok_iff.mp decodedOk)
      have pairs := pairsShown_values shown
      rw [← all] at pairs
      constructor
      · have names := congrArg (List.map Prod.fst) pairs
        simpa [List.map_map, Function.comp_def, Query.decodedNames] using names
      · intro n
        have kept := congrArg (List.filterMap fun p : String × String =>
          if p.1 = n then some p.2 else none) pairs
        simpa [List.filterMap_map, Recordings.values, Query.decodedValues] using kept

end Composer

namespace Validation

/-- The texts of a stretch of a parameter's values, each shown at its position, restore to the
values of the stretch. -/
theorem restoreValues_slice (p : Parameter) (name : String) (confidential : Bool)
    {pre vs post : List String} (values : p.values = pre ++ vs ++ post) (few : p.values.length ≤ 2 ^ 64) :
    restoreValues p name confidential (vs.mapIdx fun i => pinnedText confidential (i + pre.length)) =
      .ok vs := by
  apply restoreValues_of_forall₂
  rw [List.forall₂_iff_get]
  refine ⟨List.length_mapIdx, fun i h₁ h₂ => ?_⟩
  have within : i + pre.length < p.values.length := by
    simp only [values, List.length_append]
    omega
  have placed : p.values[i + pre.length] = vs[i] := by
    simp only [values, List.append_assoc]
    rw [List.getElem_append_right (by omega), List.getElem_append_left (by simp; omega)]
    simp
  simp only [List.get_eq_getElem, List.getElem_mapIdx]
  rw [← placed]
  exact Parameter.resolve_pinnedText confidential within (by omega)

end Validation

namespace Records

variable {cfg : Config} {confidential : Bool} {st : State} {path n : String} {p : Parameter}
variable {pre records post : List (String × String × String)}

/-- The texts shown for a pinned name's values composed in one stretch of the records are the
texts of their positions among all the name's values. -/
theorem shown_slice (recorded : Records confidential st (pre ++ records ++ post))
    (found : st.parameter? n = some p) (pinned : p.editable = false) :
    Recordings.shown records n = (Recordings.values records n).mapIdx
      fun i => pinnedText confidential (i + (Recordings.values pre n).length) := by
  have whole := recorded.shown n p found pinned
  simp only [Recordings.shown_append, Recordings.values_append, List.mapIdx_append,
    List.append_assoc] at whole
  -- cut the shown texts where the values of the stretch begin and end
  obtain ⟨-, rest⟩ := List.append_inj whole (by simp [Recordings.length_shown])
  exact (List.append_inj rest (by simp [Recordings.length_shown])).1

/-- A pinned, not exempt name of a stretch of the records, submitted with the texts shown for the
stretch, passes its check with the values of the stretch. -/
theorem checkParameter_slice (recorded : Records cfg.confidentiality st (pre ++ records ++ post))
    (few : (pre ++ records ++ post).length ≤ 2 ^ 64) (composed : n ∈ records.map (·.1))
    (pinned : ∀ p, st.parameter? n = some p → p.editable = false)
    (notExempt : cfg.isExempt path n = false) :
    Validation.checkParameter cfg st path n (Recordings.shown records n) =
      .ok (Recordings.values records n) := by
  obtain ⟨p, found⟩ := (recorded.declared n).mpr (by simp [composed])
  have allValues := recorded.values n p found
  have within : p.values.length ≤ 2 ^ 64 :=
    allValues ▸ (Recordings.length_values_le _ n).trans few
  have stretch : p.values = Recordings.values pre n ++ Recordings.values records n ++
      Recordings.values post n := by
    simpa using allValues
  have notMore : ¬(Recordings.shown records n).length > p.values.length := by
    rw [Recordings.length_shown, stretch]
    simp only [List.length_append]
    omega
  unfold Validation.checkParameter
  simp only [notExempt, found, pinned p found, notMore, Bool.false_eq_true, if_false]
  rw [recorded.shown_slice found (pinned p found)]
  exact Validation.restoreValues_slice p n cfg.confidentiality stretch within

/-- **Submitting the texts of one stretch passes the integrity check.** A request to the state's
action that submits, for names of one stretch of the records only and each of them, the texts shown
for the stretch passes the check and passes on the values of the stretch, when those names are
pinned and not exempt and no other name is required. -/
theorem integrity_slice (recorded : Records cfg.confidentiality st (pre ++ records ++ post))
    (few : (pre ++ records ++ post).length ≤ 2 ^ 64) (atAction : st.action = path)
    (pinned : ∀ n ∈ records.map (·.1), ∀ p, st.parameter? n = some p → p.editable = false)
    (notExempt : ∀ n ∈ records.map (·.1), cfg.isExempt path n = false)
    (onlyThese : ∀ n p, st.parameter? n = some p → p.required = true → n ∈ records.map (·.1))
    {params : NameMap (List String)}
    (submitted : ∀ e ∈ params.entries, e.1 ∈ records.map (·.1) ∧ e.2 = Recordings.shown records e.1)
    (complete : ∀ n ∈ records.map (·.1), params.contains n = true) :
    Validation.integrity cfg st path params =
      .ok (params.withValues (Recordings.values records)) := by
  have checked := List.mapM_except_ok
    (f := fun (e : String × List String) => do
      pure (e.1, ← Validation.checkParameter cfg st path e.1 e.2))
    (g := fun e => (e.1, Recordings.values records e.1)) (l := params.entries)
    fun e member => by
      obtain ⟨composed, shownHere⟩ := submitted e member
      rw [shownHere, recorded.checkParameter_slice few composed (pinned e.1 composed)
        (notExempt e.1 composed)]
      rfl
  have missing : Validation.missingRequired cfg st path params = none :=
    Validation.missingRequired_eq_none recorded.named
      fun n p found required => complete n (onlyThese n p found required)
  unfold Validation.integrity
  simp only [atAction, ne_eq, not_true_eq_false, if_false]
  rw [checked, missing]
  -- the names passed on are the submitted ones, in ascending order, so the map keeps them
  exact congrArg Except.ok (NameMap.ofList_self (params.withValues _))

end Records

-- traces of concrete runs are compared event by event
deriving instance DecidableEq for NameMap
deriving instance DecidableEq for State
deriving instance DecidableEq for Page
deriving instance DecidableEq for Note
deriving instance DecidableEq for Event

namespace Deployment

variable {d : Deployment} {trace : List Event} {handle owner : Nat} {token : StateToken}
variable {st : State} {s : Session}

/-- Every request a composer holds open, and every state issued in the trace, is for an action
that holds no query. -/
structure PlainActions (d : Deployment) (trace : List Event) : Prop where
  opened : ∀ (handle owner : Nat) (c : Composer), d.composers[handle]? = some (owner, c) →
    c.lifecycle.Plain
  issued : ∀ (handle owner : Nat) (token : StateToken) (st : State),
    Event.composer handle owner (.issued token st) ∈ trace → '?' ∉ st.action.toList

theorem plainActions_init (config : Config) (appKey : CipherKey) (entropy : Entropy) :
    (init config appKey entropy).PlainActions [] where
  opened := by simp [init]
  issued := by simp

/-- Every step keeps every action free of a query: a composer moves along the lifecycle diagram,
which keeps its open request's action so, and a state is issued for the request its composer held
open. -/
theorem PlainActions.step (plain : d.PlainActions trace) (requests : d.Requests trace) (call : Call) :
    (d.step call).1.PlainActions (trace ++ (d.step call).2) := by
  rcases stepped : d.step call with ⟨d', events⟩
  rcases step_cases stepped with ⟨rfl, rfl⟩ | ⟨id, rfl, rfl⟩ | ⟨session, -, rfl, rfl⟩ |
      ⟨handle, owner, c, s, cc, notes, c', g', s', found, -, ok, rfl, rfl⟩ |
      ⟨session, s, -, rfl, rfl⟩ | ⟨session, s, flow, -, rfl, rfl⟩
  · simpa using plain
  · exact ⟨plain.opened, by simpa using plain.issued⟩
  · -- a new composer holds no request
    refine ⟨fun h o c₀ found' => ?_, by simpa using plain.issued⟩
    rw [List.getElem?_append] at found'
    split at found'
    · exact plain.opened h o c₀ found'
    · cases offset : h - d.composers.length with
      | zero =>
        simp only [offset, List.getElem?_cons_zero, Option.some.injEq, Prod.mk.injEq] at found'
        rw [← found'.2, Composer.lifecycle_empty]
        exact Lifecycle.plain_start
      | succ k => simp [offset] at found'
  · have moved := (requests.coherent handle owner c found).lifecycle_call ok
    refine ⟨fun h o c₀ found' => ?_, fun h o token st issued => ?_⟩
    · rcases getElem?_set_eq_some found' with ⟨-, same⟩ | ⟨-, old⟩
      · cases same
        exact (plain.opened handle owner c found).step moved
      · exact plain.opened h o c₀ old
    · rcases List.mem_append.mp issued with old | new
      · exact plain.issued h o token st old
      · obtain ⟨note, noted, named⟩ := List.mem_map.mp new
        cases named
        obtain ⟨-, opened, -⟩ := Composer.call_issued ok noted
        exact plain.opened _ _ c found st.scope st.action (by simp [Composer.lifecycle, opened])
  · exact ⟨plain.opened, by simpa using plain.issued⟩
  · exact ⟨plain.opened, by simpa using plain.issued⟩

/-- In every run of a fresh guard every action is free of a query. -/
theorem plainActions_run (config : Config) (appKey : CipherKey) (entropy : Entropy) (calls : List Call) :
    ((init config appKey entropy).run calls).1.PlainActions ((init config appKey entropy).run calls).2 := by
  have all := @run_preserves (fun d trace => d.Requests trace ∧ d.PlainActions trace)
    (fun _ _ call ⟨requests, plain⟩ => ⟨requests.step call, plain.step requests call⟩)
    (init config appKey entropy) [] ⟨requests_init config appKey entropy, plainActions_init config appKey entropy⟩
    calls
  simpa using all.2

variable {config : Config} {appKey : CipherKey} {entropy : Entropy} {calls : List Call}

/-- The token issued for a state resolves to it in the session of its composer: under the memory
strategy while the cache of the state's scope still holds the page the token names, under the
cipher strategy always. -/
theorem resolve_issued (ran : (init config appKey entropy).run calls = (d, trace))
    (short : trace.length < 2 ^ 64) (issued : Event.composer handle owner (.issued token st) ∈ trace)
    (opened : d.sessions[owner]? = some s)
    (retained : ∀ id index nonce, token.body = .memory id index nonce →
      ∃ P ∈ (d.guard.cacheFor s st.scope).view, P.id = id) :
    d.guard.resolve s token.render = .ok st := by
  have requests : d.Requests trace := by simpa [ran] using requests_run config appKey entropy calls
  have issues : IssuesOpened trace := by simpa [ran] using issuesOpened_run config appKey entropy calls
  have small : st.index < 2 ^ 64 := lt_trans (requests.issued_of_mem issues issued) short
  cases strategy : config.strategy with
  | memory =>
    have sound := sound_run strategy appKey entropy calls
    have placed := placed_run strategy appKey entropy calls
    have fresh := fresh_run strategy appKey entropy calls (by
      rw [ran]
      exact lt_of_le_of_lt (List.countP_le_length) short)
    simp only [ran] at sound placed fresh
    exact resolve_issued_memory sound fresh placed issued opened small retained
  | cipher =>
    have seals := seals_run strategy appKey entropy calls
    simp only [ran] at seals
    obtain ⟨s', id, nonce, found, long, rfl⟩ := seals handle owner token st issued
    rw [opened, Option.some.injEq] at found
    subst found
    exact Guard.resolve_toToken small long

/-- The text of every token issued in a run is carried verbatim in a query. -/
theorem verbatim_issued (ran : (init config appKey entropy).run calls = (d, trace))
    (issued : Event.composer handle owner (.issued token st) ∈ trace) : Query.Verbatim token.render := by
  apply StateToken.verbatim_render
  intro id index nonce shape
  cases strategy : config.strategy with
  | memory =>
    -- a memory token's nonce is a run of hexadecimal digits
    have placed := placed_run strategy appKey entropy calls
    simp only [ran] at placed
    obtain ⟨id', nonce', rfl, valid, -⟩ := placed handle owner token st issued
    cases shape
    exact valid
  | cipher =>
    -- a cipher token has no nonce of its own
    have seals := seals_run strategy appKey entropy calls
    simp only [ran] at seals
    obtain ⟨s', id', nonce', -, -, rfl⟩ := seals handle owner token st issued
    simp [SealedState.toToken] at shape

/-- **Following a composed link passes validation.** In every run of a guard, with any
configuration, in which fewer than `2 ^ 64` events happen: take a request a composer opened and the
token it issued for the request's state, and a session the composer works for, whose state
parameter name is usable and decodes to itself. Let the values the composer recorded in between
hold, in one stretch, what composing a query into an open request records, with the answer `query'`;
let no pair of the query decode to the state parameter name, and let every name of the query be
pinned and not exempt on the action and be the only names the state requires. Under the memory
strategy, let the cache of the state's scope still hold the page the token names. Then the link to
the action with the query `query'` and the token's text under the state parameter name is read as a
request that passes validation with the state, passing on each name of the query, and no other, with
the values its pairs decode to, in order. -/
theorem link_passes_validation (ran : (init config appKey entropy).run calls = (d, trace))
    (short : trace.length < 2 ^ 64) {before middle after : List Event}
    (split : trace = before ++ Event.composer handle owner .requestOpened :: middle ++
      Event.composer handle owner (.issued token st) :: after)
    (quiet : ∀ e ∈ middle, e.opensRequest handle = false) (opened : d.sessions[owner]? = some s)
    {c c' c'' : Composer} {query query' : String} {pre shownPairs post : List (String × String × String)}
    (linked : c.composeParams config.confidentiality query "UTF-8" = .ok (query', c'))
    (shown : c.paramsShown config.confidentiality query "UTF-8" = .ok (shownPairs, c''))
    (within : recordsOf handle middle = pre ++ shownPairs ++ post)
    (usable : Config.validStateName s.stateParameterName = true)
    (literal : Query.decodeComponent? s.stateParameterName = some s.stateParameterName)
    (apart : s.stateParameterName ∉ Query.decodedNames query)
    (pinned : ∀ n ∈ Query.decodedNames query, ∀ p, st.parameter? n = some p → p.editable = false)
    (notExempt : ∀ n ∈ Query.decodedNames query, config.isExempt st.action n = false)
    (onlyQuery : ∀ n p, st.parameter? n = some p → p.required = true → n ∈ Query.decodedNames query)
    (retained : ∀ id index nonce, token.body = .memory id index nonce →
      ∃ P ∈ (d.guard.cacheFor s st.scope).view, P.id = id)
    (method : Method) :
    ∃ r v, Request.ofUri? method
        (st.action ++ "?" ++ query' ++ "&" ++ s.stateParameterName ++ "=" ++ token.render) = some r ∧
      d.guard.validate s r = .passed v ∧ v.state = some st ∧
      ∀ n, v.parameters.find? n =
        if n ∈ Query.decodedNames query then some (Query.decodedValues query n) else none := by
  have requests : d.Requests trace := by simpa [ran] using requests_run config appKey entropy calls
  have sameConfig : d.guard.config = config := by
    have kept := run_config (init config appKey entropy) calls
    rw [ran] at kept
    exact kept
  have issued : Event.composer handle owner (.issued token st) ∈ trace := by simp [split]
  obtain ⟨recorded, -⟩ := requests.issued before middle after handle owner token st split quiet
  rw [sameConfig, within] at recorded
  have few : (pre ++ shownPairs ++ post).length ≤ 2 ^ 64 := by
    have := length_recordsOf_le handle middle
    have : middle.length ≤ trace.length := by simp [split]; omega
    rw [← within]
    omega
  obtain ⟨names, values⟩ := Composer.paramsShown_decoded shown
  rw [← names] at apart pinned notExempt onlyQuery
  -- the link reads back as the submission of the shown texts with the token
  have plain : '?' ∉ st.action.toList := by
    have actions := plainActions_run config appKey entropy calls
    rw [ran] at actions
    exact actions.issued handle owner token st issued
  obtain ⟨nameApart, nameUncut⟩ := Config.validStateName_apart usable
  have read := Composer.ofUri?_link linked shown plain nameApart nameUncut literal
    (verbatim_issued ran issued) method
  -- the submission passes the integrity check on the stretch of the query's values
  have integral : Validation.integrity config st st.action
      ((Recordings.submission method st.action shownPairs s.stateParameterName token.render).parameters.erase
        s.stateParameterName) = _ :=
    recorded.integrity_slice few rfl pinned notExempt onlyQuery
    (fun e member => Recordings.mem_submission_erase apart member)
    (fun n composed => Recordings.contains_submission_erase apart composed)
  refine ⟨_, _, read, Guard.validate_of_resolve (Recordings.find?_submission_state apart)
    (resolve_issued ran short issued opened retained)
    (by rw [sameConfig, Recordings.path_submission]; exact integral), rfl, fun n => ?_⟩
  rw [NameMap.find?_withValues, Recordings.find?_submission_erase apart, names]
  split
  · rw [values]
    rfl
  · rfl

/-- A guard under the default configuration, which keeps pages in memory and shows pinned values
as placeholders, in which bob opens a session and a composer, starts a page, opens a search form,
composes its page number, composes a query holding an encoded search text and a second page
number, closes the form and ends the page. -/
def searchRun : Deployment × List Event :=
  (init Config.default ⟨List.replicate 32 3, rfl⟩ {}).run
    [.openSession "bob", .openComposer 0, .composer 0 .startPage,
      .composer 0 (.beginRequest .get "/search"), .composer 0 (.compose "page" "1" false none),
      .composer 0 (.composeParams "q=a+b&page=2" "UTF-8"), .composer 0 .endRequest,
      .composer 0 .endPage]

/-- The state of the search form: both page numbers and the search text, pinned and required. -/
def searchState : State :=
  { index := 0, scope := .page, method := .get, action := "/search",
    parameters := ⟨[
      ("page", { name := "page", values := ["1", "2"], editable := false, required := true,
                 dataType := none }),
      ("q", { name := "q", values := ["a b"], editable := false, required := true,
              dataType := none })], by decide⟩ }

/-- The search form's composer once the first page number is composed. -/
def searchComposer : Composer :=
  { phase := .requestOpen,
    request := some
      { index := 0, scope := .page, method := .get, action := "/search",
        parameters := ⟨[("page", { name := "page", values := ["1"], editable := false, dataType := none })],
          List.pairwise_singleton _ _⟩ } }

/-- Bob's session after the run. -/
def searchSession : Session :=
  searchRun.1.sessions.get ⟨0, by decide +kernel⟩

/-- The query's second page number is shown as the placeholder of its position among both page
numbers, `~1`; following the link passes on the decoded search text and that page number. -/
theorem link_passes_validation_search :
    searchRun.2.length < 2 ^ 64 ∧
    searchRun.2 = [.composer 0 0 (.pageStarted 1)] ++ .composer 0 0 .requestOpened ::
      [.composer 0 0 (.recorded "page" "1" "~0"), .composer 0 0 (.recorded "q" "a b" "~0"),
        .composer 0 0 (.recorded "page" "2" "~1")] ++
      .composer 0 0 (.issued ⟨.page, .memory 1 0 "fca8f6d8cb55fa34"⟩ searchState) ::
      [.composer 0 0 (.stored ⟨1, "fca8f6d8cb55fa34", [searchState], []⟩)] ∧
    searchRun.1.sessions[0]? = some searchSession ∧
    ∃ c' c'', searchComposer.composeParams true "q=a+b&page=2" "UTF-8" = .ok ("q=~0&page=~1", c') ∧
      searchComposer.paramsShown true "q=a+b&page=2" "UTF-8" =
        .ok ([("q", "a b", "~0"), ("page", "2", "~1")], c'') ∧
      Config.validStateName searchSession.stateParameterName = true ∧
      Query.decodeComponent? searchSession.stateParameterName = some searchSession.stateParameterName ∧
      ∃ r v, Request.ofUri? .get (searchState.action ++ "?" ++ "q=~0&page=~1" ++ "&" ++
          searchSession.stateParameterName ++ "=" ++ StateToken.render ⟨.page, .memory 1 0 "fca8f6d8cb55fa34"⟩) =
          some r ∧
        searchRun.1.guard.validate searchSession r = .passed v ∧ v.state = some searchState ∧
        v.parameters.find? "page" = some ["2"] ∧ v.parameters.find? "q" = some ["a b"] := by
  have short : searchRun.2.length < 2 ^ 64 := by decide +kernel
  have split : searchRun.2 = [.composer 0 0 (.pageStarted 1)] ++ .composer 0 0 .requestOpened ::
      [.composer 0 0 (.recorded "page" "1" "~0"), .composer 0 0 (.recorded "q" "a b" "~0"),
        .composer 0 0 (.recorded "page" "2" "~1")] ++
      .composer 0 0 (.issued ⟨.page, .memory 1 0 "fca8f6d8cb55fa34"⟩ searchState) ::
      [.composer 0 0 (.stored ⟨1, "fca8f6d8cb55fa34", [searchState], []⟩)] := by decide +kernel
  have opened : searchRun.1.sessions[0]? = some searchSession := by
    rw [searchSession, List.get_eq_getElem]
    exact List.getElem?_eq_getElem _
  have named : searchSession.stateParameterName = "_STATE_" := by decide +kernel
  obtain ⟨c', linked⟩ := Except.exists_ok_of_map_fst (by decide +kernel :
    (searchComposer.composeParams true "q=a+b&page=2" "UTF-8").toOption.map (·.1) = some "q=~0&page=~1")
  obtain ⟨c'', shown⟩ := Except.exists_ok_of_map_fst (by decide +kernel :
    (searchComposer.paramsShown true "q=a+b&page=2" "UTF-8").toOption.map (·.1) =
      some [("q", "a b", "~0"), ("page", "2", "~1")])
  have usable : Config.validStateName searchSession.stateParameterName = true := by
    rw [named]
    decide +kernel
  have literal : Query.decodeComponent? searchSession.stateParameterName =
      some searchSession.stateParameterName := by
    rw [named]
    decide +kernel
  have names : Query.decodedNames "q=a+b&page=2" = ["q", "page"] := by decide +kernel
  -- every parameter of the search form is pinned and required
  have entry : ∀ n p, searchState.parameter? n = some p →
      n ∈ ["q", "page"] ∧ p.editable = false := by
    intro n p found
    simp only [State.parameter?, NameMap.find?, Option.map_eq_some_iff] at found
    obtain ⟨e, picked, rfl⟩ := found
    have member := List.mem_of_find?_eq_some picked
    have same := List.find?_some picked
    simp only [searchState, List.mem_cons, List.not_mem_nil, or_false] at member
    rcases member with rfl | rfl <;> simp_all
  have within : recordsOf 0 [.composer 0 0 (.recorded "page" "1" "~0"),
      .composer 0 0 (.recorded "q" "a b" "~0"), .composer 0 0 (.recorded "page" "2" "~1")] =
      [("page", "1", "~0")] ++ [("q", "a b", "~0"), ("page", "2", "~1")] ++ [] := rfl
  -- the run is named by its two parts, not computed
  have ran : searchRun = (searchRun.1, searchRun.2) := Prod.mk.eta.symm
  obtain ⟨r, v, read, passed, state, values⟩ := link_passes_validation ran short split
    (by decide +kernel) opened linked shown within usable literal
    (by rw [names, named]; decide +kernel)
    (fun n _ p found => (entry n p found).2)
    (fun n _ => by simp [Config.isExempt, Config.default, Config.withoutPatterns, Pattern.anyMatches])
    (fun n p found _ => by rw [names]; exact (entry n p found).1)
    (fun id index nonce body => by
      cases body
      have held : (searchRun.1.guard.cacheFor searchSession searchState.scope).view =
          [⟨1, "fca8f6d8cb55fa34", [searchState], []⟩] := by decide +kernel
      exact ⟨_, by rw [held]; exact List.mem_singleton_self _, rfl⟩) .get
  have pageValues : Query.decodedValues "q=a+b&page=2" "page" = ["2"] := by decide +kernel
  have textValues : Query.decodedValues "q=a+b&page=2" "q" = ["a b"] := by decide +kernel
  refine ⟨short, split, opened, c', c'', linked, shown, usable, literal, r, v, read, passed, state, ?_, ?_⟩
  · rw [values, names, if_pos (by simp), pageValues]
  · rw [values, names, if_pos (by simp), textValues]

end Deployment

end FormIntegrity
