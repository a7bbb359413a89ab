import FormIntegrity.Composer.InPlace
import FormIntegrity.Proofs.Calls

/-!
# Calls run in place do what the composer's functions say

Each composer call run in place on a composer, its guard and its session ends as the composer's
function of the same name says: on success with the composer, guard and session that function
returns, and on failure with the same error and all three as they were. So a failed call changes
nothing: not the composer's phase, page, scopes or open request, not a cache, and not the guard's
page counter.
-/

namespace FormIntegrity

section ExceptSteps

variable {α : Type}

@[simp] theorem except_pure {ε : Type} (a : α) : (pure a : Except ε α) = .ok a := rfl

@[simp] theorem except_ok_bind {ε β : Type} (a : α) (f : α → Except ε β) : (Except.ok a >>= f) = f a := rfl

@[simp] theorem except_error_bind {ε β : Type} (e : ε) (f : α → Except ε β) :
    (Except.error e >>= f) = .error e := rfl

end ExceptSteps

namespace Composer

/-- Composing pairs into an open request target cannot fail. -/
theorem composePairs_ok_of_opened {c : Composer} (confidential : Bool) (opened : c.request.isSome)
    (decoded : List (String × String × String × String)) :
    ∃ pairs c', c.composePairs confidential decoded = .ok (pairs, c') := by
  induction decoded generalizing c with
  | nil => exact ⟨[], c, rfl⟩
  | cons pair rest ih =>
    obtain ⟨rawName, rawValue, name, value⟩ := pair
    obtain ⟨st, opened⟩ := Option.isSome_iff_exists.mp opened
    obtain ⟨pairs, c', composed⟩ :=
      ih (c := { c with request := some ((st.record name value false none).1.require name) }) rfl
    simp [composePairs, compose, opened, composed]

/-- Recording query pairs with the texts shown for them leaves the composer that composing them
leaves. -/
theorem pairsShown_composer (c : Composer) (confidential : Bool)
    (decoded : List (String × String × String × String)) :
    (c.pairsShown confidential decoded).map (·.2) = (c.composePairs confidential decoded).map (·.2) := by
  induction decoded generalizing c with
  | nil => rfl
  | cons pair rest ih =>
    obtain ⟨rawName, rawValue, name, value⟩ := pair
    simp only [pairsShown, composePairs]
    cases c.compose confidential name value false none with
    | error e => rfl
    | ok composed =>
      obtain ⟨shown, c₁⟩ := composed
      have rest_same := ih { c₁ with request := c₁.request.map (State.require · name) }
      simp only [except_ok_bind]
      revert rest_same
      cases pairsShown { c₁ with request := c₁.request.map (State.require · name) } confidential rest <;>
        cases composePairs { c₁ with request := c₁.request.map (State.require · name) } confidential rest <;>
        simp [Except.map]

/-- Decodes the raw name and value of a query pair, as composing query parameters does. -/
def decodePair (pair : String × String) : Except CompositionError (String × String × String × String) :=
  match Query.decodeComponent? pair.1, Query.decodeComponent? pair.2 with
  | some name, some value => pure (pair.1, pair.2, name, value)
  | _, _ => fail .malformedQuery ("cannot decode '" ++ pair.1 ++ "=" ++ pair.2 ++ "'")

theorem composeParams_eq (c : Composer) (confidential : Bool) (query encoding : String) :
    c.composeParams confidential query encoding =
      if !isUtf8 encoding then fail .unsupportedEncoding encoding
      else if c.request.isNone then fail .noOpenRequest "compose_params"
      else (Query.pairs query).mapM decodePair >>= fun decoded =>
        (c.composePairs confidential decoded).map fun (pairs, c) => ("&".intercalate pairs, c) := rfl

theorem paramsShown_eq (c : Composer) (confidential : Bool) (query encoding : String) :
    c.paramsShown confidential query encoding =
      if !isUtf8 encoding then fail .unsupportedEncoding encoding
      else if c.request.isNone then fail .noOpenRequest "compose_params"
      else (Query.pairs query).mapM decodePair >>= fun decoded => c.pairsShown confidential decoded := rfl

/-- Composing the pairs of a query with the texts shown for them leaves the composer that
`composeParams` leaves. -/
theorem paramsShown_composer (c : Composer) (confidential : Bool) (query encoding : String) :
    (c.paramsShown confidential query encoding).map (·.2) =
      (c.composeParams confidential query encoding).map (·.2) := by
  rw [paramsShown_eq, composeParams_eq]
  by_cases utf8 : isUtf8 encoding = true
  · cases request : c.request with
    | none => simp [utf8, fail, Except.map]
    | some st =>
      simp only [utf8, Bool.not_true, Option.isNone_some, Bool.false_eq_true, if_false]
      cases (Query.pairs query).mapM decodePair with
      | error e => rfl
      | ok decoded =>
        have same := pairsShown_composer c confidential decoded
        revert same
        simp only [except_ok_bind]
        cases c.pairsShown confidential decoded <;> cases c.composePairs confidential decoded <;>
          simp [Except.map]
  · simp [utf8, fail, Except.map]

end Composer

namespace InPlace

variable {α : Type}

/-- What the answer of a composer function leaves in place: on success what it returns, on failure
the composer, guard and session as they were. -/
def settle (w : Composing) : Except CompositionError (α × Composing) → Except CompositionError α × Composing
  | .ok (a, w') => (.ok a, w')
  | .error e => (.error e, w)

@[simp] theorem settle_ok (w w' : Composing) (a : α) : settle w (.ok (a, w')) = (.ok a, w') := rfl

@[simp] theorem settle_error (w : Composing) (e : CompositionError) :
    settle w (.error e : Except CompositionError (α × Composing)) = (.error e, w) := rfl

/-- A call whose answer is dropped does what the call does. -/
theorem run_discard (m : InPlace α) (w : Composing) :
    run (discard m) w = match run m w with
      | (.ok _, w') => (.ok (), w')
      | (.error e, w') => (.error e, w') :=
  run_map _ m w

theorem run_requirePage (operation : String) (w : Composing) :
    run (requirePage operation) w = settle w ((w.composer.requirePage operation).map fun u => (u, w)) := by
  unfold requirePage Composer.requirePage
  cases phase : w.composer.phase <;> simp [run_bind, phase, Composer.fail, Except.map]

theorem run_startPage (w : Composing) :
    run startPage w = settle w ((w.composer.startPage w.guard).map fun (c, g) =>
      ((), { w with composer := c, guard := g })) := by
  unfold startPage Composer.startPage
  cases phase : w.composer.phase <;>
    simp [run_bind, phase, Composer.fail, Except.map, takePageId, takeNonce]

theorem run_startScope (scope : Scope) (w : Composing) :
    run (startScope scope) w = settle w ((w.composer.startScope scope).map fun c =>
      ((), { w with composer := c })) := by
  unfold startScope Composer.startScope
  cases phase : w.composer.phase <;>
    simp [run_bind, requirePage, Composer.requirePage, phase, Composer.fail, Except.map]

theorem run_endScope (w : Composing) :
    run endScope w = settle w (w.composer.endScope.map fun (scope, c) =>
      (scope, { w with composer := c })) := by
  unfold endScope Composer.endScope
  cases phase : w.composer.phase <;> cases scopes : w.composer.scopes <;>
    simp [run_bind, run_map, requirePage, Composer.requirePage, phase, scopes, Composer.fail, Except.map]

theorem run_beginRequest (method : Method) (action : String) (w : Composing) :
    run (beginRequest method action) w = settle w ((w.composer.beginRequest method action).map fun c =>
      ((), { w with composer := c })) := by
  unfold beginRequest Composer.beginRequest
  cases phase : w.composer.phase <;> by_cases query : '?' ∈ action.toList <;>
    simp [run_bind, requirePage, Composer.requirePage, phase, query, Composer.fail, Except.map]

theorem run_compose (name value : String) (editable : Bool) (dataType : Option DataType) (w : Composing) :
    run (compose name value editable dataType) w =
      settle w ((w.composer.compose w.guard.config.confidentiality name value editable dataType).map
        fun (shown, c) => (shown, { w with composer := c })) := by
  unfold compose Composer.compose
  cases request : w.composer.request <;>
    simp [run_bind, run_map, request, Composer.fail, Except.map]

theorem run_addFlow (flow : String) (w : Composing) :
    run (addFlow flow) w = settle w ((w.composer.addFlow flow).map fun c =>
      ((), { w with composer := c })) := by
  unfold addFlow Composer.addFlow
  cases phase : w.composer.phase <;> cases page : w.composer.page <;>
    simp [run_bind, phase, page, Composer.fail, Except.map]

theorem run_composeFor (action name value : String) (editable : Bool) (dataType : Option DataType)
    (w : Composing) :
    run (composeFor action name value editable dataType) w =
      settle w ((w.composer.composeFor w.guard.config.confidentiality action name value editable dataType).map
        fun (shown, c) => (shown, { w with composer := c })) := by
  unfold composeFor Composer.composeFor
  cases request : w.composer.request with
  | some st =>
    by_cases same : st.action = action
    · simp [run_bind, request, same, run_compose]
    · simp [run_bind, request, same, Composer.fail, Except.map]
  | none =>
    -- a new target is opened first; composing into it cannot fail
    simp only [run_bind, run_composer, request]
    rw [run_beginRequest]
    cases begun : w.composer.beginRequest .post action with
    | error e => simp [Except.map]
    | ok c =>
      obtain ⟨-, -, rfl⟩ := Composer.beginRequest_ok begun
      simp [Except.map, run_compose, Composer.compose]

theorem run_endRequest (w : Composing) :
    run endRequest w = settle w ((w.composer.endRequest w.guard w.session).map fun (token, c, g) =>
      (token, { w with composer := c, guard := g })) := by
  unfold endRequest Composer.endRequest
  cases request : w.composer.request <;> cases page : w.composer.page <;>
    cases strategy : w.guard.config.strategy <;>
    simp [run_bind, run_map, request, page, strategy, Composer.fail, Except.map, draw, Guard.draw]

theorem run_endPage (w : Composing) :
    run endPage w = settle w ((w.composer.endPage w.guard w.session).map fun (c, g, s) =>
      ((), ⟨c, g, s⟩)) := by
  obtain ⟨⟨phase, page, scopes, request⟩, g, s⟩ := w
  unfold endPage Composer.endPage
  cases phase <;> cases scopes <;> cases page <;>
    simp [run_bind, requirePage, Composer.requirePage, Composer.fail, Except.map]
  -- what is left: a page whose draft has states is sealed and put into the caches of its scopes
  rename_i draft
  by_cases kept : draft.states = [] ∨ g.config.strategy = .cipher
  · have unstored : ¬(¬draft.states = [] ∧ ¬g.config.strategy = .cipher) := by tauto
    simp [kept, unstored]
  · simp only [not_or] at kept
    -- the loop puts the page into the cache of each of the three scopes its states use
    cases Page.hasScope ⟨draft.id, draft.nonce, draft.states, draft.flows⟩ .page <;>
      cases Page.hasScope ⟨draft.id, draft.nonce, draft.states, draft.flows⟩ .userSession <;>
      cases Page.hasScope ⟨draft.id, draft.nonce, draft.states, draft.flows⟩ .application <;>
      simp [kept, run_bind, putPage]

/-- A loop of calls that each read and write nothing reads and writes nothing, and fails with the
first error of a call. -/
theorem run_mapM_stateless {β : Type} {f : α → InPlace β} {g : α → Except CompositionError β}
    (stateless : ∀ a w, run (f a) w = (g a, w)) (l : List α) (w : Composing) :
    run (l.mapM f) w = (l.mapM g, w) := by
  induction l generalizing w with
  | nil => rfl
  | cons a rest ih =>
    simp only [List.mapM_cons, run_bind, stateless]
    cases g a with
    | error e => rfl
    | ok b =>
      simp only [ih]
      cases rest.mapM g <;> rfl

/-- Decoding the pairs of a query reads and writes nothing. -/
theorem run_decodePairs (pairs : List (String × String)) (w : Composing) :
    run (pairs.mapM fun pair => decodePair pair.1 pair.2) w = (pairs.mapM Composer.decodePair, w) := by
  refine run_mapM_stateless (fun ⟨rawName, rawValue⟩ w => ?_) pairs w
  unfold decodePair Composer.decodePair
  cases Query.decodeComponent? rawName <;> cases Query.decodeComponent? rawValue <;>
    simp [Composer.fail]

theorem run_composePair (rawName rawValue name value : String) (w : Composing) :
    run (composePair rawName rawValue name value) w =
      settle w ((w.composer.compose w.guard.config.confidentiality name value false none).map
        fun (shown, c) => (if shown == value then rawName ++ "=" ++ rawValue else rawName ++ "=" ++ shown,
          { w with composer := { c with request := c.request.map (State.require · name) } })) := by
  unfold composePair
  rw [run_bind, run_compose]
  cases w.composer.compose w.guard.config.confidentiality name value false none <;>
    simp [run_map, Except.map]

/-- Composing decoded pairs into an open request target does what `composePairs` says; it cannot
fail, as every pair is composed into the target the previous one left open. -/
theorem run_composePairs {composeOne : String × String × String × String → InPlace String}
    (composes : ∀ p w, run (composeOne p) w = run (composePair p.1 p.2.1 p.2.2.1 p.2.2.2) w)
    (decoded : List (String × String × String × String)) (w : Composing)
    (opened : w.composer.request.isSome) :
    run (decoded.mapM composeOne) w =
      settle w ((w.composer.composePairs w.guard.config.confidentiality decoded).map fun (pairs, c) =>
        (pairs, { w with composer := c })) := by
  induction decoded generalizing w with
  | nil => rfl
  | cons pair rest ih =>
    obtain ⟨rawName, rawValue, name, value⟩ := pair
    obtain ⟨st, opened⟩ := Option.isSome_iff_exists.mp opened
    rw [List.mapM_cons, run_bind, composes, run_composePair]
    simp only [Composer.compose, opened, except_pure, Except.map, settle_ok, run_bind]
    rw [ih _ (by simp)]
    -- the rest is composed into the target the first pair left open, which cannot fail
    obtain ⟨pairs, c', composed⟩ := Composer.composePairs_ok_of_opened w.guard.config.confidentiality
      (c := { w.composer with request := some ((st.record name value false none).1.require name) }) rfl rest
    simp only [Composer.composePairs, Composer.compose, opened, except_pure, except_ok_bind, Option.map_some,
      composed]
    rfl

theorem composeParams_eq (query encoding : String) :
    composeParams query encoding = (do
      if !Composer.isUtf8 encoding then fail .unsupportedEncoding encoding
      if (← composer).request.isNone then fail .noOpenRequest "compose_params"
      let decoded ← (Query.pairs query).mapM fun pair => decodePair pair.1 pair.2
      let rewritten ← decoded.mapM fun p => composePair p.1 p.2.1 p.2.2.1 p.2.2.2
      pure ("&".intercalate rewritten)) := rfl

theorem run_composeParams (query encoding : String) (w : Composing) :
    run (composeParams query encoding) w =
      settle w ((w.composer.composeParams w.guard.config.confidentiality query encoding).map
        fun (shown, c) => (shown, { w with composer := c })) := by
  rw [composeParams_eq, Composer.composeParams_eq]
  by_cases utf8 : Composer.isUtf8 encoding = true
  · cases request : w.composer.request with
    | none => simp [run_bind, utf8, request, Composer.fail, Except.map]
    | some st =>
      simp only [run_bind, utf8, request, Bool.not_true, Option.isNone_some, Bool.false_eq_true, if_false,
        run_composer, run_pure, run_decodePairs]
      cases (Query.pairs query).mapM Composer.decodePair with
      | error e => rfl
      | ok decoded =>
        have opened : w.composer.request.isSome := by simp [request]
        obtain ⟨pairs, c', composed⟩ :=
          Composer.composePairs_ok_of_opened w.guard.config.confidentiality opened decoded
        simp only [run_composePairs (fun _ _ => rfl) decoded w opened, composed, except_ok_bind]
        rfl
  · simp [run_bind, utf8, Composer.fail, Except.map]

end InPlace

namespace ComposerCall

/-- Makes a composer call in place; its answer is dropped. -/
def inPlace : ComposerCall → InPlace Unit
  | .startPage => InPlace.startPage
  | .startScope scope => InPlace.startScope scope
  | .endScope => discard InPlace.endScope
  | .beginRequest method action => InPlace.beginRequest method action
  | .compose name value editable dataType => discard (InPlace.compose name value editable dataType)
  | .composeFor action name value editable dataType =>
    discard (InPlace.composeFor action name value editable dataType)
  | .composeParams query encoding => discard (InPlace.composeParams query encoding)
  | .addFlow flow => InPlace.addFlow flow
  | .endRequest => discard InPlace.endRequest
  | .endPage => InPlace.endPage

open InPlace in
/-- A composer call made in place ends as `Composer.call` says: on success with the composer, guard
and session it returns, on failure with all three as they were. -/
theorem run_inPlace (call : ComposerCall) (w : Composing) :
    run call.inPlace w =
      settle w ((w.composer.call w.guard w.session call).map fun (_, c, g, s) => ((), ⟨c, g, s⟩)) := by
  cases call with
  | startPage =>
    rw [inPlace, run_startPage, Composer.call]
    cases w.composer.startPage w.guard <;> rfl
  | startScope scope =>
    rw [inPlace, run_startScope, Composer.call]
    cases w.composer.startScope scope <;> rfl
  | endScope =>
    rw [inPlace, run_discard, run_endScope, Composer.call]
    cases w.composer.endScope <;> rfl
  | beginRequest method action =>
    rw [inPlace, run_beginRequest, Composer.call]
    cases w.composer.beginRequest method action <;> rfl
  | compose name value editable dataType =>
    rw [inPlace, run_discard, run_compose, Composer.call]
    cases w.composer.compose w.guard.config.confidentiality name value editable dataType <;> rfl
  | composeFor action name value editable dataType =>
    rw [inPlace, run_discard, run_composeFor, Composer.call]
    cases w.composer.composeFor w.guard.config.confidentiality action name value editable dataType <;> rfl
  | composeParams query encoding =>
    rw [inPlace, run_discard, run_composeParams, Composer.call]
    have same := (w.composer.paramsShown_composer w.guard.config.confidentiality query encoding).symm
    revert same
    cases w.composer.paramsShown w.guard.config.confidentiality query encoding <;>
      cases w.composer.composeParams w.guard.config.confidentiality query encoding <;>
      simp [Except.map]
  | addFlow flow =>
    rw [inPlace, run_addFlow, Composer.call]
    cases w.composer.addFlow flow <;> rfl
  | endRequest =>
    rw [inPlace, run_discard, run_endRequest, Composer.call]
    cases w.composer.endRequest w.guard w.session <;> rfl
  | endPage =>
    rw [inPlace, run_endPage, Composer.call]
    cases w.composer.endPage w.guard w.session <;> rfl

/-- A composer call fails in place exactly when `Composer.call` fails, with its error, and then the
composer, its guard and its session are exactly as they were: no phase, draft, scope or open request
changed, no cache written, no page id or entropy taken. -/
theorem failed_call_changes_nothing (call : ComposerCall) (w w' : Composing) (e : CompositionError) :
    InPlace.run call.inPlace w = (.error e, w') ↔
      w.composer.call w.guard w.session call = .error e ∧ w' = w := by
  rw [run_inPlace]
  cases w.composer.call w.guard w.session call with
  | error e' =>
    simp only [Except.map, InPlace.settle_error, Prod.mk.injEq, Except.error.injEq]
    exact ⟨fun ⟨same, back⟩ => ⟨same, back.symm⟩, fun ⟨same, back⟩ => ⟨same, back.symm⟩⟩
  | ok r => simp [Except.map]

end ComposerCall

end FormIntegrity
