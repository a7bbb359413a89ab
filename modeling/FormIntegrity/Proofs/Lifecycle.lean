import FormIntegrity.Proofs.InPlaceCalls
import FormIntegrity.Proofs.IntegrityCheck

/-!
# The composer's lifecycle

A composer moves through four phases: idle, a page started, a request open on the page, the page
sealed. `Lifecycle` is the diagram of those moves. It keeps the phase, the stack of open scopes, the
scopes of the states closed into the page so far and the scope and action of the open request, and
its `step` says which calls each phase allows and where they lead: a page starts only when none is
being composed, scopes open and close and requests open only on a started page with no open request,
values are composed only into an open request, and a page ends only with no scope open.

A composer driven from a fresh one by any calls, failing ones included, stays coherent (it holds a
draft exactly while a page is started, an open state exactly while a request is open, and numbers
the states of its draft by position), opens no scope while idle or sealed, and is seen by
`Composer.lifecycle` as the diagram driven by the same calls. So each state of its draft belongs to
the scope that was innermost when its request opened. On such a composer a call succeeds exactly
when the diagram allows it.
-/

namespace FormIntegrity

/-- Whether every raw name and value of a query percent-decodes. -/
def Query.decodes (query : String) : Bool :=
  (Query.pairs query).all fun pair =>
    (Query.decodeComponent? pair.1).isSome && (Query.decodeComponent? pair.2).isSome

/-- A state of the composer's lifecycle diagram. -/
structure Lifecycle where
  phase : Phase
  /-- The open scopes, innermost first. -/
  scopes : List Scope
  /-- The scopes of the states closed into the page, in order. -/
  drafted : List Scope
  /-- The scope and the action of the open request. -/
  opened : Option (Scope × String)
  deriving DecidableEq

namespace Lifecycle

variable {l l' : Lifecycle} {call : ComposerCall}

/-- Where every composer starts: idle, with nothing open and nothing drafted. -/
def start : Lifecycle := ⟨.idle, [], [], none⟩

/-- The scope a request opened now belongs to: the innermost open one, the page scope if none is. -/
def innermost (l : Lifecycle) : Scope :=
  l.scopes.head?.getD .page

/-- Opens a request for an action, unless the action holds a query. -/
def openFor (l : Lifecycle) (action : String) : Option Lifecycle :=
  if '?' ∈ action.toList then none
  else some { l with phase := .requestOpen, opened := some (l.innermost, action) }

/-- The diagram: where a call leads, or `none` when the phase does not allow it. -/
def step (l : Lifecycle) : ComposerCall → Option Lifecycle
  | .startPage =>
    match l.phase with
    | .idle | .sealed => some ⟨.pageStarted, [], [], none⟩
    | .pageStarted | .requestOpen => none
  | .startScope scope =>
    match l.phase with
    | .pageStarted => some { l with scopes := scope :: l.scopes }
    | _ => none
  | .endScope =>
    match l.phase, l.scopes with
    | .pageStarted, _ :: rest => some { l with scopes := rest }
    | _, _ => none
  | .beginRequest _ action =>
    match l.phase with
    | .pageStarted => l.openFor action
    | _ => none
  | .compose .. =>
    match l.phase with
    | .requestOpen => some l
    | _ => none
  | .composeFor action .. =>
    match l.phase, l.opened with
    | .requestOpen, some (_, target) => if target = action then some l else none
    | .pageStarted, _ => l.openFor action
    | _, _ => none
  | .composeParams query encoding =>
    match l.phase with
    | .requestOpen => if Composer.isUtf8 encoding && Query.decodes query then some l else none
    | _ => none
  | .addFlow _ =>
    match l.phase with
    | .pageStarted | .requestOpen => some l
    | _ => none
  | .endRequest =>
    match l.phase, l.opened with
    | .requestOpen, some (scope, _) =>
      some { l with phase := .pageStarted, drafted := l.drafted ++ [scope], opened := none }
    | _, _ => none
  | .endPage =>
    match l.phase, l.scopes with
    | .pageStarted, [] => some { l with phase := .sealed, drafted := [] }
    | _, _ => none

/-- Drives the diagram by calls; a call it does not allow leaves it where it is. -/
def drive (l : Lifecycle) : List ComposerCall → Lifecycle
  | [] => l
  | call :: rest => ((l.step call).getD l).drive rest

/-- No scope is open while no page is being composed. -/
def Unscoped (l : Lifecycle) : Prop :=
  l.phase = .idle ∨ l.phase = .sealed → l.scopes = []

theorem unscoped_start : start.Unscoped := fun _ => rfl

/-- Every move of the diagram lands on a started page, or seals the page with no scope open. -/
theorem step_lands (stepped : l.step call = some l') :
    l'.phase = .pageStarted ∨ l'.phase = .requestOpen ∨ l'.phase = .sealed ∧ l'.scopes = [] := by
  unfold step openFor at stepped
  cases call <;> (split at stepped <;> try split at stepped) <;> grind

theorem Unscoped.step (stepped : l.step call = some l') : l'.Unscoped := by
  intro idle
  rcases step_lands stepped with started | opened | ⟨-, unscoped⟩
  · rcases idle with idle | idle <;> simp_all
  · rcases idle with idle | idle <;> simp_all
  · exact unscoped

theorem Unscoped.drive (unscoped : l.Unscoped) (calls : List ComposerCall) : (l.drive calls).Unscoped := by
  induction calls generalizing l with
  | nil => exact unscoped
  | cons call rest ih =>
    apply ih
    cases stepped : l.step call with
    | none => exact unscoped
    | some l' => exact Unscoped.step stepped

end Lifecycle

namespace State

variable (st : State) (name value : String) (editable : Bool) (dataType : Option DataType)

@[simp] theorem record_scope : (st.record name value editable dataType).1.scope = st.scope := rfl

@[simp] theorem record_action : (st.record name value editable dataType).1.action = st.action := rfl

@[simp] theorem require_scope : (st.require name).scope = st.scope := rfl

@[simp] theorem require_action : (st.require name).action = st.action := rfl

end State

namespace Composer

variable {c c' : Composer} {g g' : Guard} {s s' : Session} {notes : List Note} {call : ComposerCall}

/-- What a composer shows of its lifecycle: its phase, its open scopes, the scopes of the states of
its draft and the scope and action of its open request. -/
def lifecycle (c : Composer) : Lifecycle where
  phase := c.phase
  scopes := c.scopes
  drafted := (c.page.map fun D => D.states.map (·.scope)).getD []
  opened := c.request.map fun st => (st.scope, st.action)

theorem lifecycle_empty : ({} : Composer).lifecycle = Lifecycle.start := rfl

/-- Drives a composer by calls made in place, each on a guard and a session; a call that fails
leaves the composer as it is. -/
def drive (c : Composer) : List (Guard × Session × ComposerCall) → Composer
  | [] => c
  | (g, s, call) :: rest => (InPlace.run call.inPlace ⟨c, g, s⟩).2.composer.drive rest

theorem Coherent.request_eq_none (coherent : c.Coherent) (closed : c.phase ≠ .requestOpen) :
    c.request = none :=
  Option.not_isSome_iff_eq_none.mp fun opened => closed (coherent.requesting.mp opened)

theorem decodePair_succeeds_iff (pair : String × String) :
    (∃ d, decodePair pair = .ok d) ↔
      ((Query.decodeComponent? pair.1).isSome && (Query.decodeComponent? pair.2).isSome) = true := by
  unfold decodePair
  cases Query.decodeComponent? pair.1 <;> cases Query.decodeComponent? pair.2 <;> simp [fail]

/-- The query pairs of a call are composed exactly when the encoding is UTF-8, every pair decodes
and a request is open. -/
theorem paramsShown_succeeds_iff (c : Composer) (confidential : Bool) (query encoding : String) :
    (∃ r, c.paramsShown confidential query encoding = .ok r) ↔
      (isUtf8 encoding && Query.decodes query) = true ∧ c.request.isSome := by
  rw [paramsShown_eq]
  by_cases utf8 : isUtf8 encoding = true
  · cases request : c.request with
    | none => simp [utf8, fail]
    | some st =>
      simp only [utf8, Bool.not_true, Option.isNone_some, Bool.false_eq_true, if_false, Bool.true_and,
        Option.isSome_some, and_true]
      have decoding : (∃ d, (Query.pairs query).mapM decodePair = .ok d) ↔ Query.decodes query = true := by
        simp only [List.mapM_except_succeeds_iff, decodePair_succeeds_iff, Query.decodes, List.all_eq_true]
      constructor
      · rintro ⟨r, ok⟩
        obtain ⟨decoded, decodedOk, -⟩ := Except.bind_eq_ok.mp ok
        exact decoding.mp ⟨decoded, decodedOk⟩
      · intro decodes
        obtain ⟨decoded, decodedOk⟩ := decoding.mpr decodes
        -- composing into the open request cannot fail, and records as `composePairs` does
        obtain ⟨pairs, c', composed⟩ := composePairs_ok_of_opened (c := c) confidential (by simp [request]) decoded
        have same := pairsShown_composer c confidential decoded
        rw [composed] at same
        cases shown : c.pairsShown confidential decoded with
        | error e => simp [shown, Except.map] at same
        | ok r => exact ⟨r, by rw [decodedOk]; exact shown⟩
  · simp [utf8, fail]

/-- Every call a coherent composer completes is a move of the diagram. -/
theorem Coherent.lifecycle_call (coherent : c.Coherent) (ok : c.call g s call = .ok (notes, c', g', s')) :
    c.lifecycle.step call = some c'.lifecycle := by
  cases call with
  | startPage =>
    obtain ⟨idle, -, rfl, -, -⟩ := call_startPage ok
    have closed : c.request = none := coherent.request_eq_none (by rcases idle with idle | idle <;> simp [idle])
    rcases idle with idle | idle <;> simp [Lifecycle.step, lifecycle, idle, closed]
  | startScope scope =>
    obtain ⟨started, -, rfl, -, -⟩ := call_startScope ok
    simp [Lifecycle.step, lifecycle, started]
  | endScope =>
    obtain ⟨started, -, ⟨scope, popped⟩, shape, -, -⟩ := call_endScope ok
    rw [shape]
    simp [Lifecycle.step, lifecycle, started, popped]
  | beginRequest method action =>
    obtain ⟨started, -, begun, -, -⟩ := call_beginRequest ok
    obtain ⟨-, noQuery, rfl⟩ := beginRequest_ok begun
    simp_all [Lifecycle.step, Lifecycle.openFor, lifecycle, Lifecycle.innermost, currentScope]
  | compose name value editable dataType =>
    obtain ⟨shown, composed, -, -, -⟩ := call_compose ok
    obtain ⟨st, opened, rfl, -⟩ := compose_ok composed
    have requesting : c.phase = .requestOpen := coherent.requesting.mp (by simp [opened])
    simp [Lifecycle.step, lifecycle, requesting, opened]
  | composeFor action name value editable dataType =>
    obtain ⟨shown, composed, -, -, -⟩ := call_composeFor ok
    have targeted := composeFor_ok composed
    cases opened : c.request with
    | some st =>
      -- the open request must have the action, and the value goes into it
      simp only [opened] at targeted
      obtain ⟨same, composed⟩ := targeted
      obtain ⟨st', opened', rfl, -⟩ := compose_ok composed
      have requesting : c.phase = .requestOpen := coherent.requesting.mp (by simp [opened])
      simp_all [Lifecycle.step, lifecycle]
    | none =>
      -- a new request for the action is opened first
      simp only [opened] at targeted
      obtain ⟨c₁, begun, composed⟩ := targeted
      obtain ⟨started, noQuery, rfl⟩ := beginRequest_ok begun
      obtain ⟨st, opened₁, rfl, -⟩ := compose_ok composed
      simp only [Option.some.injEq] at opened₁
      subst opened₁
      simp_all [Lifecycle.step, Lifecycle.openFor, lifecycle, Lifecycle.innermost, currentScope]
  | composeParams query encoding =>
    obtain ⟨records, composed, -, -, -⟩ := call_composeParams ok
    obtain ⟨allowed, -⟩ := (paramsShown_succeeds_iff c _ query encoding).mp ⟨_, composed⟩
    obtain ⟨st, params, opened, rfl⟩ := paramsShown_ok composed
    have requesting : c.phase = .requestOpen := coherent.requesting.mp (by simp [opened])
    simp [Lifecycle.step, lifecycle, requesting, opened, allowed]
  | addFlow flow =>
    obtain ⟨started, -, ⟨D, drafting, rfl⟩, -, -⟩ := call_addFlow ok
    rcases started with started | started <;> simp [Lifecycle.step, lifecycle, started, drafting]
  | endRequest =>
    obtain ⟨st, D, token, opened, drafting, -, rfl, -⟩ := call_endRequest ok
    have requesting : c.phase = .requestOpen := coherent.requesting.mp (by simp [opened])
    simp [Lifecycle.step, lifecycle, requesting, opened, drafting]
  | endPage =>
    obtain ⟨started, unscoped, -, rfl, -⟩ := call_endPage ok
    have closed : c.request = none := coherent.request_eq_none (by simp [started])
    simp [Lifecycle.step, lifecycle, started, unscoped, closed]

theorem map_succeeds_iff {ε α β : Type} {x : Except ε α} {f : α → β} :
    (∃ b, x.map f = .ok b) ↔ ∃ a, x = .ok a := by
  cases x <;> simp [Except.map]

/-! Each call of the composer succeeds exactly when its checks pass. -/

theorem requirePage_succeeds_iff (operation : String) :
    (∃ u, c.requirePage operation = .ok u) ↔ c.phase = .pageStarted := by
  unfold requirePage
  cases c.phase <;> simp [fail]

theorem startPage_succeeds_iff : (∃ r, c.startPage g = .ok r) ↔ c.phase = .idle ∨ c.phase = .sealed := by
  unfold startPage
  cases c.phase <;> simp [fail]

theorem startScope_succeeds_iff (scope : Scope) :
    (∃ c', c.startScope scope = .ok c') ↔ c.phase = .pageStarted := by
  simp only [startScope, Except.bind_eq_ok, Except.pure_eq_ok, ← requirePage_succeeds_iff "start_scope"]
  constructor
  · rintro ⟨_, u, ok, -⟩
    exact ⟨u, ok⟩
  · rintro ⟨u, ok⟩
    exact ⟨_, u, ok, rfl⟩

theorem endScope_succeeds_iff : (∃ r, c.endScope = .ok r) ↔ c.phase = .pageStarted ∧ c.scopes ≠ [] := by
  simp only [endScope, Except.bind_eq_ok]
  cases c.scopes <;> simp [requirePage_succeeds_iff, fail]

theorem beginRequest_succeeds_iff (method : Method) (action : String) :
    (∃ c', c.beginRequest method action = .ok c') ↔ c.phase = .pageStarted ∧ '?' ∉ action.toList := by
  simp only [beginRequest, Except.bind_eq_ok]
  by_cases query : '?' ∈ action.toList <;> simp [query, requirePage_succeeds_iff, fail]

theorem compose_succeeds_iff (confidential : Bool) (name value : String) (editable : Bool)
    (dataType : Option DataType) :
    (∃ r, c.compose confidential name value editable dataType = .ok r) ↔ c.request.isSome := by
  unfold compose
  cases c.request <;> simp [fail]

theorem composeFor_succeeds_iff (confidential : Bool) (action name value : String) (editable : Bool)
    (dataType : Option DataType) :
    (∃ r, c.composeFor confidential action name value editable dataType = .ok r) ↔
      (∃ st, c.request = some st ∧ st.action = action) ∨
        c.request = none ∧ c.phase = .pageStarted ∧ '?' ∉ action.toList := by
  unfold composeFor
  cases opened : c.request with
  | some st =>
    by_cases same : st.action = action
    · simp only [same, ne_eq, not_true_eq_false, if_false, compose_succeeds_iff, opened]
      simpa using same
    · simp [same, fail]
  | none =>
    -- the request that `beginRequest` opens takes any value
    simp only [Except.bind_eq_ok]
    constructor
    · rintro ⟨r, c₁, begun, -⟩
      exact .inr ⟨by simp, (beginRequest_succeeds_iff _ _).mp ⟨c₁, begun⟩⟩
    · rintro (⟨st, absurd, -⟩ | ⟨-, allowed⟩)
      · cases absurd
      · obtain ⟨c₁, begun⟩ := (beginRequest_succeeds_iff .post action).mpr allowed
        obtain ⟨-, -, rfl⟩ := beginRequest_ok begun
        obtain ⟨r, composed⟩ := (compose_succeeds_iff (c := { c with
          request := some { index := (c.page.map (·.states.length)).getD 0, scope := c.currentScope,
                            method := .post, action },
          phase := .requestOpen }) confidential name value editable dataType).mpr rfl
        exact ⟨r, _, begun, composed⟩

theorem addFlow_succeeds_iff (flow : String) :
    (∃ c', c.addFlow flow = .ok c') ↔ (c.phase = .pageStarted ∨ c.phase = .requestOpen) ∧ c.page.isSome := by
  unfold addFlow
  cases c.phase <;> cases c.page <;> simp [fail]

theorem endRequest_succeeds_iff : (∃ r, c.endRequest g s = .ok r) ↔ c.request.isSome ∧ c.page.isSome := by
  unfold endRequest
  cases c.request <;> cases c.page <;> simp [fail]

theorem endPage_succeeds_iff :
    (∃ r, c.endPage g s = .ok r) ↔ c.phase = .pageStarted ∧ c.scopes = [] ∧ c.page.isSome := by
  simp only [endPage, Except.bind_eq_ok]
  cases c.page with
  | none => cases c.scopes <;> simp [fail]
  | some D =>
    -- the page ends whether it is stored or not
    by_cases kept : D.states = [] ∨ g.config.strategy = .cipher <;>
      cases c.scopes <;> simp [requirePage_succeeds_iff, fail, kept]

/-- On a coherent composer, a call succeeds exactly when the diagram allows it. -/
theorem Coherent.call_succeeds_iff (coherent : c.Coherent) (g : Guard) (s : Session) (call : ComposerCall) :
    (∃ r, c.call g s call = .ok r) ↔ (c.lifecycle.step call).isSome := by
  have drafting := coherent.drafting
  have requesting := coherent.requesting
  cases call <;> rw [Composer.call, map_succeeds_iff]
  case startPage =>
    rw [startPage_succeeds_iff]
    cases phase : c.phase <;> simp [Lifecycle.step, lifecycle, phase]
  case startScope scope =>
    rw [startScope_succeeds_iff]
    cases phase : c.phase <;> simp [Lifecycle.step, lifecycle, phase]
  case endScope =>
    rw [endScope_succeeds_iff]
    cases phase : c.phase <;> cases scopes : c.scopes <;> simp [Lifecycle.step, lifecycle, phase, scopes]
  case beginRequest method action =>
    rw [beginRequest_succeeds_iff]
    cases phase : c.phase <;> simp [Lifecycle.step, lifecycle, Lifecycle.openFor, phase]
  case compose name value editable dataType =>
    rw [compose_succeeds_iff, requesting]
    cases phase : c.phase <;> simp [Lifecycle.step, lifecycle, phase]
  case composeFor action name value editable dataType =>
    rw [composeFor_succeeds_iff]
    cases opened : c.request with
    | some st =>
      -- an open request must already have the action
      have requested : c.phase = .requestOpen := requesting.mp (by simp [opened])
      simp [Lifecycle.step, lifecycle, requested, opened]
    | none =>
      -- with no open request the call opens one, as `beginRequest` does
      have closed : c.phase ≠ .requestOpen := fun requested => by simpa [opened] using requesting.mpr requested
      cases phase : c.phase <;> simp_all [Lifecycle.step, lifecycle, Lifecycle.openFor]
  case composeParams query encoding =>
    rw [paramsShown_succeeds_iff, requesting]
    cases phase : c.phase <;> simp [Lifecycle.step, lifecycle, phase]
  case addFlow flow =>
    rw [addFlow_succeeds_iff, drafting]
    cases phase : c.phase <;> simp [Lifecycle.step, lifecycle, phase]
  case endRequest =>
    rw [endRequest_succeeds_iff, drafting, requesting]
    cases phase : c.phase <;> cases opened : c.request <;> simp_all [Lifecycle.step, lifecycle]
  case endPage =>
    rw [endPage_succeeds_iff, drafting]
    cases phase : c.phase <;> cases scopes : c.scopes <;> simp [Lifecycle.step, lifecycle, phase, scopes]

/-- A call made in place on a coherent composer leaves it coherent and moves it as the diagram
moves: where the diagram leads when the call succeeds, nowhere when it fails. -/
theorem Coherent.inPlace (coherent : c.Coherent) (g : Guard) (s : Session) (call : ComposerCall) :
    (InPlace.run call.inPlace ⟨c, g, s⟩).2.composer.Coherent ∧
      (InPlace.run call.inPlace ⟨c, g, s⟩).2.composer.lifecycle = (c.lifecycle.step call).getD c.lifecycle := by
  rw [ComposerCall.run_inPlace]
  cases result : c.call g s call with
  | ok r =>
    obtain ⟨notes, c', g', s'⟩ := r
    simp only [Except.map, InPlace.settle_ok, coherent.lifecycle_call result, Option.getD_some]
    exact ⟨coherent.call result, trivial⟩
  | error e =>
    -- the diagram refuses the call too, so neither moves
    have refused : c.lifecycle.step call = none := by
      cases allowed : c.lifecycle.step call with
      | none => rfl
      | some l =>
        obtain ⟨r, ok⟩ := (coherent.call_succeeds_iff g s call).mpr (by simp [allowed])
        simp [result] at ok
    simp only [Except.map, InPlace.settle_error, refused, Option.getD_none]
    exact ⟨coherent, trivial⟩

theorem Coherent.inPlace_succeeds_iff (coherent : c.Coherent) (g : Guard) (s : Session)
    (call : ComposerCall) :
    (InPlace.run call.inPlace ⟨c, g, s⟩).1 = .ok () ↔ (c.lifecycle.step call).isSome := by
  rw [ComposerCall.run_inPlace, ← coherent.call_succeeds_iff g s call]
  cases c.call g s call <;> simp [Except.map]

/-- Driving a coherent composer keeps it coherent and drives the diagram by the same calls. -/
theorem Coherent.drive (coherent : c.Coherent) (steps : List (Guard × Session × ComposerCall)) :
    (c.drive steps).Coherent ∧ (c.drive steps).lifecycle = c.lifecycle.drive (steps.map (·.2.2)) := by
  induction steps generalizing c with
  | nil => exact ⟨coherent, rfl⟩
  | cons step rest ih =>
    obtain ⟨g, s, call⟩ := step
    obtain ⟨coherent', moved⟩ := coherent.inPlace g s call
    obtain ⟨coherentRest, drivenRest⟩ := ih coherent'
    refine ⟨coherentRest, ?_⟩
    rw [drive, drivenRest, moved]
    rfl

/-- A composer driven from a fresh one by any calls, failing ones included, is coherent, has no
scope open while idle or sealed, and is where the lifecycle diagram driven by the same calls is:
in the same phase, with the same open scopes, with the states of its draft in the scopes that were
innermost when their requests opened, and with its open request for the action it was opened for.
A further call on it succeeds exactly when the diagram allows that call. -/
theorem composer_follows_lifecycle (steps : List (Guard × Session × ComposerCall)) :
    let c := ({} : Composer).drive steps
    c.Coherent ∧ (c.phase = .idle ∨ c.phase = .sealed → c.scopes = []) ∧
      c.lifecycle = Lifecycle.start.drive (steps.map (·.2.2)) ∧
      ∀ (g : Guard) (s : Session) (call : ComposerCall),
        (InPlace.run call.inPlace ⟨c, g, s⟩).1 = .ok () ↔ (c.lifecycle.step call).isSome := by
  intro c
  obtain ⟨coherent, driven⟩ := coherent_empty.drive steps
  rw [lifecycle_empty] at driven
  have unscoped : c.lifecycle.Unscoped := driven ▸ Lifecycle.unscoped_start.drive _
  exact ⟨coherent, unscoped, driven, coherent.inPlace_succeeds_iff⟩

end Composer

end FormIntegrity
