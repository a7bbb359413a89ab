import FormIntegrity.Composer
import FormIntegrity.Validation

/-!
# Deployments: a guard driven by its users

A deployment is a guard with the sessions opened on it and the composers opened on those sessions.
Its users make calls in any order: open a session or a composer, drive a composer, validate a
request, invalidate a session, end a flow. Sessions and composers are named by their position
among those opened, and a call that names none does nothing.

A run makes calls one after another and keeps a trace of what they handed out or stored: a page
started with its id, a request opened, a value recorded with the text shown for it, a token issued
for a state, a page stored in the caches, a session invalidated, a flow ended. A call that fails
changes nothing and leaves nothing in the trace. Claims about the lifetime and the authenticity of
tokens are claims about every run and its trace.
-/

namespace FormIntegrity

/-- A call on a composer. -/
inductive ComposerCall where
  | startPage
  | startScope (scope : Scope)
  | endScope
  | beginRequest (method : Method) (action : String)
  | compose (name value : String) (editable : Bool) (dataType : Option DataType)
  | composeFor (action name value : String) (editable : Bool) (dataType : Option DataType)
  | composeParams (query encoding : String)
  | addFlow (flow : String)
  | endRequest
  | endPage

/-- What a composer call leaves in the trace. -/
inductive Note where
  /-- A page was started with this id. -/
  | pageStarted (id : UInt64)
  /-- A request target was opened. -/
  | requestOpened
  /-- A value of a parameter was recorded, and the page shows this text for it. -/
  | recorded (name value shown : String)
  /-- The open request target was closed into this state, named by this token. -/
  | issued (token : StateToken) (state : State)
  /-- The page was stored in the caches of the scopes its states use. -/
  | stored (page : Page)

namespace Composer

/-- Records decoded query pairs as `composePairs` does, and also returns each recorded name and
value with the text shown for it. -/
def pairsShown (c : Composer) (confidential : Bool) :
    List (String × String × String × String) →
      Except CompositionError (List (String × String × String) × Composer)
  | [] => pure ([], c)
  | (_, _, name, value) :: rest => do
    let (shown, c) ← c.compose confidential name value false none
    let c : Composer := { c with request := c.request.map (State.require · name) }
    let (records, c) ← c.pairsShown confidential rest
    pure ((name, value, shown) :: records, c)

/-- Composes the pairs of a query as `composeParams` does, returning each recorded name and value
with the text shown for it. -/
def paramsShown (c : Composer) (confidential : Bool) (query encoding : String) :
    Except CompositionError (List (String × String × String) × Composer) := do
  if !isUtf8 encoding then fail .unsupportedEncoding encoding
  else if c.request.isNone then fail .noOpenRequest "compose_params"
  else
    let decoded ← (Query.pairs query).mapM fun (rawName, rawValue) =>
      match Query.decodeComponent? rawName, Query.decodeComponent? rawValue with
      | some name, some value => pure (rawName, rawValue, name, value)
      | _, _ => fail .malformedQuery ("cannot decode '" ++ rawName ++ "=" ++ rawValue ++ "'")
    c.pairsShown confidential decoded

/-- The page `endPage` stores, if it stores one: the draft, when it has states and the strategy
keeps pages in caches. -/
def storedPage (c : Composer) (g : Guard) : Option Page :=
  match c.page with
  | some draft =>
    if draft.states.isEmpty || g.config.strategy = .cipher then none
    else some ⟨draft.id, draft.nonce, draft.states, draft.flows⟩
  | none => none

/-- Makes one call on a composer of a session: the notes it leaves, the new composer, guard and
session, or the composition error. -/
def call (c : Composer) (g : Guard) (s : Session) :
    ComposerCall → Except CompositionError (List Note × Composer × Guard × Session)
  | .startPage => (c.startPage g).map fun (c', g') => ([.pageStarted g.ids.next], c', g', s)
  | .startScope scope => (c.startScope scope).map fun c' => ([], c', g, s)
  | .endScope => c.endScope.map fun (_, c') => ([], c', g, s)
  | .beginRequest method action =>
    (c.beginRequest method action).map fun c' => ([.requestOpened], c', g, s)
  | .compose name value editable dataType =>
    (c.compose g.config.confidentiality name value editable dataType).map fun (shown, c') =>
      ([.recorded name value shown], c', g, s)
  | .composeFor action name value editable dataType =>
    (c.composeFor g.config.confidentiality action name value editable dataType).map
      fun (shown, c') =>
        ((if c.request.isNone then [.requestOpened] else []) ++ [.recorded name value shown], c', g, s)
  | .composeParams query encoding =>
    (c.paramsShown g.config.confidentiality query encoding).map fun (records, c') =>
      (records.map fun (name, value, shown) => .recorded name value shown, c', g, s)
  | .addFlow flow => (c.addFlow flow).map fun c' => ([], c', g, s)
  | .endRequest =>
    (c.endRequest g s).map fun (token, c', g') => (c.request.toList.map (.issued token), c', g', s)
  | .endPage => (c.endPage g s).map fun (c', g', s') => ((c.storedPage g).toList.map .stored, c', g', s')

end Composer

/-- What a run records. -/
inductive Event where
  /-- A composer of a session left a note. -/
  | composer (composer session : Nat) (note : Note)
  /-- A session's caches were emptied. -/
  | invalidated (session : Nat)
  /-- The pages of a flow were removed from a session's user-session cache and the application
  cache. -/
  | flowEnded (session : Nat) (flow : String)

/-- A call the users of a guard make. -/
inductive Call where
  | openSession (id : String)
  | openComposer (session : Nat)
  | composer (composer : Nat) (call : ComposerCall)
  | validate (session : Nat) (request : Request)
  | invalidate (session : Nat)
  | endFlow (session : Nat) (flow : String)

/-- A guard with its sessions and the composers opened on them, each with its session. -/
structure Deployment where
  guard : Guard
  sessions : List Session := []
  composers : List (Nat × Composer) := []

namespace Deployment

/-- A fresh guard of a configuration, application key and entropy, with no session yet. -/
def init (config : Config) (appKey : CipherKey) (entropy : Entropy) : Deployment :=
  { guard := { config, appKey, entropy } }

/-- Makes one call; returns the new deployment and what the call recorded. -/
def step (d : Deployment) : Call → Deployment × List Event
  | .openSession id =>
    ({ d with guard := (d.guard.newSession id).2, sessions := d.sessions ++ [(d.guard.newSession id).1] },
      [])
  | .openComposer session =>
    if session < d.sessions.length then ({ d with composers := d.composers ++ [(session, {})] }, [])
    else (d, [])
  | .composer handle call =>
    match d.composers[handle]? with
    | none => (d, [])
    | some (session, c) =>
      match d.sessions[session]? with
      | none => (d, [])
      | some s =>
        match c.call d.guard s call with
        | .error _ => (d, [])
        | .ok (notes, c', g', s') =>
          ({ guard := g', sessions := d.sessions.set session s',
             composers := d.composers.set handle (session, c') },
            notes.map (.composer handle session))
  | .validate _ _ => (d, [])
  | .invalidate session =>
    match d.sessions[session]? with
    | none => (d, [])
    | some s => ({ d with sessions := d.sessions.set session s.invalidate }, [.invalidated session])
  | .endFlow session flow =>
    match d.sessions[session]? with
    | none => (d, [])
    | some s =>
      ({ d with guard := (d.guard.endFlow s flow).2.1,
                sessions := d.sessions.set session (d.guard.endFlow s flow).2.2 },
        [.flowEnded session flow])

/-- Makes calls one after another; returns the last deployment and the whole trace. -/
def run (d : Deployment) : List Call → Deployment × List Event
  | [] => (d, [])
  | first :: rest => ((d.step first).1.run rest |>.1, (d.step first).2 ++ ((d.step first).1.run rest).2)

/-- What validating a request of a session does in a deployment; `none` for a session never
opened. -/
def validate (d : Deployment) (session : Nat) (r : Request) : Option Outcome :=
  d.sessions[session]?.map fun s => d.guard.validate s r

/-- What one call can do: nothing; open a session; open a composer on an open session; make a
composer call that succeeds, on the composer's own session; invalidate a session; end a flow. -/
theorem step_cases {d d' : Deployment} {call : Call} {events : List Event}
    (stepped : d.step call = (d', events)) :
    (d' = d ∧ events = []) ∨
    (∃ id, d' = { d with guard := (d.guard.newSession id).2,
                         sessions := d.sessions ++ [(d.guard.newSession id).1] } ∧ events = []) ∨
    (∃ session, session < d.sessions.length ∧
      d' = { d with composers := d.composers ++ [(session, {})] } ∧ events = []) ∨
    (∃ handle session c s cc notes c' g' s', d.composers[handle]? = some (session, c) ∧
      d.sessions[session]? = some s ∧ c.call d.guard s cc = .ok (notes, c', g', s') ∧
      d' = { guard := g', sessions := d.sessions.set session s',
             composers := d.composers.set handle (session, c') } ∧
      events = notes.map (.composer handle session)) ∨
    (∃ session s, d.sessions[session]? = some s ∧
      d' = { d with sessions := d.sessions.set session s.invalidate } ∧ events = [.invalidated session]) ∨
    (∃ session s flow, d.sessions[session]? = some s ∧
      d' = { d with guard := (d.guard.endFlow s flow).2.1,
                    sessions := d.sessions.set session (d.guard.endFlow s flow).2.2 } ∧
      events = [.flowEnded session flow]) := by
  cases call with
  | openSession id =>
    simp only [step, Prod.mk.injEq] at stepped
    exact .inr (.inl ⟨id, stepped.1.symm, stepped.2.symm⟩)
  | openComposer session =>
    simp only [step] at stepped
    split at stepped
    · rename_i opened
      simp only [Prod.mk.injEq] at stepped
      exact .inr (.inr (.inl ⟨session, opened, stepped.1.symm, stepped.2.symm⟩))
    · simp only [Prod.mk.injEq] at stepped
      exact .inl ⟨stepped.1.symm, stepped.2.symm⟩
  | composer handle cc =>
    simp only [step] at stepped
    split at stepped
    · simp only [Prod.mk.injEq] at stepped
      exact .inl ⟨stepped.1.symm, stepped.2.symm⟩
    · rename_i session c opened
      split at stepped
      · simp only [Prod.mk.injEq] at stepped
        exact .inl ⟨stepped.1.symm, stepped.2.symm⟩
      · rename_i s found
        split at stepped
        · simp only [Prod.mk.injEq] at stepped
          exact .inl ⟨stepped.1.symm, stepped.2.symm⟩
        · rename_i notes c' g' s' called
          simp only [Prod.mk.injEq] at stepped
          exact .inr (.inr (.inr (.inl ⟨handle, session, c, s, cc, notes, c', g', s', opened, found,
            called, stepped.1.symm, stepped.2.symm⟩)))
  | validate session r =>
    simp only [step, Prod.mk.injEq] at stepped
    exact .inl ⟨stepped.1.symm, stepped.2.symm⟩
  | invalidate session =>
    simp only [step] at stepped
    split at stepped
    · simp only [Prod.mk.injEq] at stepped
      exact .inl ⟨stepped.1.symm, stepped.2.symm⟩
    · rename_i s found
      simp only [Prod.mk.injEq] at stepped
      exact .inr (.inr (.inr (.inr (.inl ⟨session, s, found, stepped.1.symm, stepped.2.symm⟩))))
  | endFlow session flow =>
    simp only [step] at stepped
    split at stepped
    · simp only [Prod.mk.injEq] at stepped
      exact .inl ⟨stepped.1.symm, stepped.2.symm⟩
    · rename_i s found
      simp only [Prod.mk.injEq] at stepped
      exact .inr (.inr (.inr (.inr (.inr ⟨session, s, flow, found, stepped.1.symm, stepped.2.symm⟩))))

theorem run_nil (d : Deployment) : d.run [] = (d, []) := rfl

theorem run_cons (d : Deployment) (first : Call) (rest : List Call) :
    d.run (first :: rest) =
      (((d.step first).1.run rest).1, (d.step first).2 ++ ((d.step first).1.run rest).2) := rfl

theorem run_append (d : Deployment) (calls more : List Call) :
    d.run (calls ++ more) =
      (((d.run calls).1.run more).1, (d.run calls).2 ++ ((d.run calls).1.run more).2) := by
  induction calls generalizing d with
  | nil => simp [run_nil]
  | cons first rest ih => simp [run_cons, ih]

/-- What every call keeps, of a deployment and the trace that led to it, every run keeps. -/
theorem run_preserves (holds : Deployment → List Event → Prop)
    (step : ∀ d trace call, holds d trace → holds (d.step call).1 (trace ++ (d.step call).2))
    {d : Deployment} {trace : List Event} (start : holds d trace) (calls : List Call) :
    holds (d.run calls).1 (trace ++ (d.run calls).2) := by
  induction calls generalizing d trace with
  | nil => simpa [run_nil] using start
  | cons first rest ih =>
    rw [run_cons, ← List.append_assoc]
    exact ih (step d trace first start)

end Deployment

end FormIntegrity
