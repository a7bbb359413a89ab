import FormIntegrity.Composer

/-!
# Composer calls, run in place

A composer holds its guard and its session by reference, and each of its calls reads and writes the
three in place, one statement after another, and returns at the first check that fails. Whatever a
call wrote before it returned stays written. The calls here make their checks and writes in that
order: starting a page checks the phase before it takes a page id; composing query pairs decodes
every pair before it records any; closing a request seals the token before it takes the open state;
ending a page checks the open scopes before it takes the draft.

Each call agrees with the composer's function of the same name, which returns the new composer, guard
and session only on success; the proofs say so, and that a call that fails leaves all three as they
were.
-/

namespace FormIntegrity

/-- What a composer call acts on: the composer, and the guard and the session it holds. -/
structure Composing where
  composer : Composer
  guard : Guard
  session : Session

/-- A composer call run in place: it may fail with a composition error, and keeps what it wrote
before it failed. -/
abbrev InPlace := ExceptT CompositionError (StateM Composing)

namespace InPlace

variable {α β : Type}

/-- Runs a call on a composer, its guard and its session: its outcome, and the three afterwards. -/
def run (m : InPlace α) (w : Composing) : Except CompositionError α × Composing :=
  StateT.run (ExceptT.run m) w

/-- Fails with a composition error. -/
def fail (kind : CompositionKind) (detail : String) : InPlace α :=
  throw ⟨kind, detail⟩

/-- The composer as it is now. -/
def composer : InPlace Composer := do
  return (← get).composer

/-- The guard as it is now. -/
def guard : InPlace Guard := do
  return (← get).guard

/-- The session as it is now. -/
def session : InPlace Session := do
  return (← get).session

/-- Changes the composer. -/
def modifyComposer (f : Composer → Composer) : InPlace Unit :=
  modify fun w => { w with composer := f w.composer }

/-- Changes the guard. -/
def modifyGuard (f : Guard → Guard) : InPlace Unit :=
  modify fun w => { w with guard := f w.guard }

/-- Changes the session. -/
def modifySession (f : Session → Session) : InPlace Unit :=
  modify fun w => { w with session := f w.session }

@[simp] theorem run_pure (a : α) (w : Composing) : run (pure a) w = (.ok a, w) := rfl

@[simp] theorem run_fail (kind : CompositionKind) (detail : String) (w : Composing) :
    run (fail kind detail : InPlace α) w = (.error ⟨kind, detail⟩, w) := rfl

/-- A call made of two runs the second on what the first left, unless the first failed. -/
theorem run_bind (m : InPlace α) (k : α → InPlace β) (w : Composing) :
    run (m >>= k) w = match run m w with
      | (.ok a, w') => run (k a) w'
      | (.error e, w') => (.error e, w') := by
  unfold run ExceptT.run StateT.run
  simp only [bind, ExceptT.bind, ExceptT.mk, StateT.bind, ExceptT.bindCont]
  cases m w with
  | mk outcome w' => cases outcome <;> rfl

/-- A call whose answer is changed by a function does what the call does. -/
theorem run_map (f : α → β) (m : InPlace α) (w : Composing) :
    run (f <$> m) w = match run m w with
      | (.ok a, w') => (.ok (f a), w')
      | (.error e, w') => (.error e, w') := by
  unfold run ExceptT.run StateT.run
  simp only [Functor.map, ExceptT.map, ExceptT.mk, bind, StateT.bind]
  cases m w with
  | mk outcome w' => cases outcome <;> rfl

@[simp] theorem run_composer (w : Composing) : run composer w = (.ok w.composer, w) := rfl

@[simp] theorem run_guard (w : Composing) : run guard w = (.ok w.guard, w) := rfl

@[simp] theorem run_session (w : Composing) : run session w = (.ok w.session, w) := rfl

@[simp] theorem run_modifyComposer (f : Composer → Composer) (w : Composing) :
    run (modifyComposer f) w = (.ok (), { w with composer := f w.composer }) := rfl

@[simp] theorem run_modifyGuard (f : Guard → Guard) (w : Composing) :
    run (modifyGuard f) w = (.ok (), { w with guard := f w.guard }) := rfl

@[simp] theorem run_modifySession (f : Session → Session) (w : Composing) :
    run (modifySession f) w = (.ok (), { w with session := f w.session }) := rfl

/-- Takes the guard's next page id. -/
def takePageId : InPlace UInt64 := do
  let (id, g) := (← guard).takePageId
  modifyGuard fun _ => g
  pure id

/-- Draws a fresh page nonce from the guard's entropy. -/
def takeNonce : InPlace String := do
  let (nonce, g) := (← guard).takeNonce
  modifyGuard fun _ => g
  pure nonce

/-- Draws bytes from the guard's entropy. -/
def draw (count : Nat) : InPlace (List UInt8) := do
  let (bytes, g) := (← guard).draw count
  modifyGuard fun _ => g
  pure bytes

/-- Succeeds when a page is started and no request is open; `operation` names the call. -/
def requirePage (operation : String) : InPlace Unit := do
  match (← composer).phase with
  | .pageStarted => pure ()
  | .requestOpen => fail .requestAlreadyOpen operation
  | .idle | .sealed => fail .noPage operation

/-- Starts a page with the guard's next id and a fresh nonce, and forgets any open scope. -/
def startPage : InPlace Unit := do
  match (← composer).phase with
  | .pageStarted | .requestOpen => fail .pageAlreadyStarted "start_page called before end_page"
  | .idle | .sealed =>
    let id ← takePageId
    let nonce ← takeNonce
    modifyComposer fun c => { c with page := some { id, nonce } }
    modifyComposer fun c => { c with scopes := [] }
    modifyComposer fun c => { c with phase := .pageStarted }

/-- Opens a scope. -/
def startScope (scope : Scope) : InPlace Unit := do
  requirePage "start_scope"
  modifyComposer fun c => { c with scopes := scope :: c.scopes }

/-- Closes the innermost scope and returns it. -/
def endScope : InPlace Scope := do
  requirePage "end_scope"
  match (← composer).scopes with
  | [] => fail .unbalancedScope "end_scope without start_scope"
  | s :: rest =>
    modifyComposer fun c => { c with scopes := rest }
    pure s

/-- Opens a request target in the current scope; its action may not hold a query. -/
def beginRequest (method : Method) (action : String) : InPlace Unit := do
  requirePage "begin_request"
  if action.toList.contains '?' then fail .queryInAction "pass query parameters through compose_params"
  let c ← composer
  let index := (c.page.map (·.states.length)).getD 0
  modifyComposer fun c => { c with request := some { index, scope := c.currentScope, method, action } }
  modifyComposer fun c => { c with phase := .requestOpen }

/-- Records a value of a parameter of the open request target and returns the text the page shows
for it: the placeholder of its position when confidentiality is on and the parameter is pinned. -/
def compose (name value : String) (editable : Bool) (dataType : Option DataType) : InPlace String := do
  let confidential := (← guard).config.confidentiality
  match (← composer).request with
  | none => fail .noOpenRequest "compose"
  | some st =>
    let (st, i) := st.record name value editable dataType
    modifyComposer fun c => { c with request := some st }
    let pinned := ((st.parameter? name).map (!·.editable)).getD false
    pure (if confidential && pinned then Placeholder.write i else value)

/-- Composes a value for a target: the open one, which must have that action, or a new POST
target. -/
def composeFor (action name value : String) (editable : Bool) (dataType : Option DataType) :
    InPlace String := do
  match (← composer).request with
  | some st =>
    if st.action ≠ action then fail .actionMismatch ("open request targets '" ++ st.action ++ "'")
  | none => beginRequest .post action
  compose name value editable dataType

/-- Decodes the raw name and value of a query pair. -/
def decodePair (rawName rawValue : String) : InPlace (String × String × String × String) :=
  match Query.decodeComponent? rawName, Query.decodeComponent? rawValue with
  | some name, some value => pure (rawName, rawValue, name, value)
  | _, _ => fail .malformedQuery ("cannot decode '" ++ rawName ++ "=" ++ rawValue ++ "'")

/-- Records one decoded query pair as a required, pinned parameter; returns the pair as the page
shows it, with its raw text when the value is shown as it is. -/
def composePair (rawName rawValue name value : String) : InPlace String := do
  let shown ← compose name value false none
  modifyComposer fun c => { c with request := c.request.map (State.require · name) }
  pure (if shown == value then rawName ++ "=" ++ rawValue else rawName ++ "=" ++ shown)

/-- Composes the pairs of a query into the open request target. Every pair is decoded before any
is recorded; the answer is the query with pinned values shown as the page shows them. -/
def composeParams (query encoding : String) : InPlace String := do
  if !Composer.isUtf8 encoding then fail .unsupportedEncoding encoding
  if (← composer).request.isNone then fail .noOpenRequest "compose_params"
  let decoded ← (Query.pairs query).mapM fun (rawName, rawValue) => decodePair rawName rawValue
  let rewritten ← decoded.mapM fun (rawName, rawValue, name, value) =>
    composePair rawName rawValue name value
  pure ("&".intercalate rewritten)

/-- Closes the open request target, adds its state to the page and returns its token. The token is
made before the open state is taken. -/
def endRequest : InPlace StateToken := do
  let c ← composer
  match c.request, c.page with
  | some st, some page =>
    let token ← match (← guard).config.strategy with
      | .memory => pure ⟨st.scope, .memory page.id st.index.toUInt64 page.nonce⟩
      | .cipher => do
        let g ← guard
        let s ← session
        let key := if st.scope = .application then g.appKey else s.key
        let nonce ← draw Cipher.nonceLength
        pure ((SealedState.mk st.scope page.id st).toToken key nonce)
    modifyComposer fun c => match c.request, c.page with
      | some st, some p => { c with request := none, page := some { p with states := p.states ++ [st] } }
      | _, _ => { c with request := none }
    modifyComposer fun c => { c with phase := .pageStarted }
    pure token
  | _, _ => fail .noOpenRequest "end_request"

/-- Adds the page to a flow. -/
def addFlow (flow : String) : InPlace Unit := do
  let c ← composer
  match c.phase, c.page with
  | .pageStarted, some p | .requestOpen, some p =>
    modifyComposer fun c =>
      { c with page := some { p with flows := if p.flows.contains flow then p.flows else p.flows ++ [flow] } }
  | _, _ => fail .noPage "add_flow_id"

/-- Puts a page into the cache of a scope: the session's caches hold page and user-session pages,
the guard's cache application pages. -/
def putPage (page : Page) : Scope → InPlace Unit
  | .page => modifySession fun s => { s with pages := (s.pages.put page).2 }
  | .userSession => modifySession fun s => { s with userPages := (s.userPages.put page).2 }
  | .application => modifyGuard fun g => { g with appPages := (g.appPages.put page).2 }

/-- Ends the page and stores it in the cache of every scope its states use. The draft is taken
out of the composer only once no scope is open. -/
def endPage : InPlace Unit := do
  requirePage "end_page"
  let c ← composer
  if !c.scopes.isEmpty then
    fail .unbalancedScope (Decimal.write c.scopes.length ++ " scope(s) still open at end_page")
  let draft := (← composer).page
  modifyComposer fun c => { c with page := none }
  match draft with
  | none => fail .noPage "end_page"
  | some draft =>
    modifyComposer fun c => { c with phase := .sealed }
    if !(draft.states.isEmpty || (← guard).config.strategy = .cipher) then
      let page : Page := ⟨draft.id, draft.nonce, draft.states, draft.flows⟩
      for scope in [Scope.page, .userSession, .application] do
        if page.hasScope scope then putPage page scope

end InPlace

end FormIntegrity
