import FormIntegrity.Guard
import FormIntegrity.Sealed
import FormIntegrity.Query

/-!
# Composing pages

A composer records the request targets of one page while it is rendered. It moves through four
phases: idle, page started, request open, sealed. Starting a page takes the next page id and a fresh
nonce; between the start and the end of a page, scopes may be opened and closed around request
targets, and each target is opened, given its parameters, and closed, which hands out the token that
names it. Ending a page stores it in the cache of every scope its states use; an empty page, or any
page under the cipher strategy, is not stored, since its tokens carry their states.

A call in the wrong phase fails with a composition error and changes nothing.

With confidentiality on, a value that the user may not edit is shown as a placeholder `~i`, the
position of the value among the parameter's values, so the page never shows the value itself.
-/

namespace FormIntegrity

/-- The kinds of composition errors. -/
inductive CompositionKind where
  | pageAlreadyStarted
  | noPage
  | requestAlreadyOpen
  | noOpenRequest
  | unbalancedScope
  | actionMismatch
  | queryInAction
  | malformedQuery
  | unsupportedEncoding
  deriving DecidableEq, Repr

namespace CompositionKind

/-- The name of a kind. -/
def name : CompositionKind → String
  | .pageAlreadyStarted => "PageAlreadyStarted"
  | .noPage => "NoPage"
  | .requestAlreadyOpen => "RequestAlreadyOpen"
  | .noOpenRequest => "NoOpenRequest"
  | .unbalancedScope => "UnbalancedScope"
  | .actionMismatch => "ActionMismatch"
  | .queryInAction => "QueryInAction"
  | .malformedQuery => "MalformedQuery"
  | .unsupportedEncoding => "UnsupportedEncoding"

/-- The description of a kind. -/
def text : CompositionKind → String
  | .pageAlreadyStarted => "page already started"
  | .noPage => "no page started"
  | .requestAlreadyOpen => "request already open"
  | .noOpenRequest => "no open request"
  | .unbalancedScope => "unbalanced scope"
  | .actionMismatch => "action mismatch"
  | .queryInAction => "query string in action"
  | .malformedQuery => "malformed query string"
  | .unsupportedEncoding => "unsupported encoding"

end CompositionKind

/-- A call made in the wrong phase or with unusable arguments. -/
structure CompositionError where
  kind : CompositionKind
  detail : String
  deriving DecidableEq, Repr

/-- The report of a composition error: the kind's description and the detail in parentheses. -/
def CompositionError.message (e : CompositionError) : String :=
  e.kind.text ++ " (" ++ e.detail ++ ")"

/-- The phase of a composer. -/
inductive Phase where
  | idle
  | pageStarted
  | requestOpen
  | sealed
  deriving DecidableEq, Repr

/-- The name of a phase. -/
def Phase.name : Phase → String
  | .idle => "Idle"
  | .pageStarted => "PageStarted"
  | .requestOpen => "RequestOpen"
  | .sealed => "Sealed"

/-- A page being composed. -/
structure PageDraft where
  id : UInt64
  nonce : String
  states : List State := []
  flows : List String := []

/-- A composer: its phase, the page being composed, the open scopes (innermost first) and the
open request target. -/
structure Composer where
  phase : Phase := .idle
  page : Option PageDraft := none
  scopes : List Scope := []
  request : Option State := none

namespace Composer

/-- The id of the page being composed. -/
def pageId? (c : Composer) : Option UInt64 :=
  c.page.map (·.id)

/-- The innermost open scope; the page scope when none is open. -/
def currentScope (c : Composer) : Scope :=
  c.scopes.head?.getD .page

/-- Fails with a composition error. -/
def fail {α : Type} (kind : CompositionKind) (detail : String) : Except CompositionError α :=
  .error ⟨kind, detail⟩

/-- Succeeds when a page is started and no request is open; `operation` names the call. -/
def requirePage (c : Composer) (operation : String) : Except CompositionError Unit :=
  match c.phase with
  | .pageStarted => pure ()
  | .requestOpen => fail .requestAlreadyOpen operation
  | .idle | .sealed => fail .noPage operation

/-- Starts a page with the guard's next id and a fresh nonce. -/
def startPage (c : Composer) (g : Guard) : Except CompositionError (Composer × Guard) :=
  match c.phase with
  | .pageStarted | .requestOpen => fail .pageAlreadyStarted "start_page called before end_page"
  | .idle | .sealed =>
    let (id, g) := g.takePageId
    let (nonce, g) := g.takeNonce
    pure ({ c with page := some { id, nonce }, scopes := [], phase := .pageStarted }, g)

/-- Opens a scope. -/
def startScope (c : Composer) (scope : Scope) : Except CompositionError Composer := do
  c.requirePage "start_scope"
  pure { c with scopes := scope :: c.scopes }

/-- Closes the innermost scope and returns it. -/
def endScope (c : Composer) : Except CompositionError (Scope × Composer) := do
  c.requirePage "end_scope"
  match c.scopes with
  | [] => fail .unbalancedScope "end_scope without start_scope"
  | s :: rest => pure (s, { c with scopes := rest })

/-- Opens a request target in the current scope; its action may not hold a query. -/
def beginRequest (c : Composer) (method : Method) (action : String) :
    Except CompositionError Composer := do
  c.requirePage "begin_request"
  if action.toList.contains '?' then
    fail .queryInAction "pass query parameters through compose_params"
  else
    let index := (c.page.map (·.states.length)).getD 0
    pure { c with request := some { index, scope := c.currentScope, method, action },
                  phase := .requestOpen }

/-- Records a value of a parameter of the open request target and returns the text the page shows
for it. -/
def compose (c : Composer) (confidential : Bool) (name value : String) (editable : Bool)
    (dataType : Option DataType) : Except CompositionError (String × Composer) :=
  match c.request with
  | none => fail .noOpenRequest "compose"
  | some st =>
    let (st, i) := st.record name value editable dataType
    let pinned := ((st.parameter? name).map (!·.editable)).getD false
    pure (if confidential && pinned then Placeholder.write i else value, { c with request := some st })

/-- Composes a value for a target: the open one, which must have that action, or a new POST
target. -/
def composeFor (c : Composer) (confidential : Bool) (action name value : String) (editable : Bool)
    (dataType : Option DataType) : Except CompositionError (String × Composer) :=
  match c.request with
  | some st =>
    if st.action ≠ action then fail .actionMismatch ("open request targets '" ++ st.action ++ "'")
    else c.compose confidential name value editable dataType
  | none => do
    let c ← c.beginRequest .post action
    c.compose confidential name value editable dataType

/-- Records decoded query pairs as required, pinned parameters; returns the rewritten pairs. -/
def composePairs (c : Composer) (confidential : Bool) :
    List (String × String × String × String) → Except CompositionError (List String × Composer)
  | [] => pure ([], c)
  | (rawName, rawValue, name, value) :: rest => do
    let (shown, c) ← c.compose confidential name value false none
    let c : Composer := { c with request := c.request.map (State.require · name) }
    let pair := if shown == value then rawName ++ "=" ++ rawValue else rawName ++ "=" ++ shown
    let (pairs, c) ← c.composePairs confidential rest
    pure (pair :: pairs, c)

/-- Whether an encoding name is UTF-8, ignoring ASCII case. -/
def isUtf8 (encoding : String) : Bool :=
  let lower := String.ofList (encoding.toList.map Char.toLower)
  lower == "utf-8" || lower == "utf8"

/-- Composes the pairs of a query into the open request target. Every pair is decoded before any
is recorded; the answer is the query with pinned values shown as the page shows them. -/
def composeParams (c : Composer) (confidential : Bool) (query encoding : String) :
    Except CompositionError (String × Composer) := do
  if !isUtf8 encoding then fail .unsupportedEncoding encoding
  else if c.request.isNone then fail .noOpenRequest "compose_params"
  else
    let decoded ← (Query.pairs query).mapM fun (rawName, rawValue) =>
      match Query.decodeComponent? rawName, Query.decodeComponent? rawValue with
      | some name, some value => pure (rawName, rawValue, name, value)
      | _, _ => fail .malformedQuery ("cannot decode '" ++ rawName ++ "=" ++ rawValue ++ "'")
    let (pairs, c) ← c.composePairs confidential decoded
    pure ("&".intercalate pairs, c)

/-- Closes the open request target, adds its state to the page and returns its token: under the
memory strategy the page id, state index and page nonce; under the cipher strategy the sealed
state, under the application key for application states and the session key otherwise. -/
def endRequest (c : Composer) (g : Guard) (s : Session) :
    Except CompositionError (StateToken × Composer × Guard) :=
  match c.request, c.page with
  | some st, some page =>
    let (token, g) : StateToken × Guard := match g.config.strategy with
      | .memory => (⟨st.scope, .memory page.id st.index.toUInt64 page.nonce⟩, g)
      | .cipher =>
        let key := if st.scope = .application then g.appKey else s.key
        let (nonce, g) := g.draw Cipher.nonceLength
        ((SealedState.mk st.scope page.id st).toToken key nonce, g)
    pure (token, { c with request := none, page := some { page with states := page.states ++ [st] },
                          phase := .pageStarted }, g)
  | _, _ => fail .noOpenRequest "end_request"

/-- Adds the page to a flow. -/
def addFlow (c : Composer) (flow : String) : Except CompositionError Composer :=
  match c.phase, c.page with
  | .pageStarted, some p | .requestOpen, some p =>
    pure { c with page := some { p with flows := if p.flows.contains flow then p.flows else p.flows ++ [flow] } }
  | _, _ => fail .noPage "add_flow_id"

/-- Ends the page and stores it in the cache of every scope its states use. -/
def endPage (c : Composer) (g : Guard) (s : Session) :
    Except CompositionError (Composer × Guard × Session) := do
  c.requirePage "end_page"
  if !c.scopes.isEmpty then
    fail .unbalancedScope (Decimal.write c.scopes.length ++ " scope(s) still open at end_page")
  else match c.page with
  | none => fail .noPage "end_page"
  | some draft =>
    let c := { c with page := none, phase := .sealed }
    if draft.states.isEmpty || g.config.strategy = .cipher then pure (c, g, s)
    else
      let page : Page := ⟨draft.id, draft.nonce, draft.states, draft.flows⟩
      let s := if page.hasScope .page then { s with pages := (s.pages.put page).2 } else s
      let s := if page.hasScope .userSession then { s with userPages := (s.userPages.put page).2 } else s
      let g := if page.hasScope .application then { g with appPages := (g.appPages.put page).2 } else g
      pure (c, g, s)

end Composer

end FormIntegrity
