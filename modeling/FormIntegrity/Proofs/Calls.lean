import FormIntegrity.Proofs.Deployment
import FormIntegrity.Proofs.TokenText

/-!
# What each call does

One lemma per composer call says everything a successful call did: the phase it needed, the notes
it left, and the composer, guard and session it produced; small lemmas say what opening a session,
ending a flow, invalidating a session and storing a page change. Proofs about runs cite these
lemmas and never unfold the composer or the guard.

From them: a composer stays coherent (its phase agrees with the page and the request it holds, and
the states of its page are numbered by position), and every call other than starting a page,
closing a request and ending a page keeps the page's id, nonce and states and touches neither the
guard nor the session.
-/

namespace FormIntegrity

theorem Except.map_eq_ok {ε α β : Type} {x : Except ε α} {f : α → β} {b : β} :
    x.map f = .ok b ↔ ∃ a, x = .ok a ∧ f a = b := by
  cases x <;> simp [Except.map]

theorem Except.bind_eq_ok {ε α β : Type} {x : Except ε α} {f : α → Except ε β} {b : β} :
    x >>= f = .ok b ↔ ∃ a, x = .ok a ∧ f a = .ok b := by
  cases x <;> simp [bind, Except.bind]

theorem Except.pure_eq_ok {ε α : Type} {a b : α} : (pure a : Except ε α) = .ok b ↔ a = b := by
  simp [pure, Except.pure]

@[simp] theorem Composer.fail_ne_ok {α : Type} {kind : CompositionKind} {detail : String} {a : α} :
    Composer.fail kind detail ≠ .ok a := by
  simp [Composer.fail]

namespace Guard

variable (g : Guard)

@[simp] theorem takePageId_fst : g.takePageId.1 = g.ids.next := rfl

@[simp] theorem takePageId_snd : g.takePageId.2 = { g with ids := ⟨g.ids.next + 1⟩ } := rfl

theorem draw_eq (count : Nat) :
    g.draw count = ((g.entropy.bytes count).1, { g with entropy := (g.entropy.bytes count).2 }) := rfl

@[simp] theorem draw_fst (count : Nat) : (g.draw count).1 = (g.entropy.bytes count).1 := rfl

@[simp] theorem draw_snd (count : Nat) :
    (g.draw count).2 = { g with entropy := (g.entropy.bytes count).2 } := rfl

@[simp] theorem takeNonce_fst : g.takeNonce.1 = Hex.encode (g.entropy.bytes 8).1 := rfl

@[simp] theorem takeNonce_snd : g.takeNonce.2 = (g.draw 8).2 := rfl

/-- The guard after a page is stored: the application cache takes it when one of its states has
the application scope. -/
def store (g : Guard) (p : Page) : Guard :=
  if p.hasScope .application then { g with appPages := (g.appPages.put p).2 } else g

@[simp] theorem store_config (p : Page) : (g.store p).config = g.config := by
  unfold store; split <;> rfl

@[simp] theorem store_ids (p : Page) : (g.store p).ids = g.ids := by
  unfold store; split <;> rfl

theorem store_appPages (p : Page) :
    (g.store p).appPages = if p.hasScope .application then (g.appPages.put p).2 else g.appPages := by
  unfold store; split <;> rfl

@[simp] theorem store_appKey (p : Page) : (g.store p).appKey = g.appKey := by
  unfold store; split <;> rfl

-- Opening a session draws from the entropy; the proofs rewrite the draws rather than let
-- definitional unfolding compare guards whose entropy differs, which would run the generator.
@[simp] theorem newSession_config (id : String) : (g.newSession id).2.config = g.config := by
  by_cases random : g.config.randomStateParameterName = true
  · simp only [newSession, if_pos random, draw_eq, drawKey]
  · simp only [newSession, if_neg random, drawKey]

@[simp] theorem newSession_appPages (id : String) : (g.newSession id).2.appPages = g.appPages := by
  by_cases random : g.config.randomStateParameterName = true
  · simp only [newSession, if_pos random, draw_eq, drawKey]
  · simp only [newSession, if_neg random, drawKey]

@[simp] theorem newSession_appKey (id : String) : (g.newSession id).2.appKey = g.appKey := by
  by_cases random : g.config.randomStateParameterName = true
  · simp only [newSession, if_pos random, draw_eq, drawKey]
  · simp only [newSession, if_neg random, drawKey]

@[simp] theorem newSession_ids (id : String) : (g.newSession id).2.ids = g.ids := by
  by_cases random : g.config.randomStateParameterName = true
  · simp only [newSession, if_pos random, draw_eq, drawKey]
  · simp only [newSession, if_neg random, drawKey]

@[simp] theorem newSession_pages (id : String) :
    (g.newSession id).1.pages = .bounded g.config.maxPagesPerSession := by
  by_cases random : g.config.randomStateParameterName = true
  · simp only [newSession, if_pos random, draw_eq, drawKey]
  · simp only [newSession, if_neg random, drawKey]

@[simp] theorem newSession_userPages (id : String) : (g.newSession id).1.userPages = .unbounded := by
  by_cases random : g.config.randomStateParameterName = true
  · simp only [newSession, if_pos random, draw_eq, drawKey]
  · simp only [newSession, if_neg random, drawKey]

@[simp] theorem endFlow_config (s : Session) (flow : String) : (g.endFlow s flow).2.1.config = g.config :=
  rfl

@[simp] theorem endFlow_ids (s : Session) (flow : String) : (g.endFlow s flow).2.1.ids = g.ids := rfl

@[simp] theorem endFlow_appKey (s : Session) (flow : String) : (g.endFlow s flow).2.1.appKey = g.appKey :=
  rfl

@[simp] theorem endFlow_key (s : Session) (flow : String) : (g.endFlow s flow).2.2.key = s.key := rfl

@[simp] theorem endFlow_appPages (s : Session) (flow : String) :
    (g.endFlow s flow).2.1.appPages = (g.appPages.removeFlow flow).2 := rfl

@[simp] theorem endFlow_pages (s : Session) (flow : String) : (g.endFlow s flow).2.2.pages = s.pages :=
  rfl

@[simp] theorem endFlow_userPages (s : Session) (flow : String) :
    (g.endFlow s flow).2.2.userPages = (s.userPages.removeFlow flow).2 := rfl

end Guard

namespace Session

variable (s : Session)

@[simp] theorem invalidate_pages : s.invalidate.pages = s.pages.clear := rfl

@[simp] theorem invalidate_userPages : s.invalidate.userPages = s.userPages.clear := rfl

@[simp] theorem invalidate_key : s.invalidate.key = s.key := rfl

/-- The session after a page is stored: its page cache and its user-session cache take it when one
of its states has their scope. -/
def store (s : Session) (p : Page) : Session :=
  let s := if p.hasScope .page then { s with pages := (s.pages.put p).2 } else s
  if p.hasScope .userSession then { s with userPages := (s.userPages.put p).2 } else s

theorem store_pages (p : Page) :
    (s.store p).pages = if p.hasScope .page then (s.pages.put p).2 else s.pages := by
  unfold store; split <;> split <;> rfl

theorem store_userPages (p : Page) :
    (s.store p).userPages = if p.hasScope .userSession then (s.userPages.put p).2 else s.userPages := by
  unfold store; split <;> split <;> rfl

@[simp] theorem store_key (p : Page) : (s.store p).key = s.key := by
  unfold store; split <;> split <;> rfl

end Session

/-- Whether a call leaves the drafted page's id, nonce and states alone: every call but starting a
page, closing a request into it and ending it. -/
def ComposerCall.keepsPage : ComposerCall → Bool
  | .startPage | .endRequest | .endPage => false
  | _ => true

/-- Whether a note is about the open request alone: a request opened or a value recorded. -/
def Note.aboutRequest : Note → Bool
  | .requestOpened | .recorded .. => true
  | _ => false

/-- What of a draft its tokens and its stored page are made of, its flows aside: its id, its nonce
and its states. -/
def PageDraft.contents (D : PageDraft) : UInt64 × String × List State :=
  (D.id, D.nonce, D.states)

namespace Composer

variable {c c' : Composer} {g g' : Guard} {s s' : Session} {notes : List Note}
variable {confidential : Bool} {name value shown : String} {editable : Bool}
variable {dataType : Option DataType}

theorem requirePage_ok {operation : String} {u : Unit} (ok : c.requirePage operation = .ok u) :
    c.phase = .pageStarted := by
  unfold requirePage at ok
  split at ok <;> simp_all

theorem compose_ok (ok : c.compose confidential name value editable dataType = .ok (shown, c')) :
    ∃ st, c.request = some st ∧ c' = { c with request := some (st.record name value editable dataType).1 } ∧
      shown = if confidential &&
          ((((st.record name value editable dataType).1.parameter? name).map (!·.editable)).getD false)
        then Placeholder.write (st.record name value editable dataType).2 else value := by
  unfold compose at ok
  split at ok
  · simp at ok
  · rename_i st opened
    simp only [Except.pure_eq_ok, Prod.mk.injEq] at ok
    exact ⟨st, opened, ok.2.symm, ok.1.symm⟩

theorem beginRequest_ok {method : Method} {action : String} (ok : c.beginRequest method action = .ok c') :
    c.phase = .pageStarted ∧ action.toList.contains '?' = false ∧
      c' = { c with request := some { index := (c.page.map (·.states.length)).getD 0,
                                      scope := c.currentScope, method, action },
                    phase := .requestOpen } := by
  simp only [beginRequest, Except.bind_eq_ok] at ok
  obtain ⟨u, required, opened⟩ := ok
  split at opened
  · simp at opened
  · rename_i noQuery
    simp only [Except.pure_eq_ok] at opened
    exact ⟨requirePage_ok required, by simpa using noQuery, opened.symm⟩

theorem composeFor_ok {action : String}
    (ok : c.composeFor confidential action name value editable dataType = .ok (shown, c')) :
    match c.request with
    | some st => st.action = action ∧ c.compose confidential name value editable dataType = .ok (shown, c')
    | none => ∃ c₁, c.beginRequest .post action = .ok c₁ ∧
        c₁.compose confidential name value editable dataType = .ok (shown, c') := by
  unfold composeFor at ok
  cases opened : c.request with
  | some st =>
    simp only [opened] at ok ⊢
    by_cases sameAction : st.action = action
    · simp only [sameAction, ne_eq, not_true_eq_false, if_false] at ok
      exact ⟨sameAction, ok⟩
    · simp [sameAction] at ok
  | none =>
    simp only [opened] at ok ⊢
    exact Except.bind_eq_ok.mp ok

/-- Recording query pairs changes only the open request, and only its parameters. -/
theorem pairsShown_ok {pairs : List (String × String × String × String)}
    {records : List (String × String × String)}
    (ok : c.pairsShown confidential pairs = .ok (records, c')) (st : State) (opened : c.request = some st) :
    ∃ params, c' = { c with request := some { st with parameters := params } } := by
  induction pairs generalizing c st records with
  | nil =>
    simp only [pairsShown, Except.pure_eq_ok, Prod.mk.injEq] at ok
    obtain ⟨-, rfl⟩ := ok
    refine ⟨st.parameters, ?_⟩
    cases c
    cases opened
    rfl
  | cons pair rest ih =>
    obtain ⟨rawName, rawValue, name, value⟩ := pair
    simp only [pairsShown, Except.bind_eq_ok] at ok
    obtain ⟨⟨shown₁, c₁⟩, composed, ⟨records₂, c₂⟩, restOk, finished⟩ := ok
    simp only [Except.pure_eq_ok, Prod.mk.injEq] at finished
    obtain ⟨-, rfl⟩ := finished
    obtain ⟨st₁, same, rfl, -⟩ := compose_ok composed
    cases opened.symm.trans same
    obtain ⟨params, rfl⟩ := ih restOk ((st.record name value false none).1.require name) (by rfl)
    exact ⟨params, rfl⟩

theorem paramsShown_ok {query encoding : String} {records : List (String × String × String)}
    (ok : c.paramsShown confidential query encoding = .ok (records, c')) :
    ∃ st params, c.request = some st ∧ c' = { c with request := some { st with parameters := params } } := by
  unfold paramsShown at ok
  split at ok
  · simp at ok
  · split at ok
    · simp at ok
    · rename_i opened
      obtain ⟨st, openedAt⟩ := Option.ne_none_iff_exists'.mp (by simpa using opened)
      obtain ⟨decoded, -, recorded⟩ := Except.bind_eq_ok.mp ok
      obtain ⟨params, done⟩ := pairsShown_ok recorded st openedAt
      exact ⟨st, params, openedAt, done⟩

theorem call_startPage (ok : c.call g s .startPage = .ok (notes, c', g', s')) :
    (c.phase = .idle ∨ c.phase = .sealed) ∧ notes = [.pageStarted g.ids.next] ∧
      c' = { c with page := some { id := g.ids.next, nonce := Hex.encode (g.entropy.bytes 8).1 },
                    scopes := [], phase := .pageStarted } ∧
      g' = { g with ids := ⟨g.ids.next + 1⟩, entropy := (g.entropy.bytes 8).2 } ∧ s' = s := by
  simp only [call, Except.map_eq_ok] at ok
  obtain ⟨⟨c₁, g₁⟩, started, done⟩ := ok
  simp only [Prod.mk.injEq] at done
  obtain ⟨rfl, rfl, rfl, rfl⟩ := done
  unfold startPage at started
  split at started
  · simp at started
  · simp at started
  all_goals
    simp only [Except.pure_eq_ok, Prod.mk.injEq] at started
    obtain ⟨rfl, rfl⟩ := started
    simp_all

theorem call_startScope {scope : Scope} (ok : c.call g s (.startScope scope) = .ok (notes, c', g', s')) :
    c.phase = .pageStarted ∧ notes = [] ∧ c' = { c with scopes := scope :: c.scopes } ∧ g' = g ∧ s' = s := by
  simp only [call, Except.map_eq_ok, startScope, Except.bind_eq_ok, Except.pure_eq_ok] at ok
  obtain ⟨c₁, ⟨u, required, rfl⟩, done⟩ := ok
  simp only [Prod.mk.injEq] at done
  obtain ⟨rfl, rfl, rfl, rfl⟩ := done
  exact ⟨requirePage_ok required, rfl, rfl, rfl, rfl⟩

theorem call_endScope (ok : c.call g s .endScope = .ok (notes, c', g', s')) :
    c.phase = .pageStarted ∧ notes = [] ∧ (∃ scope, c.scopes = scope :: c'.scopes) ∧
      c' = { c with scopes := c'.scopes } ∧ g' = g ∧ s' = s := by
  simp only [call, Except.map_eq_ok, endScope, Except.bind_eq_ok] at ok
  obtain ⟨⟨closed, c₁⟩, ⟨u, required, popped⟩, done⟩ := ok
  simp only [Prod.mk.injEq] at done
  obtain ⟨rfl, rfl, rfl, rfl⟩ := done
  split at popped
  · simp at popped
  · rename_i scope rest scopes
    simp only [Except.pure_eq_ok, Prod.mk.injEq] at popped
    obtain ⟨rfl, rfl⟩ := popped
    exact ⟨requirePage_ok required, rfl, ⟨scope, scopes⟩, rfl, rfl, rfl⟩

theorem call_beginRequest {method : Method} {action : String}
    (ok : c.call g s (.beginRequest method action) = .ok (notes, c', g', s')) :
    c.phase = .pageStarted ∧ notes = [.requestOpened] ∧ c.beginRequest method action = .ok c' ∧
      g' = g ∧ s' = s := by
  simp only [call, Except.map_eq_ok] at ok
  obtain ⟨c₁, opened, done⟩ := ok
  simp only [Prod.mk.injEq] at done
  obtain ⟨rfl, rfl, rfl, rfl⟩ := done
  exact ⟨(beginRequest_ok opened).1, rfl, opened, rfl, rfl⟩

theorem call_compose (ok : c.call g s (.compose name value editable dataType) = .ok (notes, c', g', s')) :
    ∃ shown, c.compose g.config.confidentiality name value editable dataType = .ok (shown, c') ∧
      notes = [.recorded name value shown] ∧ g' = g ∧ s' = s := by
  simp only [call, Except.map_eq_ok] at ok
  obtain ⟨⟨shown, c₁⟩, composed, done⟩ := ok
  simp only [Prod.mk.injEq] at done
  obtain ⟨rfl, rfl, rfl, rfl⟩ := done
  exact ⟨shown, composed, rfl, rfl, rfl⟩

theorem call_composeFor {action : String}
    (ok : c.call g s (.composeFor action name value editable dataType) = .ok (notes, c', g', s')) :
    ∃ shown, c.composeFor g.config.confidentiality action name value editable dataType = .ok (shown, c') ∧
      notes = (if c.request.isNone then [.requestOpened] else []) ++ [.recorded name value shown] ∧
      g' = g ∧ s' = s := by
  simp only [call, Except.map_eq_ok] at ok
  obtain ⟨⟨shown, c₁⟩, composed, done⟩ := ok
  simp only [Prod.mk.injEq] at done
  obtain ⟨rfl, rfl, rfl, rfl⟩ := done
  exact ⟨shown, composed, rfl, rfl, rfl⟩

theorem call_composeParams {query encoding : String}
    (ok : c.call g s (.composeParams query encoding) = .ok (notes, c', g', s')) :
    ∃ records, c.paramsShown g.config.confidentiality query encoding = .ok (records, c') ∧
      notes = records.map (fun (name, value, shown) => .recorded name value shown) ∧ g' = g ∧ s' = s := by
  simp only [call, Except.map_eq_ok] at ok
  obtain ⟨⟨records, c₁⟩, composed, done⟩ := ok
  simp only [Prod.mk.injEq] at done
  obtain ⟨rfl, rfl, rfl, rfl⟩ := done
  exact ⟨records, composed, rfl, rfl, rfl⟩

theorem call_addFlow {flow : String} (ok : c.call g s (.addFlow flow) = .ok (notes, c', g', s')) :
    (c.phase = .pageStarted ∨ c.phase = .requestOpen) ∧ notes = [] ∧
      (∃ D, c.page = some D ∧
        c' = { c with page := some { D with flows := if D.flows.contains flow then D.flows else D.flows ++ [flow] } }) ∧
      g' = g ∧ s' = s := by
  simp only [call, Except.map_eq_ok, addFlow] at ok
  obtain ⟨c₁, added, done⟩ := ok
  simp only [Prod.mk.injEq] at done
  obtain ⟨rfl, rfl, rfl, rfl⟩ := done
  split at added
  · rename_i D started drafted
    simp only [Except.pure_eq_ok] at added
    exact ⟨.inl started, rfl, ⟨D, drafted, added.symm⟩, rfl, rfl⟩
  · rename_i D opened drafted
    simp only [Except.pure_eq_ok] at added
    exact ⟨.inr opened, rfl, ⟨D, drafted, added.symm⟩, rfl, rfl⟩
  · simp at added

theorem call_endRequest (ok : c.call g s .endRequest = .ok (notes, c', g', s')) :
    ∃ st D token, c.request = some st ∧ c.page = some D ∧ notes = [.issued token st] ∧
      c' = { c with request := none, page := some { D with states := D.states ++ [st] },
                    phase := .pageStarted } ∧ s' = s ∧
      (g.config.strategy = .memory →
        token = ⟨st.scope, .memory D.id st.index.toUInt64 D.nonce⟩ ∧ g' = g) ∧
      (g.config.strategy = .cipher →
        token = (SealedState.mk st.scope D.id st).toToken
          (if st.scope = .application then g.appKey else s.key) (g.entropy.bytes Cipher.nonceLength).1 ∧
        g' = { g with entropy := (g.entropy.bytes Cipher.nonceLength).2 }) := by
  simp only [call, Except.map_eq_ok] at ok
  obtain ⟨⟨token, c₁, g₁⟩, closed, done⟩ := ok
  simp only [Prod.mk.injEq] at done
  obtain ⟨rfl, rfl, rfl, rfl⟩ := done
  unfold endRequest at closed
  split at closed
  · rename_i st D opened drafted
    simp only [Except.pure_eq_ok, Prod.mk.injEq] at closed
    obtain ⟨issued, rfl, guarded⟩ := closed
    refine ⟨st, D, token, opened, drafted, by simp [opened], rfl, rfl, ?_, ?_⟩
    · intro memory
      simp only [memory] at issued guarded
      exact ⟨issued.symm, guarded.symm⟩
    · intro cipher
      simp only [cipher] at issued guarded
      exact ⟨issued.symm, guarded.symm⟩
  · simp at closed

theorem call_endPage (ok : c.call g s .endPage = .ok (notes, c', g', s')) :
    c.phase = .pageStarted ∧ c.scopes = [] ∧ c.page.isSome ∧
      c' = { c with page := none, phase := .sealed } ∧ notes = (c.storedPage g).toList.map .stored ∧
      match c.storedPage g with
      | some p => g' = g.store p ∧ s' = s.store p
      | none => g' = g ∧ s' = s := by
  simp only [call, Except.map_eq_ok] at ok
  obtain ⟨⟨c₁, g₁, s₁⟩, ended, done⟩ := ok
  simp only [Prod.mk.injEq] at done
  obtain ⟨rfl, rfl, rfl, rfl⟩ := done
  simp only [endPage, Except.bind_eq_ok] at ended
  obtain ⟨u, required, ended⟩ := ended
  split at ended
  · simp at ended
  · rename_i balanced
    split at ended
    · simp at ended
    · rename_i D drafted
      refine ⟨requirePage_ok required, by simpa using balanced, by simp [drafted], ?_⟩
      split at ended
      · rename_i unstored
        simp only [Except.pure_eq_ok, Prod.mk.injEq] at ended
        obtain ⟨rfl, rfl, rfl⟩ := ended
        simp [storedPage, drafted, unstored]
      · rename_i stored
        simp only [Except.pure_eq_ok, Prod.mk.injEq] at ended
        obtain ⟨rfl, rfl, rfl⟩ := ended
        simp only [Bool.or_eq_true, decide_eq_true_eq, not_or] at stored
        simp [storedPage, drafted, stored, Guard.store, Session.store]

/-- A composer whose phase agrees with what it holds (a page exactly while a page is started or a
request is open, a request exactly while one is open), whose page numbers its states by position,
the open request taking the next position, and whose page's nonce is a run of hexadecimal digits. -/
structure Coherent (c : Composer) : Prop where
  drafting : c.page.isSome ↔ c.phase = .pageStarted ∨ c.phase = .requestOpen
  requesting : c.request.isSome ↔ c.phase = .requestOpen
  numbered : ∀ (D : PageDraft), c.page = some D → ∀ j (st : State), D.states[j]? = some st → st.index = j
  nextIndex : ∀ (D : PageDraft) (st : State), c.page = some D → c.request = some st →
    st.index = D.states.length
  nonce : ∀ (D : PageDraft), c.page = some D → StateToken.validNonce D.nonce.toList = true

theorem coherent_empty : ({} : Composer).Coherent where
  drafting := by simp
  requesting := by simp
  numbered := by simp
  nextIndex := by simp
  nonce := by simp

/-- Coherence reads only the phase, the page and the request. -/
theorem Coherent.of_eq (coherent : c.Coherent) (phase : c'.phase = c.phase) (page : c'.page = c.page)
    (request : c'.request = c.request) : c'.Coherent where
  drafting := by rw [phase, page]; exact coherent.drafting
  requesting := by rw [phase, request]; exact coherent.requesting
  numbered := by rw [page]; exact coherent.numbered
  nextIndex := by rw [page, request]; exact coherent.nextIndex
  nonce := by rw [page]; exact coherent.nonce

/-- Changing the parameters of the open request keeps a composer coherent. -/
theorem Coherent.withParameters (coherent : c.Coherent) {st : State} (opened : c.request = some st)
    (params : NameMap Parameter) :
    ({ c with request := some { st with parameters := params } } : Composer).Coherent where
  drafting := coherent.drafting
  requesting := by simpa [opened] using coherent.requesting
  numbered := coherent.numbered
  nextIndex D st' drafted reopened := by
    cases reopened
    exact coherent.nextIndex D st drafted opened
  nonce := coherent.nonce

theorem Coherent.beginRequest {method : Method} {action : String} (coherent : c.Coherent)
    (ok : c.beginRequest method action = .ok c') : c'.Coherent := by
  obtain ⟨started, -, rfl⟩ := beginRequest_ok ok
  obtain ⟨D, drafted⟩ := Option.isSome_iff_exists.mp (coherent.drafting.mpr (.inl started))
  exact {
    drafting := by simp [drafted]
    requesting := by simp
    numbered := coherent.numbered
    nextIndex := by
      intro D' st redrafted opened
      cases drafted.symm.trans redrafted
      simp only [Option.some.injEq] at opened
      simp [← opened, drafted]
    nonce := coherent.nonce }

theorem Coherent.compose (coherent : c.Coherent)
    (ok : c.compose confidential name value editable dataType = .ok (shown, c')) : c'.Coherent := by
  obtain ⟨st, opened, rfl, -⟩ := compose_ok ok
  exact coherent.withParameters opened _

/-- Every composer call keeps a composer coherent. -/
theorem Coherent.call {cc : ComposerCall} (coherent : c.Coherent)
    (ok : c.call g s cc = .ok (notes, c', g', s')) : c'.Coherent := by
  cases cc with
  | startPage =>
    obtain ⟨idle, -, rfl, -⟩ := call_startPage ok
    have noPage : c.page = none := by
      simpa using mt coherent.drafting.mp (by rcases idle with idle | idle <;> simp [idle])
    have noRequest : c.request = none := by
      simpa using mt coherent.requesting.mp (by rcases idle with idle | idle <;> simp [idle])
    exact {
      drafting := by simp
      requesting := by simp [noRequest]
      numbered := by simp
      nextIndex := by simp [noRequest]
      -- the nonce is eight drawn octets in hexadecimal
      nonce := by
        intro D drafted
        cases drafted
        refine StateToken.validNonce_encode fun none => ?_
        simpa [none] using Entropy.length_bytes g.entropy 8 }
  | startScope scope =>
    obtain ⟨-, -, rfl, -⟩ := call_startScope ok
    exact coherent.of_eq rfl rfl rfl
  | endScope =>
    obtain ⟨-, -, -, same, -⟩ := call_endScope ok
    rw [same]
    exact coherent.of_eq rfl rfl rfl
  | beginRequest method action =>
    exact coherent.beginRequest (call_beginRequest ok).2.2.1
  | compose name value editable dataType =>
    obtain ⟨shown, composed, -⟩ := call_compose ok
    exact coherent.compose composed
  | composeFor action name value editable dataType =>
    obtain ⟨shown, composed, -⟩ := call_composeFor ok
    have steps := composeFor_ok composed
    split at steps
    · exact coherent.compose steps.2
    · obtain ⟨c₁, opened, composed₁⟩ := steps
      exact (coherent.beginRequest opened).compose composed₁
  | composeParams query encoding =>
    obtain ⟨records, composed, -⟩ := call_composeParams ok
    obtain ⟨st, params, opened, rfl⟩ := paramsShown_ok composed
    exact coherent.withParameters opened params
  | addFlow flow =>
    obtain ⟨-, -, ⟨D, drafted, rfl⟩, -⟩ := call_addFlow ok
    exact {
      drafting := by simpa [drafted] using coherent.drafting
      requesting := coherent.requesting
      numbered := by
        intro D' redrafted
        cases redrafted
        exact coherent.numbered D drafted
      nextIndex := by
        intro D' st redrafted opened
        cases redrafted
        exact coherent.nextIndex D st drafted opened
      nonce := by
        intro D' redrafted
        cases redrafted
        exact coherent.nonce D drafted }
  | endRequest =>
    obtain ⟨st, D, token, opened, drafted, -, rfl, -⟩ := call_endRequest ok
    have next := coherent.nextIndex D st drafted opened
    exact {
      drafting := by simp
      requesting := by simp
      numbered := by
        intro D' redrafted j st' found
        cases redrafted
        rw [List.getElem?_append] at found
        split at found
        · exact coherent.numbered D drafted j st' found
        · rename_i beyond
          cases offset : j - D.states.length with
          | zero =>
            simp only [offset, List.getElem?_cons_zero, Option.some.injEq] at found
            subst found
            omega
          | succ k => simp [offset] at found
      nextIndex := by simp
      nonce := by
        intro D' redrafted
        cases redrafted
        exact coherent.nonce D drafted }
  | endPage =>
    obtain ⟨started, -, -, rfl, -⟩ := call_endPage ok
    have noRequest : c.request = none := by
      simpa using mt coherent.requesting.mp (by simp [started])
    exact {
      drafting := by simp
      requesting := by simp [noRequest]
      numbered := by simp
      nextIndex := by simp
      nonce := by simp }

/-- Every call but starting a page, closing a request and ending a page keeps the drafted page's
id, nonce and states, leaves the guard and the session alone, and notes only what it did to the
open request. -/
theorem call_keepsPage {cc : ComposerCall} (keeps : cc.keepsPage)
    (ok : c.call g s cc = .ok (notes, c', g', s')) :
    g' = g ∧ s' = s ∧ c'.page.map PageDraft.contents = c.page.map PageDraft.contents ∧
      ∀ note ∈ notes, note.aboutRequest := by
  cases cc with
  | startPage | endRequest | endPage => simp [ComposerCall.keepsPage] at keeps
  | startScope scope =>
    obtain ⟨-, rfl, rfl, rfl, rfl⟩ := call_startScope ok
    simp
  | endScope =>
    obtain ⟨-, rfl, -, same, rfl, rfl⟩ := call_endScope ok
    rw [same]
    simp
  | beginRequest method action =>
    obtain ⟨-, rfl, opened, rfl, rfl⟩ := call_beginRequest ok
    obtain ⟨-, -, rfl⟩ := beginRequest_ok opened
    simp [Note.aboutRequest]
  | compose name value editable dataType =>
    obtain ⟨shown, composed, rfl, rfl, rfl⟩ := call_compose ok
    obtain ⟨st, -, rfl, -⟩ := compose_ok composed
    simp [Note.aboutRequest]
  | composeFor action name value editable dataType =>
    obtain ⟨shown, composed, rfl, rfl, rfl⟩ := call_composeFor ok
    refine ⟨rfl, rfl, ?_, by split <;> simp [Note.aboutRequest]⟩
    have steps := composeFor_ok composed
    split at steps
    · obtain ⟨st, -, rfl, -⟩ := compose_ok steps.2
      rfl
    · obtain ⟨c₁, opened, composed₁⟩ := steps
      obtain ⟨-, -, rfl⟩ := beginRequest_ok opened
      obtain ⟨st, -, rfl, -⟩ := compose_ok composed₁
      rfl
  | composeParams query encoding =>
    obtain ⟨records, composed, rfl, rfl, rfl⟩ := call_composeParams ok
    obtain ⟨st, params, -, rfl⟩ := paramsShown_ok composed
    refine ⟨rfl, rfl, rfl, ?_⟩
    intro note noted
    obtain ⟨⟨name, value, shown⟩, -, rfl⟩ := List.mem_map.mp noted
    rfl
  | addFlow flow =>
    obtain ⟨-, rfl, ⟨D, drafted, rfl⟩, rfl, rfl⟩ := call_addFlow ok
    simp [drafted, PageDraft.contents]

/-- No composer call changes the configuration. -/
theorem call_config {cc : ComposerCall} (ok : c.call g s cc = .ok (notes, c', g', s')) :
    g'.config = g.config := by
  by_cases keeps : cc.keepsPage
  · rw [(call_keepsPage keeps ok).1]
  · cases cc with
    | startPage => rw [(call_startPage ok).2.2.2.1]
    | endRequest =>
      obtain ⟨st, D, token, -, -, -, -, -, memory, cipher⟩ := call_endRequest ok
      cases strategy : g.config.strategy with
      | memory => rw [(memory strategy).2]
      | cipher => rw [(cipher strategy).2]
    | endPage =>
      obtain ⟨-, -, -, -, -, stored⟩ := call_endPage ok
      split at stored
      · rw [stored.1, Guard.store_config]
      · rw [stored.1]
    | _ => simp [ComposerCall.keepsPage] at keeps

/-- A composer call touches a cache only by ending a page that is stored; any other call leaves
the session and the application cache alone and notes no stored page. -/
theorem call_caches {cc : ComposerCall} (ok : c.call g s cc = .ok (notes, c', g', s')) :
    (s' = s ∧ g'.appPages = g.appPages ∧ ∀ p, Note.stored p ∉ notes) ∨
    (∃ p, c.storedPage g = some p ∧ notes = [.stored p] ∧ g' = g.store p ∧ s' = s.store p) := by
  by_cases keeps : cc.keepsPage
  · obtain ⟨rfl, rfl, -, about⟩ := call_keepsPage keeps ok
    exact .inl ⟨rfl, rfl, fun p noted => by simpa [Note.aboutRequest] using about _ noted⟩
  · cases cc with
    | startPage =>
      obtain ⟨-, rfl, -, rfl, rfl⟩ := call_startPage ok
      exact .inl ⟨rfl, rfl, by simp⟩
    | endRequest =>
      obtain ⟨st, D, token, -, -, rfl, -, rfl, memory, cipher⟩ := call_endRequest ok
      -- sealing draws at most from the entropy
      have sameApp : g'.appPages = g.appPages := by
        cases strategy : g.config.strategy with
        | memory => rw [(memory strategy).2]
        | cipher => rw [(cipher strategy).2]
      exact .inl ⟨rfl, sameApp, by simp⟩
    | endPage =>
      obtain ⟨-, -, -, -, rfl, stored⟩ := call_endPage ok
      cases storedAt : c.storedPage g with
      | none =>
        rw [storedAt] at stored
        obtain ⟨rfl, rfl⟩ := stored
        exact .inl ⟨rfl, rfl, by simp⟩
      | some p =>
        rw [storedAt] at stored
        exact .inr ⟨p, rfl, by simp, stored⟩
    | _ => simp [ComposerCall.keepsPage] at keeps

theorem storedPage_eq_some {p : Page} (stored : c.storedPage g = some p) :
    ∃ D, c.page = some D ∧ p = ⟨D.id, D.nonce, D.states, D.flows⟩ ∧ D.states ≠ [] ∧
      g.config.strategy = .memory := by
  unfold storedPage at stored
  split at stored
  · rename_i D drafted
    split at stored
    · cases stored
    · rename_i kept
      simp only [Bool.or_eq_true, List.isEmpty_iff, decide_eq_true_eq, not_or] at kept
      cases strategy : g.config.strategy with
      | memory => exact ⟨D, drafted, (Option.some.inj stored).symm, kept.1, rfl⟩
      | cipher => exact absurd strategy kept.2
  · cases stored

end Composer

namespace Deployment

/-- No call changes the configuration. -/
theorem step_config (d : Deployment) (call : Call) : (d.step call).1.guard.config = d.guard.config := by
  rcases stepped : d.step call with ⟨d', events⟩
  rcases step_cases stepped with ⟨rfl, -⟩ | ⟨id, rfl, -⟩ | ⟨session, -, rfl, -⟩ |
      ⟨handle, owner, c, s, cc, notes, c', g', s', -, -, ok, rfl, -⟩ | ⟨session, s, -, rfl, -⟩ |
      ⟨session, s, flow, -, rfl, -⟩
  all_goals simp
  exact Composer.call_config ok

theorem run_config (d : Deployment) (calls : List Call) :
    (d.run calls).1.guard.config = d.guard.config :=
  @run_preserves (fun d' _ => d'.guard.config = d.guard.config)
    (fun d' _ call same => (step_config d' call).trans same) d [] rfl calls

end Deployment

end FormIntegrity
