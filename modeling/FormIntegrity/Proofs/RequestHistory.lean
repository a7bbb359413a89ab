import FormIntegrity.Proofs.Recording
import FormIntegrity.Proofs.CacheHistory

/-!
# What an issued state records

A composer records values into the request it holds open, and closing the request issues a token
for its state. The trace shows it: after the event in which a composer opened a request, the events
up to the token it issued hold the values it recorded into that request, each with the text it
handed out, and the issued state records exactly those values (`Records`).

The invariant of every run (`Requests`) says so for the request every composer holds open and for
every state issued in the trace, and bounds the position of each state on its page by the length of
the trace. A request is found in the trace by its opening event, the last one of its composer before
the point looked at; since a composer opens a request only while none is open, the events after it
belong to that request until its token is issued.
-/

namespace FormIntegrity

namespace Event

/-- The value, with the text shown for it, that composer `handle` recorded in an event. -/
def recordedBy (handle : Nat) : Event → Option (String × String × String)
  | .composer h _ (.recorded name value shown) => if h = handle then some (name, value, shown) else none
  | _ => none

/-- Whether composer `handle` opened a request target in an event. -/
def opensRequest (handle : Nat) : Event → Bool
  | .composer h _ .requestOpened => h == handle
  | _ => false

end Event

namespace Composer

variable {c c' : Composer} {g g' : Guard} {s s' : Session} {notes : List Note} {cc : ComposerCall}

/-- A call that issues a token closes the open request, whose state the token is for, and notes
nothing else. -/
theorem call_issued (ok : c.call g s cc = .ok (notes, c', g', s')) {token : StateToken} {st : State}
    (noted : Note.issued token st ∈ notes) :
    cc = .endRequest ∧ c.request = some st ∧ notes = [.issued token st] ∧ ∃ D, c.page = some D := by
  by_cases keeps : cc.keepsPage
  · simpa [Note.aboutRequest] using (call_keepsPage keeps ok).2.2.2 _ noted
  · cases cc with
    | startPage =>
      obtain ⟨-, rfl, -⟩ := call_startPage ok
      simp at noted
    | endRequest =>
      obtain ⟨st', D, token', opened, drafted, rfl, -⟩ := call_endRequest ok
      simp only [List.mem_singleton, Note.issued.injEq] at noted
      obtain ⟨rfl, rfl⟩ := noted
      exact ⟨rfl, opened, rfl, D, drafted⟩
    | endPage =>
      obtain ⟨-, -, -, -, rfl, -⟩ := call_endPage ok
      simp at noted
    | _ => simp [ComposerCall.keepsPage] at keeps

/-- A call adds at most one state to the drafted page for each note it leaves. -/
theorem call_states (ok : c.call g s cc = .ok (notes, c', g', s')) {D' : PageDraft}
    (drafted : c'.page = some D') :
    D'.states.length ≤ (c.page.map (·.states.length)).getD 0 + notes.length := by
  by_cases keeps : cc.keepsPage
  · obtain ⟨-, -, same, -⟩ := call_keepsPage keeps ok
    rw [drafted, Option.map_some] at same
    obtain ⟨D, before, contents⟩ := Option.map_eq_some_iff.mp same.symm
    simp only [PageDraft.contents, Prod.mk.injEq] at contents
    simp [before, contents.2.2]
  · cases cc with
    | startPage =>
      obtain ⟨-, -, rfl, -⟩ := call_startPage ok
      cases drafted
      simp
    | endRequest =>
      obtain ⟨st, D, token, -, before, rfl, rfl, -⟩ := call_endRequest ok
      cases drafted
      simp [before]
    | endPage =>
      obtain ⟨-, -, -, rfl, -⟩ := call_endPage ok
      cases drafted
    | _ => simp [ComposerCall.keepsPage] at keeps

end Composer

namespace Deployment

/-- The values composer `handle` recorded in some events, in order, each with the text shown for
it. -/
def recordsOf (handle : Nat) (events : List Event) : List (String × String × String) :=
  events.filterMap (Event.recordedBy handle)

@[simp] theorem recordsOf_nil (handle : Nat) : recordsOf handle [] = [] := rfl

@[simp] theorem recordsOf_append (handle : Nat) (events more : List Event) :
    recordsOf handle (events ++ more) = recordsOf handle events ++ recordsOf handle more := by
  simp [recordsOf, List.filterMap_append]

theorem length_recordsOf_le (handle : Nat) (events : List Event) :
    (recordsOf handle events).length ≤ events.length :=
  List.length_filterMap_le _ _

/-- The notes of a value recorded with its text, as the events of one composer. -/
theorem recordsOf_recorded (handle owner : Nat) (recs : List (String × String × String)) :
    recordsOf handle ((recs.map fun (n, v, sh) => Note.recorded n v sh).map (.composer handle owner)) =
      recs := by
  induction recs with
  | nil => rfl
  | cons head rest ih =>
    obtain ⟨n, v, sh⟩ := head
    simpa [recordsOf, Event.recordedBy] using ih

/-- Notes that are not about the open request record nothing. -/
theorem recordsOf_unrelated {notes : List Note} (unrelated : ∀ note ∈ notes, note.aboutRequest = false)
    (handle h owner : Nat) : recordsOf handle (notes.map (.composer h owner)) = [] := by
  simp only [recordsOf, List.filterMap_eq_nil_iff, List.mem_map]
  rintro e ⟨note, noted, rfl⟩
  have := unrelated note noted
  cases note <;> simp_all [Note.aboutRequest, Event.recordedBy]

/-- Another composer's notes record nothing for `handle`. -/
theorem recordsOf_other {handle h : Nat} (apart : h ≠ handle) (owner : Nat) (notes : List Note) :
    recordsOf handle (notes.map (.composer h owner)) = [] := by
  simp only [recordsOf, List.filterMap_eq_nil_iff, List.mem_map]
  rintro e ⟨note, -, rfl⟩
  cases note <;> simp [Event.recordedBy, apart]

/-- The request a composer holds open, as the trace shows it: opened in an event after which the
composer opened no other, and recording what the composer recorded since. -/
def OpenedIn (confidential : Bool) (trace : List Event) (handle owner : Nat) (st : State) : Prop :=
  ∃ before middle, trace = before ++ Event.composer handle owner .requestOpened :: middle ∧
    (∀ e ∈ middle, e.opensRequest handle = false) ∧ Records confidential st (recordsOf handle middle)

/-- A split of a list at the last element with a property is unique. -/
theorem split_last_unique {α : Type} {p : α → Bool} {before middle before' middle' : List α} {x x' : α}
    (split : before ++ x :: middle = before' ++ x' :: middle') (marked : p x = true) (marked' : p x' = true)
    (after : ∀ e ∈ middle, p e = false) (after' : ∀ e ∈ middle', p e = false) :
    before = before' ∧ x = x' ∧ middle = middle' := by
  rcases List.append_eq_append_iff.mp split with ⟨rest, rfl, tail⟩ | ⟨rest, rfl, tail⟩
  · cases rest with
    | nil =>
      simp only [List.nil_append, List.cons.injEq] at tail
      exact ⟨by simp, tail.1, tail.2⟩
    | cons y rest =>
      simp only [List.cons_append, List.cons.injEq] at tail
      have later : x' ∈ middle := by simp [tail.2]
      simp [after x' later] at marked'
  · cases rest with
    | nil =>
      simp only [List.nil_append, List.cons.injEq] at tail
      exact ⟨by simp, tail.1.symm, tail.2.symm⟩
    | cons y rest =>
      simp only [List.cons_append, List.cons.injEq] at tail
      have later : x ∈ middle' := by simp [tail.2]
      simp [after' x later] at marked

variable {confidential : Bool} {trace : List Event} {handle owner : Nat} {st : State}

/-- Events that open no request of the composer extend its open request by what they record. -/
theorem OpenedIn.append (opened : OpenedIn confidential trace handle owner st) {more : List Event}
    (quiet : ∀ e ∈ more, e.opensRequest handle = false) {st' : State}
    (extend : ∀ records, Records confidential st records →
      Records confidential st' (records ++ recordsOf handle more)) :
    OpenedIn confidential (trace ++ more) handle owner st' := by
  obtain ⟨before, middle, rfl, quietBefore, recorded⟩ := opened
  refine ⟨before, middle ++ more, by simp, fun e member => ?_, by simpa using extend _ recorded⟩
  rcases List.mem_append.mp member with old | new
  · exact quietBefore e old
  · exact quiet e new

/-- The events of another composer leave a composer's open request alone. -/
theorem OpenedIn.other (opened : OpenedIn confidential trace handle owner st) {h : Nat}
    (apart : h ≠ handle) (o : Nat) (notes : List Note) :
    OpenedIn confidential (trace ++ notes.map (.composer h o)) handle owner st := by
  refine opened.append (fun e member => ?_) fun records recorded => by
    simpa [recordsOf_other apart] using recorded
  obtain ⟨note, -, rfl⟩ := List.mem_map.mp member
  cases note <;> simp [Event.opensRequest, apart]

/-- Events of no composer leave every open request alone. -/
theorem OpenedIn.quiet (opened : OpenedIn confidential trace handle owner st) {more : List Event}
    (noComposer : ∀ e ∈ more, ∀ h o note, e ≠ .composer h o note) :
    OpenedIn confidential (trace ++ more) handle owner st := by
  have quietMore : ∀ e ∈ more, e.opensRequest handle = false ∧ e.recordedBy handle = none := by
    intro e member
    cases e with
    | composer h o note => exact absurd rfl (noComposer _ member h o note)
    | invalidated => exact ⟨rfl, rfl⟩
    | flowEnded => exact ⟨rfl, rfl⟩
  refine opened.append (fun e member => (quietMore e member).1) fun records recorded => ?_
  have nothing : recordsOf handle more = [] :=
    List.filterMap_eq_nil_iff.mpr fun e member => (quietMore e member).2
  simpa [nothing] using recorded

/-- The invariant of every run that ties requests to what their composers recorded: composers stay
coherent; the request a composer holds open records what the composer recorded since it opened it;
the page a composer drafts has no more states than the trace has events; and every state issued in
the trace records what its composer recorded since it opened its request, and has a position below
the length of the trace. -/
structure Requests (d : Deployment) (trace : List Event) : Prop where
  coherent : ∀ (handle owner : Nat) (c : Composer), d.composers[handle]? = some (owner, c) → c.Coherent
  opened : ∀ (handle owner : Nat) (c : Composer) (st : State), d.composers[handle]? = some (owner, c) →
    c.request = some st → OpenedIn d.guard.config.confidentiality trace handle owner st
  drafts : ∀ (handle owner : Nat) (c : Composer) (D : PageDraft), d.composers[handle]? = some (owner, c) →
    c.page = some D → D.states.length ≤ trace.length
  issued : ∀ (before middle after : List Event) (handle owner : Nat) (token : StateToken) (st : State),
    trace = before ++ Event.composer handle owner .requestOpened :: middle ++
      Event.composer handle owner (.issued token st) :: after →
    (∀ e ∈ middle, e.opensRequest handle = false) →
    Records d.guard.config.confidentiality st (recordsOf handle middle) ∧ st.index < trace.length

theorem requests_init (config : Config) (appKey : CipherKey) (entropy : Entropy) :
    (init config appKey entropy).Requests [] where
  coherent := by simp [init]
  opened := by simp [init]
  drafts := by simp [init]
  issued := by simp

variable {d : Deployment}

/-- A state issued in a trace grown by some events was issued before them, or among them. -/
theorem Requests.issued_append (requests : d.Requests trace) {more before middle after : List Event}
    {token : StateToken}
    (split : trace ++ more = before ++ Event.composer handle owner .requestOpened :: middle ++
      Event.composer handle owner (.issued token st) :: after)
    (quiet : ∀ e ∈ middle, e.opensRequest handle = false) :
    (Records d.guard.config.confidentiality st (recordsOf handle middle) ∧
      st.index < (trace ++ more).length) ∨
    ∃ pre, before ++ Event.composer handle owner .requestOpened :: middle = trace ++ pre ∧
      more = pre ++ Event.composer handle owner (.issued token st) :: after := by
  have regrouped : trace ++ more = (before ++ Event.composer handle owner .requestOpened :: middle) ++
      Event.composer handle owner (.issued token st) :: after := by
    simpa using split
  rcases split_append regrouped with ⟨mid, old, -⟩ | ⟨pre, grown, rest⟩
  · obtain ⟨recorded, below⟩ := requests.issued before middle mid handle owner token st
      (by simpa using old) quiet
    exact .inl ⟨recorded, by simp only [List.length_append]; omega⟩
  · exact .inr ⟨pre, grown, rest⟩

/-- Notes of a composer that are not about the open request neither open a request nor record a
value. -/
theorem quiet_unrelated {notes : List Note} (unrelated : ∀ note ∈ notes, note.aboutRequest = false)
    (h o : Nat) : ∀ e ∈ notes.map (Event.composer h o), e.opensRequest handle = false := by
  intro e member
  obtain ⟨note, noted, rfl⟩ := List.mem_map.mp member
  have := unrelated note noted
  cases note <;> simp_all [Note.aboutRequest, Event.opensRequest]

/-- Recorded values open no request. -/
theorem quiet_recorded (recs : List (String × String × String)) (h o : Nat) :
    ∀ e ∈ (recs.map fun (n, v, sh) => Note.recorded n v sh).map (Event.composer h o),
      e.opensRequest handle = false := by
  intro e member
  simp only [List.map_map, List.mem_map] at member
  obtain ⟨⟨n, v, sh⟩, -, rfl⟩ := member
  rfl

/-- A composer call keeps the invariant. -/
theorem Requests.call (requests : d.Requests trace) {c c' : Composer} {s s' : Session} {g' : Guard}
    {notes : List Note} {cc : ComposerCall} (found : d.composers[handle]? = some (owner, c))
    (ok : c.call d.guard s cc = .ok (notes, c', g', s')) :
    Requests { guard := g', sessions := d.sessions.set owner s',
               composers := d.composers.set handle (owner, c') }
      (trace ++ notes.map (.composer handle owner)) := by
  have config : g'.config = d.guard.config := Composer.call_config ok
  have coherent := requests.coherent handle owner c found
  refine ⟨?_, ?_, ?_, ?_⟩
  · intro h o c₀ found'
    rcases getElem?_set_eq_some found' with ⟨-, same⟩ | ⟨-, old⟩
    · cases same
      exact coherent.call ok
    · exact requests.coherent h o c₀ old
  · intro h o c₀ st found' opened
    simp only [config]
    rcases getElem?_set_eq_some found' with ⟨rfl, same⟩ | ⟨apart, old⟩
    · cases same
      rcases Composer.call_request ok with ⟨same, unrelated⟩ | ⟨st₀, token, -, closed, -⟩ |
          ⟨st₀, st₁, recs, before, after, rfl, extend⟩ | ⟨st₁, recs, after, rfl, recorded⟩
      · rw [same] at opened
        refine (requests.opened handle owner c st found opened).append
          (quiet_unrelated unrelated handle owner) fun records recorded => ?_
        simpa [recordsOf_unrelated unrelated] using recorded
      · simp [closed] at opened
      · rw [after, Option.some.injEq] at opened
        subst opened
        refine (requests.opened handle owner c st₀ found before).append (quiet_recorded recs handle owner)
          fun records recorded => ?_
        rw [recordsOf_recorded]
        exact extend records recorded
      · rw [after, Option.some.injEq] at opened
        subst opened
        refine ⟨trace, _, by simp, quiet_recorded recs handle owner, ?_⟩
        rw [recordsOf_recorded]
        exact recorded
    · exact (requests.opened h o c₀ st old opened).other apart owner notes
  · intro h o c₀ D found' drafted
    simp only [List.length_append, List.length_map]
    rcases getElem?_set_eq_some found' with ⟨-, same⟩ | ⟨-, old⟩
    · cases same
      have grown := Composer.call_states ok drafted
      cases before : c.page with
      | none => simp [before] at grown; omega
      | some D₀ =>
        have bound := requests.drafts handle owner c D₀ found before
        simp [before] at grown
        omega
    · have bound := requests.drafts h o c₀ D old drafted
      omega
  · intro before middle after h o token st split quiet
    simp only [config]
    rcases requests.issued_append split quiet with old | ⟨pre, grown, now⟩
    · exact old
    · -- the state issued by this call: its request is the one the composer held open
      obtain ⟨note, noted, named⟩ : ∃ note ∈ notes, Event.composer handle owner note =
          Event.composer h o (.issued token st) := by
        have member : Event.composer h o (.issued token st) ∈ notes.map (.composer handle owner) := by
          simp [now]
        simpa using member
      simp only [Event.composer.injEq] at named
      obtain ⟨rfl, rfl, rfl⟩ := named
      obtain ⟨-, opened, rfl, D, drafted⟩ := Composer.call_issued ok noted
      obtain ⟨rfl, rfl⟩ : pre = [] ∧ after = [] := by
        cases pre with
        | nil => simpa using now
        | cons x pre => simp at now
      rw [List.append_nil] at grown
      obtain ⟨before₀, middle₀, split₀, quiet₀, recorded⟩ := requests.opened handle owner c st found opened
      obtain ⟨-, -, rfl⟩ := split_last_unique (p := Event.opensRequest handle) (grown.trans split₀)
        (by simp [Event.opensRequest]) (by simp [Event.opensRequest]) quiet quiet₀
      have next := coherent.nextIndex D st drafted opened
      have bound := requests.drafts handle owner c D found drafted
      refine ⟨recorded, ?_⟩
      simp only [List.length_append, List.length_map, List.length_singleton]
      omega

/-- Every call keeps the invariant. -/
theorem Requests.step (requests : d.Requests trace) (call : Call) :
    (d.step call).1.Requests (trace ++ (d.step call).2) := by
  rcases stepped : d.step call with ⟨d', events⟩
  rcases step_cases stepped with ⟨rfl, rfl⟩ | ⟨id, rfl, rfl⟩ | ⟨session, -, rfl, rfl⟩ |
      ⟨handle, owner, c, s, cc, notes, c', g', s', found, -, ok, rfl, rfl⟩ |
      ⟨session, s, -, rfl, rfl⟩ | ⟨session, s, flow, -, rfl, rfl⟩
  · simpa using requests
  · rw [List.append_nil]
    exact ⟨requests.coherent, by simpa using requests.opened, requests.drafts, by simpa using requests.issued⟩
  · -- a new composer holds neither a page nor a request
    rw [List.append_nil]
    refine ⟨?_, ?_, ?_, requests.issued⟩
    · intro h o c₀ found'
      rw [List.getElem?_append] at found'
      split at found'
      · exact requests.coherent h o c₀ found'
      · cases offset : h - d.composers.length with
        | zero =>
          simp only [offset, List.getElem?_cons_zero, Option.some.injEq, Prod.mk.injEq] at found'
          rw [← found'.2]
          exact Composer.coherent_empty
        | succ k => simp [offset] at found'
    · intro h o c₀ st found' opened
      rw [List.getElem?_append] at found'
      split at found'
      · exact requests.opened h o c₀ st found' opened
      · cases offset : h - d.composers.length with
        | zero =>
          simp only [offset, List.getElem?_cons_zero, Option.some.injEq, Prod.mk.injEq] at found'
          rw [← found'.2] at opened
          cases opened
        | succ k => simp [offset] at found'
    · intro h o c₀ D found' drafted
      rw [List.getElem?_append] at found'
      split at found'
      · exact requests.drafts h o c₀ D found' drafted
      · cases offset : h - d.composers.length with
        | zero =>
          simp only [offset, List.getElem?_cons_zero, Option.some.injEq, Prod.mk.injEq] at found'
          rw [← found'.2] at drafted
          cases drafted
        | succ k => simp [offset] at found'
  · exact requests.call found ok
  · -- invalidating a session records nothing about requests
    refine ⟨requests.coherent, fun h o c₀ st found' opened => ?_,
      fun h o c₀ D found' drafted => ?_, fun before middle after h o token st split quiet => ?_⟩
    · exact (requests.opened h o c₀ st found' opened).quiet (by simp)
    · have := requests.drafts h o c₀ D found' drafted
      simp only [List.length_append, List.length_singleton]
      omega
    · rcases requests.issued_append split quiet with old | ⟨pre, -, now⟩
      · exact old
      · cases pre <;> simp at now
  · -- ending a flow records nothing about requests
    refine ⟨requests.coherent, fun h o c₀ st found' opened => ?_,
      fun h o c₀ D found' drafted => ?_, fun before middle after h o token st split quiet => ?_⟩
    · have quietFlow : ∀ e ∈ [Event.flowEnded session flow], ∀ h o note, e ≠ .composer h o note := by simp
      simpa using (requests.opened h o c₀ st found' opened).quiet quietFlow
    · have := requests.drafts h o c₀ D found' drafted
      simp only [List.length_append, List.length_singleton]
      omega
    · simp only [Guard.endFlow_config]
      rcases requests.issued_append split quiet with old | ⟨pre, -, now⟩
      · exact old
      · cases pre <;> simp at now

/-- Every run of a fresh guard keeps the invariant. -/
theorem requests_run (config : Config) (appKey : CipherKey) (entropy : Entropy) (calls : List Call) :
    ((init config appKey entropy).run calls).1.Requests ((init config appKey entropy).run calls).2 := by
  simpa using run_preserves Requests (fun _ _ call requests => requests.step call)
    (requests_init config appKey entropy) calls

end Deployment

end FormIntegrity
