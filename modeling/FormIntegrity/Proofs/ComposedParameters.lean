import FormIntegrity.Proofs.ComposedQuery
import FormIntegrity.Proofs.IntegrityCheck

/-!
# What composing values records and hands out

A request target's parameters are built one composed value at a time, by `compose`, `composeFor` and
`composeParams` on the open target. This module says what a whole sequence of such calls leaves and
returns, as a function of the values it composed (`Composed`), in order:

* the parameter of a name holds every value composed for it, in order; it is editable when some
  call for it let the user edit its value, and required when some query pair decoded to it; its kind
  of control is the first call's, replaced by the kind the first editable call names, if it names
  one (`Composed.parameter?`);
* each call hands out the text the page shows: with confidentiality on, the placeholder of the
  value's position among all its name's values while the name is still pinned after the call, the
  value otherwise; a query is handed back segment by segment, each raw pair kept when the page shows
  its value as itself and otherwise written with the shown text (`Composer.ValueCall.answers`).

The state of the open target tracks the composed values (`Tracks`): recording a value makes of its
name's parameter what one more value makes (`Composed.toParameter_append`), and marking a query
pair's name required only sets the flag. The main statement is `Composer.composeAll_records`.
-/

namespace FormIntegrity

/-- A value composed into a request target: the name of its parameter, the value, whether the call
let the user edit it, the kind of control it named, and whether it came from the action's query. -/
structure Composed where
  name : String
  value : String
  editable : Bool
  dataType : Option DataType
  fromQuery : Bool
  deriving DecidableEq, Repr

namespace Composed

/-- The values composed under a name, in order. -/
def ofName (es : List Composed) (n : String) : List Composed :=
  es.filter (·.name == n)

/-- The kind of control of a parameter composed by some values: the kind the first editable value
names, if it names one, and otherwise the first value's. -/
def kind (ms : List Composed) : Option DataType :=
  ((ms.find? (·.editable)).bind (·.dataType)).orElse fun _ => ms.head?.bind (·.dataType)

/-- The parameter a name's values make: the values in order, editable when one of them is, required
when one came from the query, and their kind of control. -/
def toParameter (n : String) (ms : List Composed) : Parameter :=
  { name := n, values := ms.map (·.value), editable := ms.any (·.editable),
    required := ms.any (·.fromQuery), dataType := kind ms }

/-- The parameter composed values make under a name, if a value was composed under it. -/
def parameter? (es : List Composed) (n : String) : Option Parameter :=
  if es.any (·.name == n) then some (toParameter n (ofName es n)) else none

/-- The text the page shows for a value composed after `prior`: with confidentiality on and its name
still pinned once it is composed, the placeholder of its position among the name's values; the value
itself otherwise. -/
def shown (confidential : Bool) (prior : List Composed) (e : Composed) : String :=
  if confidential && !((ofName prior e.name).any (·.editable) || e.editable) then
    Placeholder.write (ofName prior e.name).length
  else e.value

/-- The value a decoded query pair composes: pinned, of no kind, from the query. -/
def ofPair (pair : String × String × String × String) : Composed :=
  ⟨pair.2.2.1, pair.2.2.2, false, none, true⟩

variable {es ms : List Composed} {e : Composed} {n : String}

theorem ofName_append (more : List Composed) : ofName (es ++ more) n = ofName es n ++ ofName more n :=
  List.filter_append _ _

theorem ofName_singleton : ofName [e] n = if e.name = n then [e] else [] := by
  by_cases same : e.name = n <;> simp [ofName, same]

theorem ofName_eq_nil (absent : es.any (·.name == n) = false) : ofName es n = [] := by
  simpa [ofName, List.filter_eq_nil_iff] using absent

theorem ofName_ne_nil (present : es.any (·.name == n) = true) : ofName es n ≠ [] := by
  simpa [ofName, List.filter_eq_nil_iff] using present

theorem kind_singleton : kind [e] = e.dataType := by
  cases editable : e.editable <;> simp [kind, editable]

/-- One more value changes the kind only when it is the first editable one, and then only when it
names a kind. -/
theorem kind_append (nonempty : ms ≠ []) :
    kind (ms ++ [e]) =
      if e.editable && !ms.any (·.editable) then e.dataType.orElse fun _ => kind ms else kind ms := by
  have head : (ms ++ [e]).head? = ms.head? := List.head?_append_of_ne_nil _ nonempty
  unfold kind
  rw [List.find?_append, head]
  cases found : ms.find? (·.editable) with
  | some x =>
    -- an editable value came before, so the new one changes nothing
    have already : ms.any (·.editable) = true :=
      List.any_eq_true.mpr ⟨x, List.mem_of_find?_eq_some found, List.find?_some found⟩
    simp [already]
  | none =>
    have none_yet : ms.any (·.editable) = false := by
      simpa [List.find?_eq_none] using found
    cases editable : e.editable <;> simp [editable, none_yet]

theorem toParameter_singleton :
    toParameter n [e] =
      { name := n, values := [e.value], editable := e.editable, required := e.fromQuery,
        dataType := e.dataType } := by
  simp [toParameter, kind_singleton]

/-- One more value is appended to the parameter's values, makes it editable or required when it is,
and gives its kind to a parameter it makes editable, if it names one. -/
theorem toParameter_append (nonempty : ms ≠ []) :
    toParameter n (ms ++ [e]) =
      { toParameter n ms with
        values := (toParameter n ms).values ++ [e.value]
        editable := (toParameter n ms).editable || e.editable
        required := (toParameter n ms).required || e.fromQuery
        dataType := if e.editable && !(toParameter n ms).editable then
            e.dataType.orElse fun _ => (toParameter n ms).dataType
          else (toParameter n ms).dataType } := by
  simp only [toParameter, List.map_append, List.map_cons, List.map_nil, List.any_append,
    List.any_cons, List.any_nil, Bool.or_false, kind_append nonempty]
  rfl

theorem parameter?_append_of_ne (other : e.name ≠ n) : parameter? (es ++ [e]) n = parameter? es n := by
  have sameNamed : ofName (es ++ [e]) n = ofName es n := by
    simp [ofName_append, ofName_singleton, other]
  simp [parameter?, sameNamed, other]

theorem parameter?_append_self : parameter? (es ++ [e]) e.name = some (toParameter e.name (ofName es e.name ++ [e])) := by
  simp [parameter?, ofName_append, ofName_singleton]

end Composed

namespace State

open Composed

variable {st : State} {es : List Composed} {n v : String} {editable : Bool} {dataType : Option DataType}

/-- Declaring a name and appending a value to its parameter, as recording does, makes of the
parameter what one more value makes. -/
theorem declared_toParameter :
    { declared (Composed.parameter? es n) n editable dataType with
      values := (declared (Composed.parameter? es n) n editable dataType).values ++ [v] } =
      toParameter n (ofName es n ++ [⟨n, v, editable, dataType, false⟩]) := by
  cases present : es.any (·.name == n) with
  | false =>
    simp [Composed.parameter?, present, ofName_eq_nil present, declared, toParameter_singleton]
  | true =>
    simp only [Composed.parameter?, present, if_true, declared]
    rw [toParameter_append (ofName_ne_nil present)]
    cases editable <;> cases pinned : (toParameter n (ofName es n)).editable <;>
      simp [pinned, Parameter.markEditable]

end State

/-- A state tracks composed values: its parameters are the parameters the values make. -/
structure Tracks (st : State) (es : List Composed) : Prop where
  parameter? : ∀ n, st.parameter? n = Composed.parameter? es n

namespace Tracks

open Composed

variable {st : State} {es : List Composed} {n v : String} {editable : Bool} {dataType : Option DataType}

/-- A target with no parameters tracks no values. -/
theorem fresh (empty : st.parameters.entries = []) : Tracks st [] where
  parameter? n := by simp [State.parameter?, NameMap.find?, empty, Composed.parameter?]

/-- Recording a value tracks one more value, not from the query. -/
theorem record (tracks : Tracks st es) (n v : String) (editable : Bool) (dataType : Option DataType) :
    Tracks (st.record n v editable dataType).1 (es ++ [⟨n, v, editable, dataType, false⟩]) where
  parameter? k := by
    rw [State.parameter?_record, tracks.parameter? n]
    by_cases same : k = n
    · subst same
      rw [if_pos rfl, State.declared_toParameter]
      exact (parameter?_append_self (e := ⟨k, v, editable, dataType, false⟩)).symm
    · rw [if_neg same, tracks.parameter? k, parameter?_append_of_ne (Ne.symm same)]

/-- A recorded value's position is the number of values composed under its name before it. -/
theorem record_snd (tracks : Tracks st es) (n v : String) (editable : Bool) (dataType : Option DataType) :
    (st.record n v editable dataType).2 = (ofName es n).length := by
  rw [State.record_snd, tracks.parameter? n]
  cases present : es.any (·.name == n) with
  | false => simp [Composed.parameter?, present, ofName_eq_nil present, State.declared]
  | true =>
    simp only [Composed.parameter?, present, if_true, State.declared]
    split <;> simp [toParameter, Parameter.markEditable]

/-- Marking the name of the last tracked value required tracks that value as from the query. -/
theorem require {e : Composed} (tracks : Tracks st (es ++ [e])) :
    Tracks (st.require e.name) (es ++ [{ e with fromQuery := true }]) where
  parameter? k := by
    rw [State.parameter?_require]
    by_cases same : k = e.name
    · subst same
      rw [if_pos rfl, tracks.parameter? e.name, parameter?_append_self]
      have renamed : ({ e with fromQuery := true } : Composed).name = e.name := rfl
      rw [← renamed, parameter?_append_self, renamed]
      congr 1
      by_cases nonempty : ofName es e.name = []
      · simp [nonempty, toParameter_singleton]
      · simp [toParameter_append nonempty]
    · have other : e.name ≠ k := Ne.symm same
      rw [if_neg same, tracks.parameter? k, parameter?_append_of_ne other,
        parameter?_append_of_ne (e := { e with fromQuery := true }) other]

end Tracks

namespace Composer

open Composed

/-- A call that composes values into the open request target. -/
inductive ValueCall where
  | compose (name value : String) (editable : Bool) (dataType : Option DataType)
  | composeFor (action name value : String) (editable : Bool) (dataType : Option DataType)
  | composeParams (query encoding : String)

/-- Makes a value call: the text it hands out and the composer it leaves. -/
def valueCall (c : Composer) (confidential : Bool) : ValueCall → Except CompositionError (String × Composer)
  | .compose name value editable dataType => c.compose confidential name value editable dataType
  | .composeFor action name value editable dataType =>
    c.composeFor confidential action name value editable dataType
  | .composeParams query encoding => c.composeParams confidential query encoding

/-- Makes value calls one after another: the texts they hand out, and the composer they leave. -/
def composeAll (c : Composer) (confidential : Bool) :
    List ValueCall → Except CompositionError (List String × Composer)
  | [] => pure ([], c)
  | call :: rest => do
    let (answer, c) ← c.valueCall confidential call
    let (answers, c) ← c.composeAll confidential rest
    pure (answer :: answers, c)

/-- The pairs of a query that decode, each with its raw and decoded name and value. -/
def decodedPairs (query : String) : List (String × String × String × String) :=
  (Query.pairs query).filterMap fun pair => (decodePair pair).toOption

/-- The segments composing decoded pairs after `prior` writes: each raw pair whose value the page
shows as itself, and otherwise its raw name with the shown text. -/
def rewrittenPairs (confidential : Bool) (prior : List Composed) :
    List (String × String × String × String) → List String
  | [] => []
  | pair :: rest =>
    Query.rewritten pair.1 pair.2.1 pair.2.2.2 (shown confidential prior (ofPair pair)) ::
      rewrittenPairs confidential (prior ++ [ofPair pair]) rest

namespace ValueCall

/-- The values a call composes: one for `compose` and `composeFor`, one per decoded pair for
`composeParams`. -/
def composed : ValueCall → List Composed
  | .compose name value editable dataType => [⟨name, value, editable, dataType, false⟩]
  | .composeFor _ name value editable dataType => [⟨name, value, editable, dataType, false⟩]
  | .composeParams query _ => (decodedPairs query).map ofPair

/-- The text a call made after `prior` hands out: the text shown for its value, or the query of its
rewritten pairs. -/
def answer (confidential : Bool) (prior : List Composed) : ValueCall → String
  | .compose name value editable dataType => shown confidential prior ⟨name, value, editable, dataType, false⟩
  | .composeFor _ name value editable dataType =>
    shown confidential prior ⟨name, value, editable, dataType, false⟩
  | .composeParams query _ => "&".intercalate (rewrittenPairs confidential prior (decodedPairs query))

/-- The texts calls made one after another after `prior` hand out. -/
def answers (confidential : Bool) : List Composed → List ValueCall → List String
  | _, [] => []
  | prior, call :: rest => call.answer confidential prior :: answers confidential (prior ++ call.composed) rest

end ValueCall

end Composer

/-- A list mapped in `Except` keeps, in order, the items the function maps to a result. -/
theorem List.filterMap_toOption_of_forall₂ {α β ε : Type} {f : α → Except ε β} {l : List α}
    {r : List β} (all : List.Forall₂ (fun a b => f a = .ok b) l r) :
    l.filterMap (fun a => (f a).toOption) = r := by
  induction all with
  | nil => rfl
  | cons head _ ih =>
    rw [List.filterMap_cons, head]
    exact congrArg (_ :: ·) ih

/-- A computation whose result is known to begin with `a` succeeds with a result that begins with
`a`. -/
theorem Except.exists_ok_of_map_fst {ε α β : Type} {x : Except ε (α × β)} {a : α}
    (known : x.toOption.map (·.1) = some a) : ∃ b, x = .ok (a, b) := by
  cases x with
  | error e => simp [Except.toOption] at known
  | ok result =>
    simp only [Except.toOption, Option.map_some, Option.some.injEq] at known
    exact ⟨result.2, by rw [← known]⟩

namespace Tracks

open Composed Composer

variable {c c' : Composer} {st : State} {es : List Composed} {confidential : Bool}

/-- Composing one value into the open target records it and hands out the text shown for it. -/
theorem compose (tracks : Tracks st es) (opened : c.request = some st)
    {n v : String} {editable : Bool} {dataType : Option DataType} {answer : String}
    (ok : c.compose confidential n v editable dataType = .ok (answer, c')) :
    c'.request = some (st.record n v editable dataType).1 ∧
      Tracks (st.record n v editable dataType).1 (es ++ [⟨n, v, editable, dataType, false⟩]) ∧
      answer = shown confidential es ⟨n, v, editable, dataType, false⟩ := by
  obtain ⟨st₀, opened₀, rfl, rfl⟩ := compose_ok ok
  cases opened.symm.trans opened₀
  have recorded := tracks.record n v editable dataType
  refine ⟨rfl, recorded, ?_⟩
  -- the parameter is pinned after the call exactly when no value of its name was editable
  rw [recorded.parameter? n, parameter?_append_self, tracks.record_snd]
  simp [shown, toParameter]

/-- Composing decoded pairs records each as a value from the query and hands back their rewritten
segments. -/
theorem composePairs : ∀ {decoded : List (String × String × String × String)} {c c' : Composer}
    {st : State} {es : List Composed} {texts : List String},
    Tracks st es → c.request = some st → c.composePairs confidential decoded = .ok (texts, c') →
    ∃ st', c'.request = some st' ∧ Tracks st' (es ++ decoded.map ofPair) ∧
      texts = rewrittenPairs confidential es decoded
  | [], c, c', st, es, texts, tracks, opened, ok => by
    simp only [Composer.composePairs, Except.pure_eq_ok, Prod.mk.injEq] at ok
    obtain ⟨rfl, rfl⟩ := ok
    exact ⟨st, opened, by simpa using tracks, rfl⟩
  | (rawName, rawValue, name, value) :: rest, c, c', st, es, texts, tracks, opened, ok => by
    simp only [Composer.composePairs, Except.bind_eq_ok] at ok
    obtain ⟨⟨shownText, c₀⟩, composed, ⟨pairs, c₁⟩, restOk, done⟩ := ok
    simp only [Except.pure_eq_ok, Prod.mk.injEq] at done
    obtain ⟨rfl, rfl⟩ := done
    obtain ⟨opened₀, recorded, shownIs⟩ := tracks.compose opened composed
    -- the value is then marked required, which makes it a value from the query
    have required := recorded.require
    obtain ⟨st', opened', tracked, rewritten⟩ :=
      composePairs required (by simp [opened₀]) restOk
    refine ⟨st', opened', by simpa [ofPair] using tracked, ?_⟩
    rw [rewrittenPairs, rewritten, shownIs]
    -- the text shown for a value does not read whether it came from the query
    rfl

/-- Composing a query's pairs records the pairs that decode, all of them, and hands back the query
of their rewritten segments. -/
theorem composeParams (tracks : Tracks st es) (opened : c.request = some st) {query encoding answer : String}
    (ok : c.composeParams confidential query encoding = .ok (answer, c')) :
    ∃ st', c'.request = some st' ∧ Tracks st' (es ++ (decodedPairs query).map ofPair) ∧
      answer = "&".intercalate (rewrittenPairs confidential es (decodedPairs query)) := by
  rw [composeParams_eq] at ok
  split at ok
  · cases ok
  · split at ok
    · simp [opened] at *
    · obtain ⟨decoded, decodedOk, composed⟩ := Except.bind_eq_ok.mp ok
      obtain ⟨⟨texts, c₁⟩, composedOk, done⟩ := Except.map_eq_ok.mp composed
      simp only [Prod.mk.injEq] at done
      obtain ⟨rfl, rfl⟩ := done
      have all : decodedPairs query = decoded :=
        List.filterMap_toOption_of_forall₂ (List.mapM_except_eq_ok_iff.mp decodedOk)
      rw [all]
      obtain ⟨st', opened', tracked, rfl⟩ := tracks.composePairs opened composedOk
      exact ⟨st', opened', tracked, rfl⟩

/-- A value call on the open target records the values it composes and hands out its answer. -/
theorem valueCall (tracks : Tracks st es) (opened : c.request = some st) {call : ValueCall}
    {answer : String} (ok : c.valueCall confidential call = .ok (answer, c')) :
    ∃ st', c'.request = some st' ∧ Tracks st' (es ++ call.composed) ∧
      answer = call.answer confidential es := by
  cases call with
  | compose n v editable dataType =>
    obtain ⟨opened', tracked, shownIs⟩ := tracks.compose opened ok
    exact ⟨_, opened', tracked, shownIs⟩
  | composeFor action n v editable dataType =>
    -- with a target open, composing for its action composes into it
    have steps := composeFor_ok ok
    rw [opened] at steps
    obtain ⟨opened', tracked, shownIs⟩ := tracks.compose opened steps.2
    exact ⟨_, opened', tracked, shownIs⟩
  | composeParams query encoding => exact tracks.composeParams opened ok

/-- Value calls made one after another record every value they compose and hand out their
answers. -/
theorem composeAll : ∀ {calls : List ValueCall} {c c' : Composer} {st : State} {es : List Composed}
    {answers : List String},
    Tracks st es → c.request = some st → c.composeAll confidential calls = .ok (answers, c') →
    ∃ st', c'.request = some st' ∧ Tracks st' (es ++ calls.flatMap ValueCall.composed) ∧
      answers = ValueCall.answers confidential es calls
  | [], c, c', st, es, answers, tracks, opened, ok => by
    simp only [Composer.composeAll, Except.pure_eq_ok, Prod.mk.injEq] at ok
    obtain ⟨rfl, rfl⟩ := ok
    exact ⟨st, opened, by simpa using tracks, rfl⟩
  | call :: rest, c, c', st, es, answers, tracks, opened, ok => by
    simp only [Composer.composeAll, Except.bind_eq_ok] at ok
    obtain ⟨⟨answer, c₁⟩, called, ⟨more, c₂⟩, restOk, done⟩ := ok
    simp only [Except.pure_eq_ok, Prod.mk.injEq] at done
    obtain ⟨rfl, rfl⟩ := done
    obtain ⟨st₁, opened₁, tracked₁, answered⟩ := tracks.valueCall opened called
    obtain ⟨st', opened', tracked, rest_answered⟩ := composeAll tracked₁ opened₁ restOk
    exact ⟨st', opened', by simpa using tracked, by rw [ValueCall.answers, answered, rest_answered]⟩

end Tracks

namespace Composer

variable {c c' : Composer} {st : State} {confidential : Bool}

/-- **What composing values records and hands out.** On a request target opened with no parameters,
every sequence of `compose`, `composeFor` and `composeParams` calls that succeeds leaves the target
open with, under each name, the parameter the composed values make (`Composed.parameter?`): the
values composed for the name in call order, editable exactly when a call for it let the user edit
it, required exactly when a query pair decoded to it, and with the first call's kind of control,
replaced by the kind the first editable call names, if it names one. The calls hand out, in order,
the texts `ValueCall.answers` says: the placeholder of a value's position among all its name's
values while the name is pinned after the call and confidentiality is on, the value otherwise, and
for a query its decoded segments rewritten with the texts shown for them. -/
theorem composeAll_records (opened : c.request = some st) (empty : st.parameters.entries = [])
    {calls : List ValueCall} {answers : List String}
    (ok : c.composeAll confidential calls = .ok (answers, c')) :
    ∃ st', c'.request = some st' ∧
      (∀ n, st'.parameter? n = Composed.parameter? (calls.flatMap ValueCall.composed) n) ∧
      answers = ValueCall.answers confidential [] calls := by
  obtain ⟨st', opened', tracked, answered⟩ := (Tracks.fresh empty).composeAll opened ok
  exact ⟨st', opened', fun n => by simpa using tracked.parameter? n, answered⟩

/-- An order form just opened. -/
def orderState : State :=
  { index := 0, scope := .page, method := .post, action := "/order" }

/-- A composer with the order form open. -/
def orderComposer : Composer :=
  { phase := .requestOpen, request := some orderState }

/-- A pinned quantity, a query holding a second quantity and an encoded note, an editable quantity
naming a kind of control, and one more pinned quantity naming another. -/
def orderCalls : List ValueCall :=
  [.compose "qty" "2" false none, .composeParams "qty=3&note=a+b" "UTF-8",
    .composeFor "/order" "qty" "5" true (some .choice), .compose "qty" "6" false (some .text)]

/-- With confidentiality on, the quantity is shown by its placeholders `~0` and `~1` while it is
pinned, also inside the query, and as itself once a call made it editable; it keeps the kind the
editable call named, and both names from the query are required. -/
theorem composeAll_records_order :
    orderComposer.request = some orderState ∧ orderState.parameters.entries = [] ∧
    ∃ c', orderComposer.composeAll true orderCalls = .ok (["~0", "qty=~1&note=~0", "5", "6"], c') ∧
      ∃ st', c'.request = some st' ∧
        st'.parameter? "qty" = some
          { name := "qty", values := ["2", "3", "5", "6"], editable := true, required := true,
            dataType := some .choice } ∧
        st'.parameter? "note" = some
          { name := "note", values := ["a b"], editable := false, required := true, dataType := none } := by
  have opened : orderComposer.request = some orderState := rfl
  have empty : orderState.parameters.entries = [] := rfl
  obtain ⟨c', ok⟩ := Except.exists_ok_of_map_fst (by decide +kernel :
    (orderComposer.composeAll true orderCalls).toOption.map (·.1) = some ["~0", "qty=~1&note=~0", "5", "6"])
  obtain ⟨st', opened', parameters, -⟩ := composeAll_records opened empty ok
  refine ⟨opened, empty, c', ok, st', opened', ?_, ?_⟩
  · rw [parameters]
    decide +kernel
  · rw [parameters]
    decide +kernel

end Composer

end FormIntegrity
