import FormIntegrity.Proofs.NameMaps
import FormIntegrity.Proofs.Calls
import Mathlib.Algebra.Group.Nat.Defs
import Mathlib.Data.List.Forall2

/-!
# What a request records, and what it takes back

While a request target is open, every composed value is recorded in its state and the page shows a
text for it: the value itself, or with confidentiality on and the parameter pinned (not editable),
the placeholder of the value's position. `Records` ties the state to the recordings
`(name, value, shown)` made since the target was opened: the state has a parameter for exactly the
composed names, each under its own name, with the composed values in order, and a parameter that
stayed pinned showed each value by the rule above. Composing one value, composing query pairs and
marking them required all keep it.

Submitting the shown texts back, one entry per composed name, passes the integrity check of the
state (`Records.integrity`): an exempt or editable parameter is passed on as submitted, and a pinned
one is restored to the composed values, each placeholder to the value at its position and each
literal to itself.
-/

namespace FormIntegrity

namespace Recordings

/-- The values composed for a name, in order. -/
def values (records : List (String × String × String)) (name : String) : List String :=
  records.filterMap fun (n, v, _) => if n = name then some v else none

/-- The texts shown for the values of a name, in order. -/
def shown (records : List (String × String × String)) (name : String) : List String :=
  records.filterMap fun (n, _, sh) => if n = name then some sh else none

variable {records : List (String × String × String)} {name : String}

@[simp] theorem values_nil : values [] name = [] := rfl

@[simp] theorem shown_nil : shown [] name = [] := rfl

@[simp] theorem values_append (more : List (String × String × String)) :
    values (records ++ more) name = values records name ++ values more name := by
  simp [values, List.filterMap_append]

@[simp] theorem shown_append (more : List (String × String × String)) :
    shown (records ++ more) name = shown records name ++ shown more name := by
  simp [shown, List.filterMap_append]

@[simp] theorem values_singleton (n v sh : String) :
    values [(n, v, sh)] name = if n = name then [v] else [] := by
  by_cases same : n = name <;> simp [values, same]

@[simp] theorem shown_singleton (n v sh : String) :
    shown [(n, v, sh)] name = if n = name then [sh] else [] := by
  by_cases same : n = name <;> simp [shown, same]

theorem values_eq_nil (absent : name ∉ records.map (·.1)) : values records name = [] := by
  simp only [values, List.filterMap_eq_nil_iff]
  rintro ⟨n, v, sh⟩ member
  have differ : n ≠ name := fun same => absent (List.mem_map.mpr ⟨(n, v, sh), member, same⟩)
  simp [differ]

theorem shown_eq_nil (absent : name ∉ records.map (·.1)) : shown records name = [] := by
  simp only [shown, List.filterMap_eq_nil_iff]
  rintro ⟨n, v, sh⟩ member
  have differ : n ≠ name := fun same => absent (List.mem_map.mpr ⟨(n, v, sh), member, same⟩)
  simp [differ]

theorem length_shown (records : List (String × String × String)) (name : String) :
    (shown records name).length = (values records name).length := by
  induction records with
  | nil => rfl
  | cons head rest ih =>
    obtain ⟨n, v, sh⟩ := head
    rw [show (n, v, sh) :: rest = [(n, v, sh)] ++ rest from rfl, shown_append, values_append]
    by_cases same : n = name <;> simp [same, ih]

theorem length_values_le (records : List (String × String × String)) (name : String) :
    (values records name).length ≤ records.length :=
  List.length_filterMap_le _ _

/-- The values the integrity check passes on for a composed name submitted with the texts shown for
it: those texts when the name is exempt on the path or its parameter is editable, the composed
values otherwise. -/
def passedOn (cfg : Config) (st : State) (path : String) (records : List (String × String × String))
    (name : String) : List String :=
  if cfg.isExempt path name || (st.parameter? name).any (·.editable) then shown records name
  else values records name

end Recordings

/-- The text a page shows for the value at position `i` of a pinned parameter. -/
def pinnedText (confidential : Bool) (i : Nat) (v : String) : String :=
  if confidential then Placeholder.write i else v

/-- A state recorded from the values composed since its target was opened, each with the text
shown for it: a parameter for exactly the composed names, under its own name, with the composed
values in order; a parameter that stayed pinned showed each value as `pinnedText` says. -/
structure Records (confidential : Bool) (st : State) (records : List (String × String × String)) :
    Prop where
  declared : ∀ n, (∃ p, st.parameter? n = some p) ↔ n ∈ records.map (·.1)
  named : ∀ n p, st.parameter? n = some p → p.name = n
  values : ∀ n p, st.parameter? n = some p → p.values = Recordings.values records n
  shown : ∀ n p, st.parameter? n = some p → p.editable = false →
    Recordings.shown records n = (Recordings.values records n).mapIdx (pinnedText confidential)

namespace Records

variable {confidential : Bool} {st : State} {records : List (String × String × String)}

/-- A target just opened has recorded nothing. -/
theorem opened (confidential : Bool) (index : Nat) (scope : Scope) (method : Method) (action : String) :
    Records confidential { index, scope, method, action } [] where
  declared n := by simp [State.parameter?, NameMap.find?]
  named n p found := by simp [State.parameter?, NameMap.find?] at found
  values n p found := by simp [State.parameter?, NameMap.find?] at found
  shown n p found := by simp [State.parameter?, NameMap.find?] at found

end Records

namespace State

variable (st : State)

/-- The parameter a value is recorded into, as declaring it leaves it: a new one with the given
editability and kind, or the old one, made editable when the value is. -/
def declared (old : Option Parameter) (name : String) (editable : Bool) (dataType : Option DataType) :
    Parameter :=
  match old with
  | none => { name, editable, dataType }
  | some p => if editable && !p.editable then p.markEditable dataType else p

theorem parameter?_declare (name : String) (editable : Bool)
    (dataType : Option DataType) (k : String) :
    (st.declare name editable dataType).parameter? k =
      if k = name then some (declared (st.parameter? name) name editable dataType) else st.parameter? k := by
  unfold declare parameter?
  rw [NameMap.find?_alter]
  rfl

theorem parameter?_record (name value : String) (editable : Bool)
    (dataType : Option DataType) (k : String) :
    (st.record name value editable dataType).1.parameter? k =
      if k = name then
        some { declared (st.parameter? name) name editable dataType with
          values := (declared (st.parameter? name) name editable dataType).values ++ [value] }
      else st.parameter? k := by
  have atName : (st.declare name editable dataType).parameters.find? name =
      some (declared (st.parameter? name) name editable dataType) := by
    have declaredName := parameter?_declare st name editable dataType name
    rwa [if_pos rfl] at declaredName
  show ((st.declare name editable dataType).parameters.alter name _).find? k = _
  rw [NameMap.find?_alter, atName]
  by_cases same : k = name
  · simp [same]
  · have other : (st.declare name editable dataType).parameters.find? k = st.parameter? k := by
      have declaredOther := parameter?_declare st name editable dataType k
      rwa [if_neg same] at declaredOther
    simp [same, other]

/-- After a value is recorded, a parameter is the one it went into, extended by it, or one that was
there before under another name. -/
theorem parameter?_record_eq_some_iff (name value : String)
    (editable : Bool) (dataType : Option DataType) (k : String) (q : Parameter) :
    (st.record name value editable dataType).1.parameter? k = some q ↔
      k = name ∧ q = { declared (st.parameter? name) name editable dataType with
          values := (declared (st.parameter? name) name editable dataType).values ++ [value] } ∨
      k ≠ name ∧ st.parameter? k = some q := by
  rw [parameter?_record]
  by_cases same : k = name
  · simp [same, eq_comm]
  · simp [same]

theorem record_snd (name value : String) (editable : Bool)
    (dataType : Option DataType) :
    (st.record name value editable dataType).2 =
      (declared (st.parameter? name) name editable dataType).values.length := by
  have atName := parameter?_declare st name editable dataType name
  rw [if_pos rfl] at atName
  show (((st.declare name editable dataType).parameter? name).map (·.values.length)).getD 0 = _
  rw [atName]
  rfl

theorem parameter?_require (name k : String) :
    (st.require name).parameter? k =
      if k = name then
        some (match st.parameter? name with
          | none => { name, editable := false, required := true, dataType := none }
          | some p => { p with required := true })
      else st.parameter? k := by
  unfold require parameter?
  exact NameMap.find?_alter _ _ _ _

end State

namespace Records

variable {confidential : Bool} {st : State} {records : List (String × String × String)}
variable {name value : String} {editable : Bool} {dataType : Option DataType}

theorem declared_values (recorded : Records confidential st records) :
    (State.declared (st.parameter? name) name editable dataType).values = Recordings.values records name := by
  cases found : st.parameter? name with
  | none =>
    have absent : name ∉ records.map (·.1) := fun member => by
      obtain ⟨p, found'⟩ := (recorded.declared name).mpr member
      simp [found] at found'
    simp [State.declared, Recordings.values_eq_nil absent]
  | some p =>
    simp only [State.declared]
    split <;> simp [Parameter.markEditable, recorded.values name p found]

/-- Recording one value extends the records by it and the text shown for it. -/
theorem record (recorded : Records confidential st records) :
    Records confidential (st.record name value editable dataType).1
      (records ++ [(name, value,
        if confidential && (((st.record name value editable dataType).1.parameter? name).map (!·.editable)).getD false
        then Placeholder.write (st.record name value editable dataType).2 else value)]) := by
  have lookup := State.parameter?_record st name value editable dataType
  have inverted := State.parameter?_record_eq_some_iff st name value editable dataType
  set p := State.declared (st.parameter? name) name editable dataType with pDef
  have count : (st.record name value editable dataType).2 = (Recordings.values records name).length := by
    rw [State.record_snd, ← pDef, recorded.declared_values]
  have pValues : p.values = Recordings.values records name := by
    rw [pDef]
    exact recorded.declared_values
  refine ⟨fun n => ?_, fun n q found => ?_, fun n q found => ?_, fun n q found pinned => ?_⟩
  · rw [lookup n]
    by_cases same : n = name
    · subst same
      simp
    · simp [same, recorded.declared n]
  · rcases (inverted n q).mp found with ⟨same, rfl⟩ | ⟨-, found⟩
    · subst same
      cases old : st.parameter? n with
      | none => simp [pDef, State.declared, old]
      | some o =>
        simp only [pDef, State.declared, old]
        split <;> simp [Parameter.markEditable, recorded.named n o old]
    · exact recorded.named n q found
  · rcases (inverted n q).mp found with ⟨same, rfl⟩ | ⟨other, found⟩
    · subst same
      simp [pValues]
    · simp [recorded.values n q found, Ne.symm other]
  · rcases (inverted n q).mp found with ⟨same, rfl⟩ | ⟨other, found⟩
    · subst same
      -- a parameter pinned now was pinned at every earlier value too
      have stillPinned : p.editable = false := pinned
      have earlier : ∀ o, st.parameter? n = some o → o.editable = false ∧ editable = false := by
        intro o old
        simp only [pDef, State.declared, old] at stillPinned
        split at stillPinned
        · simp [Parameter.markEditable] at stillPinned
        · rename_i kept
          simp only [Bool.and_eq_true, Bool.not_eq_true', not_and, Bool.not_eq_false] at kept
          refine ⟨stillPinned, ?_⟩
          cases editable
          · rfl
          · exact absurd (kept rfl) (by simp [stillPinned])
      have before : Recordings.shown records n =
          (Recordings.values records n).mapIdx (pinnedText confidential) := by
        cases old : st.parameter? n with
        | none =>
          have absent : n ∉ records.map (·.1) := fun member => by
            obtain ⟨o, found'⟩ := (recorded.declared n).mpr member
            simp [old] at found'
          simp [Recordings.shown_eq_nil absent, Recordings.values_eq_nil absent]
        | some o => exact recorded.shown n o old (earlier o old).1
      have shownNow : (if confidential &&
            (((st.record n value editable dataType).1.parameter? n).map (!·.editable)).getD false
          then Placeholder.write (st.record n value editable dataType).2 else value) =
          pinnedText confidential (Recordings.values records n).length value := by
        rw [lookup n, if_pos rfl]
        simp [stillPinned, count, pinnedText]
      rw [shownNow]
      simp only [Recordings.shown_append, Recordings.values_append, Recordings.shown_singleton,
        Recordings.values_singleton, if_true, before, List.mapIdx_concat]
    · simpa [Ne.symm other] using recorded.shown n q found pinned

/-- Marking a composed name required keeps the records. -/
theorem require (recorded : Records confidential st records) (composed : name ∈ records.map (·.1)) :
    Records confidential (st.require name) records := by
  obtain ⟨p, found⟩ := (recorded.declared name).mpr composed
  have lookup := State.parameter?_require st name
  simp only [found] at lookup
  -- requiring changes the found parameter only in its flag
  have unchanged : ∀ n q, (st.require name).parameter? n = some q →
      ∃ o, st.parameter? n = some o ∧ q.name = o.name ∧ q.values = o.values ∧ q.editable = o.editable := by
    intro n q found'
    rw [lookup n] at found'
    by_cases same : n = name
    · subst same
      simp only [if_true, Option.some.injEq] at found'
      exact ⟨p, found, by rw [← found'], by rw [← found'], by rw [← found']⟩
    · simp only [same, if_false] at found'
      exact ⟨q, found', rfl, rfl, rfl⟩
  refine ⟨fun n => ?_, fun n q found' => ?_, fun n q found' => ?_, fun n q found' pinned => ?_⟩
  · rw [lookup n]
    by_cases same : n = name
    · subst same
      simp [composed]
    · simp [same, recorded.declared n]
  · obtain ⟨o, old, sameName, -, -⟩ := unchanged n q found'
    rw [sameName]
    exact recorded.named n o old
  · obtain ⟨o, old, -, sameValues, -⟩ := unchanged n q found'
    rw [sameValues]
    exact recorded.values n o old
  · obtain ⟨o, old, -, -, sameEditable⟩ := unchanged n q found'
    exact recorded.shown n o old (sameEditable ▸ pinned)

end Records

/-- A placeholder of a position below `2 ^ 64` reads back as that position. -/
theorem Placeholder.read?_write_of_lt {i : Nat} (small : i < 2 ^ 64) :
    Placeholder.read? (Placeholder.write i) = some i.toUInt64 := by
  have back : i.toUInt64.toNat = i := by rw [Nat.toUInt64_eq, UInt64.toNat_ofNat_of_lt' small]
  simpa [back] using Placeholder.read?_write i.toUInt64

/-- The text a pinned value is shown as resolves back to the value. -/
theorem Parameter.resolve_pinnedText {p : Parameter} (confidential : Bool) {i : Nat}
    (h : i < p.values.length) (small : i < 2 ^ 64) :
    p.resolve (pinnedText confidential i p.values[i]) confidential = some p.values[i] := by
  cases confidential with
  | true =>
    have back : i.toUInt64.toNat = i := by rw [Nat.toUInt64_eq, UInt64.toNat_ofNat_of_lt' small]
    simp [Parameter.resolve, pinnedText, Placeholder.read?_write_of_lt small, back, h]
  | false =>
    -- a literal resolves to the first recorded value equal to it, which is itself
    have present : (p.values.find? (· == p.values[i])).isSome :=
      List.find?_isSome.mpr ⟨p.values[i], List.getElem_mem h, beq_self_eq_true _⟩
    obtain ⟨v, found⟩ := Option.isSome_iff_exists.mp present
    have same := List.find?_some found
    simp only [beq_iff_eq] at same
    simp only [Parameter.resolve, pinnedText, Bool.false_eq_true, if_false]
    rw [found, same]

namespace Validation

/-- Resolving each submitted text to the value at its position restores them all. -/
theorem restoreValues_of_forall₂ {p : Parameter} {name : String} {confidential : Bool} :
    ∀ {submitted restored : List String},
      List.Forall₂ (fun text v => p.resolve text confidential = some v) submitted restored →
      restoreValues p name confidential submitted = .ok restored
  | _, _, .nil => rfl
  | _, _, .cons resolved rest => by
    rw [restoreValues, resolved, restoreValues_of_forall₂ rest]
    rfl

/-- The texts a pinned parameter's values are shown as restore to the values. -/
theorem restoreValues_mapIdx (p : Parameter) (name : String) (confidential : Bool)
    (few : p.values.length ≤ 2 ^ 64) :
    restoreValues p name confidential (p.values.mapIdx (pinnedText confidential)) = .ok p.values := by
  apply restoreValues_of_forall₂
  rw [List.forall₂_iff_get]
  refine ⟨List.length_mapIdx, fun i h₁ h₂ => ?_⟩
  simp only [List.get_eq_getElem, List.getElem_mapIdx]
  exact Parameter.resolve_pinnedText confidential h₂ (by omega)

/-- No parameter is missing when every required one is submitted. -/
theorem missingRequired_eq_none {cfg : Config} {st : State} {path : String}
    {params : NameMap (List String)}
    (named : ∀ n p, st.parameter? n = some p → p.name = n)
    (complete : ∀ n p, st.parameter? n = some p → p.required = true → params.contains n = true) :
    missingRequired cfg st path params = none := by
  unfold missingRequired
  rw [Option.map_eq_none_iff, List.find?_eq_none]
  rintro ⟨n, p⟩ member
  have found : st.parameter? n = some p := NameMap.find?_eq_some_iff.mpr member
  cases required : p.required with
  | false => simp [required]
  | true => simp [named n p found, complete n p found required]

end Validation

/-- A list mapped in `Except` by a function that succeeds on every item. -/
theorem List.mapM_except_ok {α β ε : Type} {f : α → Except ε β} {g : α → β} :
    ∀ {l : List α}, (∀ a ∈ l, f a = .ok (g a)) → l.mapM f = .ok (l.map g)
  | [], _ => rfl
  | a :: rest, all => by
    rw [List.mapM_cons, all a List.mem_cons_self,
      List.mapM_except_ok fun b member => all b (List.mem_cons_of_mem a member)]
    rfl

namespace Records

variable {cfg : Config} {st : State} {records : List (String × String × String)} {path : String}

/-- A composed name submitted with the texts shown for it passes the check of its parameter. -/
theorem checkParameter (recorded : Records cfg.confidentiality st records)
    (few : records.length ≤ 2 ^ 64) {name : String} (composed : name ∈ records.map (·.1)) :
    Validation.checkParameter cfg st path name (Recordings.shown records name) =
      .ok (Recordings.passedOn cfg st path records name) := by
  obtain ⟨p, found⟩ := (recorded.declared name).mpr composed
  have sameValues := recorded.values name p found
  unfold Validation.checkParameter Recordings.passedOn
  by_cases exempt : cfg.isExempt path name = true
  · simp [exempt, pure, Except.pure]
  · cases editable : p.editable with
    | true => simp [exempt, found, editable, pure, Except.pure]
    | false =>
      -- a pinned parameter was shown as its values mapped to their texts
      have shownEq := recorded.shown name p found editable
      have notMore : ¬(Recordings.shown records name).length > p.values.length := by
        rw [Recordings.length_shown, sameValues]
        omega
      have within : p.values.length ≤ 2 ^ 64 :=
        sameValues ▸ (Recordings.length_values_le records name).trans few
      simp only [exempt, found, editable, notMore, Bool.false_eq_true, if_false, Option.any_some,
        Bool.or_false]
      rw [shownEq, ← sameValues]
      exact Validation.restoreValues_mapIdx p name cfg.confidentiality within

/-- No composed parameter is missing when every composed name is submitted. -/
theorem missingRequired (recorded : Records cfg.confidentiality st records)
    {params : NameMap (List String)} (complete : ∀ n ∈ records.map (·.1), params.contains n = true) :
    Validation.missingRequired cfg st path params = none :=
  Validation.missingRequired_eq_none recorded.named
    fun n p found _ => complete n ((recorded.declared n).mp ⟨p, found⟩)

/-- **Submitting what was shown passes the integrity check.** A request to the state's action that
submits, for composed names only and each composed name, the texts shown for its values passes the
check, which passes on each name's values as `Recordings.passedOn` says. -/
theorem integrity (recorded : Records cfg.confidentiality st records)
    (few : records.length ≤ 2 ^ 64) (atAction : st.action = path) {params : NameMap (List String)}
    (submitted : ∀ e ∈ params.entries, e.1 ∈ records.map (·.1) ∧ e.2 = Recordings.shown records e.1)
    (complete : ∀ n ∈ records.map (·.1), params.contains n = true) :
    Validation.integrity cfg st path params =
      .ok (params.withValues (Recordings.passedOn cfg st path records)) := by
  have checked := List.mapM_except_ok
    (f := fun (e : String × List String) => do
      pure (e.1, ← Validation.checkParameter cfg st path e.1 e.2))
    (g := fun e => (e.1, Recordings.passedOn cfg st path records e.1)) (l := params.entries)
    fun e member => by
      obtain ⟨composed, shownHere⟩ := submitted e member
      rw [shownHere, recorded.checkParameter few composed]
      rfl
  unfold Validation.integrity
  simp only [atAction, ne_eq, not_true_eq_false, if_false]
  rw [checked, recorded.missingRequired complete]
  -- the names passed on are the submitted ones, in ascending order, so the map keeps them
  exact congrArg Except.ok (NameMap.ofList_self (params.withValues _))

variable {c c' : Composer} {confidential : Bool} {name value shown : String} {editable : Bool}
variable {dataType : Option DataType}

/-- Composing a value into the open request extends its records by the value and the text the
call hands out for it. -/
theorem compose (recorded : Records confidential st records) (opened : c.request = some st)
    (ok : c.compose confidential name value editable dataType = .ok (shown, c')) :
    ∃ st', c'.request = some st' ∧ Records confidential st' (records ++ [(name, value, shown)]) := by
  obtain ⟨st₁, same, rfl, rfl⟩ := Composer.compose_ok ok
  cases opened.symm.trans same
  exact ⟨_, rfl, recorded.record⟩

/-- Recording query pairs extends the records by each pair's name and value with the text shown
for it; marking them required does not touch the records. -/
theorem pairsShown {pairs : List (String × String × String × String)}
    {recs : List (String × String × String)} (recorded : Records confidential st records)
    (opened : c.request = some st) (ok : c.pairsShown confidential pairs = .ok (recs, c')) :
    ∃ st', c'.request = some st' ∧ Records confidential st' (records ++ recs) := by
  induction pairs generalizing c st records recs with
  | nil =>
    simp only [Composer.pairsShown, Except.pure_eq_ok, Prod.mk.injEq] at ok
    obtain ⟨rfl, rfl⟩ := ok
    exact ⟨st, opened, by simpa using recorded⟩
  | cons pair rest ih =>
    obtain ⟨rawName, rawValue, name, value⟩ := pair
    simp only [Composer.pairsShown, Except.bind_eq_ok] at ok
    obtain ⟨⟨shown₁, c₁⟩, composed, ⟨recs₂, c₂⟩, restOk, finished⟩ := ok
    simp only [Except.pure_eq_ok, Prod.mk.injEq] at finished
    obtain ⟨rfl, rfl⟩ := finished
    obtain ⟨st₁, opened₁, recorded₁⟩ := recorded.compose opened composed
    have required := recorded₁.require (by simp : name ∈ (records ++ [(name, value, shown₁)]).map (·.1))
    obtain ⟨st₂, opened₂, recorded₂⟩ := ih required (by simp [opened₁]) restOk
    exact ⟨st₂, opened₂, by simpa using recorded₂⟩

end Records

namespace Composer

variable {c c' : Composer} {g g' : Guard} {s s' : Session} {notes : List Note}

/-- Composing query pairs records the decoded pairs into the open request. -/
theorem paramsShown_pairs {confidential : Bool} {query encoding : String}
    {records : List (String × String × String)}
    (ok : c.paramsShown confidential query encoding = .ok (records, c')) :
    ∃ st pairs, c.request = some st ∧ c.pairsShown confidential pairs = .ok (records, c') := by
  unfold paramsShown at ok
  split at ok
  · simp at ok
  · split at ok
    · simp at ok
    · rename_i opened
      obtain ⟨st, openedAt⟩ := Option.ne_none_iff_exists'.mp (by simpa using opened)
      obtain ⟨decoded, -, recorded⟩ := Except.bind_eq_ok.mp ok
      exact ⟨st, decoded, openedAt, recorded⟩

/-- What a composer call does to the open request and its records: it leaves the request alone and
notes nothing about it; or it closes the request, issuing a token for its state; or it records
values into it; or it opens a new one, whose records are the values it records into it. -/
theorem call_request {cc : ComposerCall} (ok : c.call g s cc = .ok (notes, c', g', s')) :
    (c'.request = c.request ∧ ∀ note ∈ notes, note.aboutRequest = false) ∨
    (∃ st token, c.request = some st ∧ c'.request = none ∧ notes = [.issued token st]) ∨
    (∃ st st' recs, c.request = some st ∧ c'.request = some st' ∧
      notes = recs.map (fun (n, v, sh) => .recorded n v sh) ∧
      ∀ records, Records g.config.confidentiality st records →
        Records g.config.confidentiality st' (records ++ recs)) ∨
    (∃ st' recs, c'.request = some st' ∧
      notes = .requestOpened :: recs.map (fun (n, v, sh) => .recorded n v sh) ∧
      Records g.config.confidentiality st' recs) := by
  cases cc with
  | startPage =>
    obtain ⟨-, rfl, rfl, -⟩ := call_startPage ok
    exact .inl ⟨rfl, by simp [Note.aboutRequest]⟩
  | startScope scope =>
    obtain ⟨-, rfl, rfl, -⟩ := call_startScope ok
    exact .inl ⟨rfl, by simp⟩
  | endScope =>
    obtain ⟨-, rfl, -, same, -⟩ := call_endScope ok
    exact .inl ⟨by rw [same], by simp⟩
  | beginRequest method action =>
    obtain ⟨-, rfl, opened, -⟩ := call_beginRequest ok
    obtain ⟨-, -, rfl⟩ := beginRequest_ok opened
    exact .inr (.inr (.inr ⟨_, [], rfl, rfl, Records.opened _ _ _ _ _⟩))
  | compose name value editable dataType =>
    obtain ⟨shown, composed, rfl, -⟩ := call_compose ok
    obtain ⟨st, opened, rfl, -⟩ := compose_ok composed
    refine .inr (.inr (.inl ⟨st, _, [(name, value, shown)], opened, rfl, rfl, fun records recorded => ?_⟩))
    obtain ⟨st', opened', recorded'⟩ := recorded.compose opened composed
    cases opened'
    exact recorded'
  | composeFor action name value editable dataType =>
    obtain ⟨shown, composed, rfl, -⟩ := call_composeFor ok
    have steps := composeFor_ok composed
    cases opened : c.request with
    | some st =>
      rw [opened] at steps
      obtain ⟨-, composed₁⟩ := steps
      obtain ⟨st₁, opened₁, rfl, -⟩ := compose_ok composed₁
      cases opened.symm.trans opened₁
      refine .inr (.inr (.inl ⟨st, _, [(name, value, shown)], rfl, rfl, by simp, fun records recorded => ?_⟩))
      obtain ⟨st', opened', recorded'⟩ := recorded.compose opened composed₁
      cases opened'
      simpa using recorded'
    | none =>
      rw [opened] at steps
      obtain ⟨c₁, begun, composed₁⟩ := steps
      obtain ⟨-, -, rfl⟩ := beginRequest_ok begun
      obtain ⟨st', opened', recorded'⟩ :=
        (Records.opened g.config.confidentiality _ _ _ _).compose rfl composed₁
      exact .inr (.inr (.inr ⟨st', [(name, value, shown)], opened', by simp, by simpa using recorded'⟩))
  | composeParams query encoding =>
    obtain ⟨recs, composed, rfl, -⟩ := call_composeParams ok
    obtain ⟨st, pairs, opened, recorded⟩ := paramsShown_pairs composed
    obtain ⟨params, rfl⟩ := pairsShown_ok recorded st opened
    refine .inr (.inr (.inl ⟨st, _, recs, opened, rfl, rfl, fun records before => ?_⟩))
    obtain ⟨st', opened', after⟩ := before.pairsShown opened recorded
    cases opened'
    exact after
  | addFlow flow =>
    obtain ⟨-, rfl, ⟨D, -, rfl⟩, -⟩ := call_addFlow ok
    exact .inl ⟨rfl, by simp⟩
  | endRequest =>
    obtain ⟨st, D, token, opened, -, rfl, rfl, -⟩ := call_endRequest ok
    exact .inr (.inl ⟨st, token, opened, rfl, rfl⟩)
  | endPage =>
    obtain ⟨-, -, -, rfl, rfl, -⟩ := call_endPage ok
    exact .inl ⟨rfl, by simp [Note.aboutRequest]⟩

end Composer

end FormIntegrity
