import FormIntegrity.Proofs.Resolution
import FormIntegrity.Proofs.IntegrityCheck

/-!
# Field errors of editable values

A request that passes the integrity check may still carry editable values that the whitelist rules
refuse. This module says which field errors a passed request carries, apart from the code that
collects them:

* a rule refuses a value when its accepted pattern does not match it or its rejected pattern does
  (`Rule.Refuses`);
* a submitted parameter is checked as editable with a kind of control (`Validation.CheckedAs`): with
  no kind when the request has no state or its state does not declare the parameter, with the
  recorded kind when the state declares it editable; a parameter the state pins is not checked;
* a parameter is refused (`Validation.Refused`) when editable validation is on, the parameter is not
  exempt on the path, it is checked as editable, and a rule chosen for it refuses one of its values;
  its field error (`Validation.FirstRefusal`) names its first such value and the first chosen rule
  that refuses that value.

`fieldErrors_are_rule_failures` says that a passed request carries one field error per refused
parameter of its restored map, in ascending order of names, and no other; and that neither the rules
nor editable validation decide whether a request is refused as tampered.
-/

namespace FormIntegrity

/-- `x` is the first item of `xs` that satisfies `p`. -/
def IsFirst {α : Type} (xs : List α) (p : α → Prop) (x : α) : Prop :=
  ∃ before after, xs = before ++ x :: after ∧ p x ∧ ∀ y ∈ before, ¬p y

theorem IsFirst.mem {α : Type} {xs : List α} {p : α → Prop} {x : α} (first : IsFirst xs p x) :
    x ∈ xs := by
  obtain ⟨before, after, rfl, -, -⟩ := first
  simp

theorem IsFirst.holds {α : Type} {xs : List α} {p : α → Prop} {x : α} (first : IsFirst xs p x) :
    p x := by
  obtain ⟨-, -, -, holds, -⟩ := first
  exact holds

theorem isFirst_of_find? {α : Type} {xs : List α} {p : α → Bool} {x : α}
    (found : xs.find? p = some x) : IsFirst xs (p · = true) x := by
  obtain ⟨holds, before, after, split, absent⟩ := List.find?_eq_some_iff_append.mp found
  exact ⟨before, after, split, holds, fun y member => by simpa using absent y member⟩

theorem find?_of_isFirst {α : Type} {xs : List α} {p : α → Bool} {x : α}
    (first : IsFirst xs (p · = true) x) : xs.find? p = some x := by
  obtain ⟨before, after, split, holds, absent⟩ := first
  exact List.find?_eq_some_iff_append.mpr ⟨holds, before, after, split, fun y member => by
    simpa using absent y member⟩

/-- A rule refuses a value when its accepted pattern does not match it or its rejected pattern
does. -/
def Rule.Refuses (rule : Rule) (value : String) : Prop :=
  (∃ p, rule.accepted = some p ∧ p.test value = false) ∨
    ∃ p, rule.rejected = some p ∧ p.test value = true

theorem Rule.accepts_eq_false_iff {rule : Rule} {value : String} :
    rule.accepts value = false ↔ rule.Refuses value := by
  unfold Rule.accepts Rule.Refuses
  cases rule.accepted with
  | none => cases rule.rejected <;> simp
  | some accepted =>
    cases rule.rejected with
    | none => simp
    | some rejected => cases matched : accepted.test value <;> simp [matched]

/-- The first rule of a list that refuses a value is the first found not to accept it. -/
theorem find?_refusing_eq_some_iff {chosen : List Rule} {v : String} {rule : Rule} :
    chosen.find? (fun r => !r.accepts v) = some rule ↔ IsFirst chosen (·.Refuses v) rule := by
  constructor
  · intro found
    simpa [Rule.accepts_eq_false_iff] using isFirst_of_find? found
  · intro first
    apply find?_of_isFirst
    simpa [Rule.accepts_eq_false_iff] using first

theorem find?_refusing_eq_none_iff {chosen : List Rule} {v : String} :
    chosen.find? (fun r => !r.accepts v) = none ↔ ∀ rule ∈ chosen, ¬rule.Refuses v := by
  simp [List.find?_eq_none, ← Rule.accepts_eq_false_iff]

namespace Validation

variable {cfg : Config} {state : Option State} {url name : String} {values : List String}
  {kind : Option DataType} {e : FieldError}

/-- The kind of control a submitted parameter is checked as by the whitelist rules: no kind when
there is no state or the state does not declare the parameter, the recorded kind when the state
declares it editable. A parameter the state pins is checked as nothing. -/
def CheckedAs (state : Option State) (name : String) (kind : Option DataType) : Prop :=
  ((∀ st, state = some st → st.parameter? name = none) ∧ kind = none) ∨
    ∃ st p, state = some st ∧ st.parameter? name = some p ∧ p.editable = true ∧ kind = p.dataType

/-- A field error names, at `url`, the first value of `name` that a chosen rule refuses, and the
first chosen rule that refuses that value. -/
def NamesFirstRefusal (chosen : List Rule) (url name : String) (values : List String)
    (e : FieldError) : Prop :=
  e.url = url ∧ e.parameter = name ∧
    IsFirst values (fun v => ∃ rule ∈ chosen, rule.Refuses v) e.value ∧
    ∃ rule, IsFirst chosen (·.Refuses e.value) rule ∧ e.rule = rule.name

/-- A submitted parameter is refused by the whitelist: editable validation is on, the parameter is
not exempt on the path, it is checked as editable, and a rule chosen for it refuses one of its
values. -/
def Refused (cfg : Config) (state : Option State) (url name : String) (values : List String) :
    Prop :=
  cfg.editableValidation = true ∧ cfg.isExempt url name = false ∧
    ∃ kind, CheckedAs state name kind ∧
      ∃ v ∈ values, ∃ rule ∈ cfg.rules.select url name kind, rule.Refuses v

/-- The field error of a refused parameter. -/
def FirstRefusal (cfg : Config) (state : Option State) (url name : String) (values : List String)
    (e : FieldError) : Prop :=
  cfg.editableValidation = true ∧ cfg.isExempt url name = false ∧
    ∃ kind, CheckedAs state name kind ∧
      NamesFirstRefusal (cfg.rules.select url name kind) url name values e

theorem checkedAs_iff_of_undeclared (undeclared : state.bind (·.parameter? name) = none) :
    CheckedAs state name kind ↔ kind = none := by
  unfold CheckedAs
  cases state with
  | none => simp
  | some st =>
    have : st.parameter? name = none := undeclared
    simp [this]

theorem checkedAs_iff_of_declared {p : Parameter} (declared : state.bind (·.parameter? name) = some p) :
    CheckedAs state name kind ↔ p.editable = true ∧ kind = p.dataType := by
  unfold CheckedAs
  cases state with
  | none => cases declared
  | some st =>
    have : st.parameter? name = some p := declared
    simp [this]

/-- The chosen rules find a field error exactly when it names the first refused value and the first
rule refusing it. -/
theorem fieldError?_eq_some_iff {rules : RuleSet} :
    fieldError? rules url name values kind = some e ↔
      NamesFirstRefusal (rules.select url name kind) url name values e := by
  unfold fieldError? NamesFirstRefusal
  rw [List.findSome?_eq_some_iff]
  constructor
  · rintro ⟨before, v, after, split, found, absent⟩
    obtain ⟨rule, ruleFound, rfl⟩ := Option.map_eq_some_iff.mp found
    have first := find?_refusing_eq_some_iff.mp ruleFound
    refine ⟨rfl, rfl, ⟨before, after, split, ⟨rule, first.mem, first.holds⟩, ?_⟩, rule, first, rfl⟩
    rintro y member ⟨other, chosen, refuses⟩
    have passed := absent y member
    rw [Option.map_eq_none_iff, find?_refusing_eq_none_iff] at passed
    exact passed other chosen refuses
  · rintro ⟨atUrl, named, ⟨before, after, split, -, absent⟩, rule, first, ruleNamed⟩
    refine ⟨before, e.value, after, split, ?_, fun y member => ?_⟩
    · rw [find?_refusing_eq_some_iff.mpr first]
      obtain ⟨u, n, v, r⟩ := e
      simp_all
    · rw [Option.map_eq_none_iff, find?_refusing_eq_none_iff]
      exact fun other chosen refuses => absent y member ⟨other, chosen, refuses⟩

/-- The chosen rules find no field error exactly when none of them refuses any value. -/
theorem fieldError?_eq_none_iff {rules : RuleSet} :
    fieldError? rules url name values kind = none ↔
      ∀ v ∈ values, ∀ rule ∈ rules.select url name kind, ¬rule.Refuses v := by
  unfold fieldError?
  simp only [List.findSome?_eq_none_iff, Option.map_eq_none_iff, find?_refusing_eq_none_iff]

theorem FirstRefusal.parameter (first : FirstRefusal cfg state url name values e) :
    e.parameter = name := by
  obtain ⟨-, -, -, -, -, named, -⟩ := first
  exact named

/-- A parameter with a field error is refused. -/
theorem FirstRefusal.refused (first : FirstRefusal cfg state url name values e) :
    Refused cfg state url name values := by
  obtain ⟨on, notExempt, kind, checked, -, -, refusedValue, -⟩ := first
  obtain ⟨rule, chosen, refuses⟩ := refusedValue.holds
  exact ⟨on, notExempt, kind, checked, e.value, refusedValue.mem, rule, chosen, refuses⟩

variable {params : NameMap (List String)} {entry : String × List String}

/-- The field errors of a map are those of its parameters taken one at a time, in its order. -/
theorem fieldErrors_eq_flatMap (params : NameMap (List String)) :
    fieldErrors cfg state url params =
      params.entries.flatMap fun entry => fieldErrors cfg state url (NameMap.single entry) := by
  unfold fieldErrors
  split
  · simp
  · simp only [NameMap.single_entries, List.filterMap_eq_flatMap_toList, List.flatMap_cons,
      List.flatMap_nil, List.append_nil]

/-- One parameter alone has a field error exactly when it is refused, and the error names its
first refusal. -/
theorem mem_fieldErrors_single :
    e ∈ fieldErrors cfg state url (NameMap.single entry) ↔ FirstRefusal cfg state url entry.1 entry.2 e := by
  obtain ⟨name, values⟩ := entry
  unfold fieldErrors FirstRefusal
  cases on : cfg.editableValidation
  · simp
  cases exempt : cfg.isExempt url name
  · cases declared : state.bind (·.parameter? name) with
    | none =>
      simp [exempt, declared, checkedAs_iff_of_undeclared declared, fieldError?_eq_some_iff]
    | some p =>
      cases editable : p.editable <;>
        simp [exempt, declared, editable, checkedAs_iff_of_declared declared, fieldError?_eq_some_iff]
  · simp [exempt]

/-- One parameter alone has no field error exactly when it is not refused. -/
theorem fieldErrors_single_eq_nil_iff :
    fieldErrors cfg state url (NameMap.single entry) = [] ↔ ¬Refused cfg state url entry.1 entry.2 := by
  obtain ⟨name, values⟩ := entry
  unfold fieldErrors Refused
  cases on : cfg.editableValidation
  · simp
  cases exempt : cfg.isExempt url name
  · cases declared : state.bind (·.parameter? name) with
    | none =>
      simp [exempt, declared, checkedAs_iff_of_undeclared declared, fieldError?_eq_none_iff]
    | some p =>
      cases editable : p.editable <;>
        simp [exempt, declared, editable, checkedAs_iff_of_declared declared, fieldError?_eq_none_iff]
  · simp [exempt]

theorem length_fieldErrors_single_le : (fieldErrors cfg state url (NameMap.single entry)).length ≤ 1 := by
  unfold fieldErrors
  split
  · simp
  · simp only [NameMap.single_entries, List.filterMap_cons, List.filterMap_nil]
    split <;> simp

/-- The field errors of a map are the first refusals of its parameters. -/
theorem mem_fieldErrors :
    e ∈ fieldErrors cfg state url params ↔
      ∃ entry ∈ params.entries, FirstRefusal cfg state url entry.1 entry.2 e := by
  simp only [fieldErrors_eq_flatMap params, List.mem_flatMap, mem_fieldErrors_single]

/-- Every refused parameter of a map has a field error. -/
theorem exists_fieldError_of_refused (member : entry ∈ params.entries)
    (refused : Refused cfg state url entry.1 entry.2) :
    ∃ e ∈ fieldErrors cfg state url params, e.parameter = entry.1 := by
  obtain ⟨e, found⟩ := List.exists_mem_of_ne_nil _ (mt fieldErrors_single_eq_nil_iff.mp (not_not.mpr refused))
  refine ⟨e, ?_, (mem_fieldErrors_single.mp found).parameter⟩
  rw [fieldErrors_eq_flatMap params, List.mem_flatMap]
  exact ⟨entry, member, found⟩

/-- The field errors of a map come in strictly ascending order of names, so no parameter has
two. -/
theorem fieldErrors_sorted :
    (fieldErrors cfg state url params).Pairwise (·.parameter < ·.parameter) := by
  rw [fieldErrors_eq_flatMap params, List.pairwise_flatMap]
  constructor
  · -- one parameter alone has at most one error
    intro entry _
    have short : (fieldErrors cfg state url (NameMap.single entry)).length ≤ 1 := length_fieldErrors_single_le
    match errors : fieldErrors cfg state url (NameMap.single entry), short with
    | [], _ => exact .nil
    | [_], _ => exact List.pairwise_singleton _ _
  · -- errors of different parameters are ordered as the parameters are
    refine List.Pairwise.imp (fun {a b} below x first y second => ?_) params.sorted
    rw [(mem_fieldErrors_single.mp first).parameter, (mem_fieldErrors_single.mp second).parameter]
    exact below

end Validation

namespace Guard

variable {g : Guard} {s : Session} {r : Request} {p : Passed}

/-- What validation decides before the whitelist rules: the state and the parameters to pass on,
or the violation. -/
def checked (g : Guard) (s : Session) (r : Request) :
    Except Violation (Option State × NameMap (List String)) :=
  let params := r.parameters.erase s.stateParameterName
  match r.parameters.find? s.stateParameterName with
  | some [token] => do
    let st ← g.resolve s token
    let restored ← Validation.integrity g.config st r.path params
    pure (some st, restored)
  | some values => throw (.malformedToken (",".intercalate values))
  | none => if g.config.isStartPage r.path then pure (none, params) else throw .missingState

theorem validate_eq_checked (g : Guard) (s : Session) (r : Request) :
    g.validate s r =
      match g.checked s r with
      | .error v => .tampered v
      | .ok (st, restored) =>
        .passed ⟨st, restored, Validation.fieldErrors g.config st r.path restored⟩ :=
  rfl

/-- The field errors of a passed request are those of its state and restored parameters. -/
theorem validate_fieldErrors (passed : g.validate s r = .passed p) :
    p.fieldErrors = Validation.fieldErrors g.config p.state r.path p.parameters := by
  rw [validate_eq_checked] at passed
  split at passed
  · cases passed
  · cases passed
    rfl

/-- Validation before the whitelist rules reads neither the rules nor the switch of editable
validation. -/
theorem checked_withRules (rules : RuleSet) (on : Bool) :
    ({ g with config := { g.config with rules, editableValidation := on } } : Guard).checked s r =
      g.checked s r :=
  rfl

theorem validate_tampered_withRules (rules : RuleSet) (on : Bool) (v : Violation) :
    ({ g with config := { g.config with rules, editableValidation := on } } : Guard).validate s r =
        .tampered v ↔
      g.validate s r = .tampered v := by
  rw [validate_eq_checked, validate_eq_checked, checked_withRules]
  cases g.checked s r with
  | error violation => simp
  | ok passed =>
    obtain ⟨st, restored⟩ := passed
    simp

/-- **Field errors are the failures of the whitelist rules.** A passed outcome carries field errors in strictly ascending order of names, one for
each refused parameter of the restored map and none for any other, each naming the first refused
value and the first chosen rule refusing it; and whether a request is refused as tampered depends
neither on the rules nor on editable validation. -/
theorem fieldErrors_are_rule_failures (g : Guard) (s : Session) (r : Request) :
    (∀ p, g.validate s r = .passed p →
      p.fieldErrors.Pairwise (·.parameter < ·.parameter) ∧
      (∀ e, e ∈ p.fieldErrors ↔ ∃ entry ∈ p.parameters.entries,
        Validation.FirstRefusal g.config p.state r.path entry.1 entry.2 e) ∧
      ∀ entry ∈ p.parameters.entries, Validation.Refused g.config p.state r.path entry.1 entry.2 →
        ∃ e ∈ p.fieldErrors, e.parameter = entry.1) ∧
    ∀ (rules : RuleSet) (on : Bool) (v : Violation),
      ({ g with config := { g.config with rules, editableValidation := on } } : Guard).validate s r =
          .tampered v ↔
        g.validate s r = .tampered v := by
  refine ⟨fun p passed => ?_, validate_tampered_withRules⟩
  rw [validate_fieldErrors passed]
  exact ⟨Validation.fieldErrors_sorted,
    fun _ => Validation.mem_fieldErrors,
    fun _ member refused => Validation.exists_fieldError_of_refused member refused⟩

/-- Settings that make the search page a start page and accept only lowercase letters and digits
in editable values. -/
def searchSettings : Settings :=
  { startPages := ["/search"], rules := [RuleSpec.accept "word" "[a-z0-9]*"] }

/-- The search settings compiled; they do compile, so the fallback is never taken. -/
def searchConfig : Config :=
  (Config.compile searchSettings).toOption.getD Config.default

/-- A guard with the search configuration. -/
def searchGuard : Guard :=
  { config := searchConfig, appKey := ⟨List.replicate 32 13, rfl⟩ }

/-- A session of the search guard. -/
def searchSession : Session :=
  ⟨"s1", "_state", .unbounded, .unbounded, ⟨List.replicate 32 17, rfl⟩⟩

/-- A first search, without token, with a page number and a query holding markup. -/
def searchRequest : Request :=
  { method := .get, path := "/search", parameters := ⟨[("page", ["2"]), ("q", ["<b>"])], by decide⟩ }

/-- The search passes as a start page, and the rule refuses its query, which holds markup, and
nothing else. -/
theorem fieldErrors_are_rule_failures_search :
    (∃ p, searchGuard.validate searchSession searchRequest = .passed p ∧ p.state = none ∧
      p.fieldErrors = [⟨"/search", "q", "<b>", "word"⟩]) ∧
    (∀ p, searchGuard.validate searchSession searchRequest = .passed p →
      p.fieldErrors.Pairwise (·.parameter < ·.parameter) ∧
      (∀ e, e ∈ p.fieldErrors ↔ ∃ entry ∈ p.parameters.entries,
        Validation.FirstRefusal searchGuard.config p.state searchRequest.path entry.1 entry.2 e) ∧
      ∀ entry ∈ p.parameters.entries,
        Validation.Refused searchGuard.config p.state searchRequest.path entry.1 entry.2 →
        ∃ e ∈ p.fieldErrors, e.parameter = entry.1) ∧
    ∀ (rules : RuleSet) (on : Bool) (v : Violation),
      ({ searchGuard with config := { searchGuard.config with rules, editableValidation := on } } :
          Guard).validate searchSession searchRequest = .tampered v ↔
        searchGuard.validate searchSession searchRequest = .tampered v := by
  have unsealed : searchRequest.parameters.find? searchSession.stateParameterName = none := by
    decide
  have start : searchGuard.config.isStartPage searchRequest.path = true := by
    decide +kernel
  have refused : Validation.fieldErrors searchGuard.config none searchRequest.path
      (searchRequest.parameters.erase searchSession.stateParameterName) =
        [⟨"/search", "q", "<b>", "word"⟩] := by
    decide +kernel
  refine ⟨⟨⟨none, searchRequest.parameters.erase searchSession.stateParameterName, _⟩, ?_, rfl, refused⟩,
    fieldErrors_are_rule_failures _ _ _⟩
  rw [validate_eq_checked, checked, unsealed]
  simp only [start, if_true]
  rfl

end Guard

end FormIntegrity
