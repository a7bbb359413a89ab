import FormIntegrity.Proofs.NameMaps
import FormIntegrity.Validation
import Mathlib.Data.List.Forall2

/-!
# The integrity check, rule by rule

The integrity check of a request against the state its token names is stated here as the rules it
applies, apart from the code that applies them. A submitted text stands for a recorded value of a
parameter (`Parameter.Stands`): with confidentiality on, a placeholder `~i` of a recorded position
stands for the value there; any other text stands for itself when it was recorded. A submitted
parameter is passed on (`Validation.Restores`) as submitted when it is exempt on the path, undeclared
while undeclared parameters are allowed, or editable, and as the values its texts stand for when it
is pinned and has no more values than were recorded; otherwise it is refused (`Validation.Refuses`)
as undeclared, as having too many values, or as tampered, naming its first text that stands for
nothing. Last, a required parameter of the state must have been submitted or be exempt
(`Validation.Lacks`).

`integrity_follows_rules` says that the check passes exactly when the action is the path, every
submitted parameter is passed on and no required parameter is lacking, and then returns what the
rules pass on, name by name; and that it fails with the first violation in order: the action, then
the submitted names in ascending order, then the required parameters in ascending order.
-/

namespace FormIntegrity

/-- A list mapped in `Except` succeeds exactly when every item's image does, with the images in
order. -/
theorem List.mapM_except_eq_ok_iff {α β ε : Type} {f : α → Except ε β} :
    ∀ {l : List α} {r : List β}, l.mapM f = .ok r ↔ List.Forall₂ (fun a b => f a = .ok b) l r
  | [], r => by
    cases r <;> simp [List.mapM_nil, pure, Except.pure]
  | a :: rest, r => by
    rw [List.mapM_cons]
    cases r with
    | nil => cases f a <;> cases rest.mapM f <;> simp [bind, Except.bind, pure, Except.pure]
    | cons b r =>
      rw [List.forall₂_cons, ← List.mapM_except_eq_ok_iff]
      cases f a <;> cases rest.mapM f <;> simp [bind, Except.bind, pure, Except.pure, and_comm]

/-- A list mapped in `Except` fails exactly at its first item whose image fails. -/
theorem List.mapM_except_eq_error_iff {α β ε : Type} {f : α → Except ε β} {e : ε} :
    ∀ {l : List α}, l.mapM f = .error e ↔
      ∃ before a after, l = before ++ a :: after ∧ (∀ b ∈ before, ∃ y, f b = .ok y) ∧ f a = .error e
  | [] => by simp [List.mapM_nil, pure, Except.pure]
  | a :: rest => by
    rw [List.mapM_cons]
    cases image : f a with
    | error e' =>
      simp only [bind, Except.bind, Except.error.injEq]
      constructor
      · rintro rfl
        exact ⟨[], a, rest, rfl, by simp, image⟩
      · rintro ⟨before, x, after, split, passed, failed⟩
        cases before with
        | nil =>
          obtain ⟨rfl, rfl⟩ := List.cons.inj split
          simpa [image] using failed
        | cons y before =>
          obtain ⟨rfl, -⟩ := List.cons.inj split
          obtain ⟨z, ok⟩ := passed a List.mem_cons_self
          simp [image] at ok
    | ok b =>
      cases restImage : rest.mapM f with
      | error e' =>
        simp only [bind, Except.bind, Except.error.injEq]
        have found := List.mapM_except_eq_error_iff.mp (restImage.trans (congrArg _ rfl))
        constructor
        · rintro rfl
          obtain ⟨before, x, after, split, passed, failed⟩ := found
          refine ⟨a :: before, x, after, by simp [split], ?_, failed⟩
          intro y member
          rcases List.mem_cons.mp member with rfl | earlier
          · exact ⟨b, image⟩
          · exact passed y earlier
        · rintro ⟨before, x, after, split, passed, failed⟩
          cases before with
          | nil =>
            obtain ⟨rfl, -⟩ := List.cons.inj split
            simp [image] at failed
          | cons y before =>
            obtain ⟨rfl, split'⟩ := List.cons.inj split
            obtain ⟨before', x', after', split'', passed', failed'⟩ := found
            have unique := List.mapM_except_eq_error_iff.mpr
              ⟨before, x, after, split', fun z member => passed z (List.mem_cons_of_mem _ member), failed⟩
            rw [restImage] at unique
            exact Except.error.inj unique
      | ok bs =>
        simp only [bind, Except.bind, pure, Except.pure, reduceCtorEq, false_iff, not_exists,
          not_and]
        intro before x after split passed failed
        cases before with
        | nil =>
          obtain ⟨rfl, -⟩ := List.cons.inj split
          simp [image] at failed
        | cons y before =>
          obtain ⟨rfl, split'⟩ := List.cons.inj split
          have fails := List.mapM_except_eq_error_iff.mpr
            ⟨before, x, after, split', fun z member => passed z (List.mem_cons_of_mem _ member), failed⟩
          simp [restImage] at fails

/-- A list mapped in `Except` succeeds exactly when every item's image does. -/
theorem List.mapM_except_succeeds_iff {α β ε : Type} {f : α → Except ε β} :
    ∀ {l : List α}, (∃ r, l.mapM f = .ok r) ↔ ∀ a ∈ l, ∃ b, f a = .ok b
  | [] => by simp [List.mapM_nil, pure, Except.pure]
  | a :: rest => by
    simp only [List.mapM_cons, List.mem_cons, forall_eq_or_imp, ← List.mapM_except_succeeds_iff]
    cases f a <;> cases rest.mapM f <;> simp [bind, Except.bind, pure, Except.pure]

namespace NameMap

variable {α : Type} {m : NameMap α}

/-- The entries before a name's entry are exactly those with smaller names. -/
theorem lt_iff_mem_before {before after : List (String × α)} {n : String}
    {x : α} (split : m.entries = before ++ (n, x) :: after) {e : String × α} (member : e ∈ m.entries) :
    e.1 < n ↔ e ∈ before := by
  have sorted := m.sorted
  rw [split, List.pairwise_append, List.pairwise_cons] at sorted
  obtain ⟨-, ⟨afterAbove, -⟩, beforeBelow⟩ := sorted
  rw [split, List.mem_append, List.mem_cons] at member
  constructor
  · intro below
    rcases member with early | rfl | late
    · exact early
    · exact absurd below (lt_irrefl _)
    · exact absurd (afterAbove e late) (not_lt_of_gt below)
  · intro early
    exact beforeBelow e early (n, x) List.mem_cons_self

end NameMap

namespace Parameter

variable (p : Parameter) (confidential : Bool)

/-- What a submitted text stands for among a parameter's recorded values: with confidentiality on,
a placeholder of a recorded position stands for the value there; any other text stands for itself
when it was recorded. -/
def Stands (text value : String) : Prop :=
  (confidential = true ∧ ∃ i : UInt64, Placeholder.read? text = some i ∧ p.values[i.toNat]? = some value) ∨
  ((confidential = true → ∀ i : UInt64, Placeholder.read? text = some i → p.values.length ≤ i.toNat) ∧
    value = text ∧ text ∈ p.values)

/-- Looking a text up among the values finds it exactly when it was recorded. -/
theorem find?_beq_eq_some_iff {values : List String} {text value : String} :
    values.find? (· == text) = some value ↔ value = text ∧ text ∈ values := by
  constructor
  · intro found
    have same : value = text := by simpa using List.find?_some found
    exact ⟨same, same ▸ List.mem_of_find?_eq_some found⟩
  · rintro ⟨rfl, member⟩
    obtain ⟨w, found⟩ : ∃ w, values.find? (· == value) = some w :=
      Option.isSome_iff_exists.mp (List.find?_isSome.mpr ⟨value, member, by simp⟩)
    have same : w = value := by simpa using List.find?_some found
    rw [found, same]

/-- Resolving a submitted text finds exactly the value it stands for. -/
theorem resolve_eq_some_iff {text value : String} :
    p.resolve text confidential = some value ↔ p.Stands confidential text value := by
  unfold resolve Stands
  cases confidential with
  | false => simp [find?_beq_eq_some_iff]
  | true =>
    cases read : Placeholder.read? text with
    | none => simp [find?_beq_eq_some_iff]
    | some i =>
      cases atPosition : p.values[i.toNat]? with
      | none =>
        have beyond : p.values.length ≤ i.toNat := List.getElem?_eq_none_iff.mp atPosition
        simp [find?_beq_eq_some_iff, beyond]
      | some w =>
        have within : ¬p.values.length ≤ i.toNat := by
          have := (List.getElem?_eq_some_iff.mp atPosition).1
          omega
        simp [atPosition, within]

/-- A text stands for one value at most. -/
theorem stands_rightUnique : Relator.RightUnique (p.Stands confidential) := fun _ _ _ first second =>
  Option.some.inj (((resolve_eq_some_iff p confidential).mpr first).symm.trans
    ((resolve_eq_some_iff p confidential).mpr second))

/-- A text stands only for a recorded value. -/
theorem Stands.mem {text value : String} (stands : p.Stands confidential text value) :
    value ∈ p.values := by
  rcases stands with ⟨-, i, -, found⟩ | ⟨-, rfl, member⟩
  · exact List.mem_of_getElem? found
  · exact member

end Parameter

namespace Validation

variable (cfg : Config) (st : State) (path : String)

/-- How the check passes on a submitted parameter: as submitted when it is exempt on the path,
undeclared while undeclared parameters are allowed, or editable; as the values its texts stand for
when it is pinned and has no more values than were recorded. -/
inductive Restores (name : String) (submitted : List String) : List String → Prop
  | exempt : cfg.isExempt path name = true → Restores name submitted submitted
  | undeclared : cfg.isExempt path name = false → st.parameter? name = none →
      cfg.rejectUndeclaredParameters = false → Restores name submitted submitted
  | editable {p : Parameter} : cfg.isExempt path name = false → st.parameter? name = some p →
      p.editable = true → Restores name submitted submitted
  | pinned {p : Parameter} {restored : List String} : cfg.isExempt path name = false →
      st.parameter? name = some p → p.editable = false → submitted.length ≤ p.values.length →
      List.Forall₂ (p.Stands cfg.confidentiality) submitted restored → Restores name submitted restored

/-- How the check refuses a submitted parameter: as undeclared when undeclared parameters are
refused; as having more values than were recorded; or as tampered, naming its first text that
stands for no recorded value. -/
inductive Refuses (name : String) (submitted : List String) : Violation → Prop
  | undeclared : cfg.isExempt path name = false → st.parameter? name = none →
      cfg.rejectUndeclaredParameters = true → Refuses name submitted (.undeclaredParameter name)
  | tooMany {p : Parameter} : cfg.isExempt path name = false → st.parameter? name = some p →
      p.editable = false → p.values.length < submitted.length →
      Refuses name submitted (.tooManyValues name submitted.length p.values.length)
  | tampered {p : Parameter} {before after : List String} {text : String} :
      cfg.isExempt path name = false → st.parameter? name = some p → p.editable = false →
      submitted.length ≤ p.values.length → submitted = before ++ text :: after →
      (∀ t ∈ before, ∃ v, p.Stands cfg.confidentiality t v) → (∀ v, ¬p.Stands cfg.confidentiality text v) →
      Refuses name submitted (.parameterTampered name text p.values)

/-- A required parameter of the state that a request lacks: not submitted and not exempt. -/
def Lacks (params : NameMap (List String)) (p : Parameter) : Prop :=
  p.required = true ∧ params.contains p.name = false ∧ cfg.isExempt path p.name = false

variable {cfg st path}

theorem restoreValues_eq_ok_iff {p : Parameter} {name : String} {confidential : Bool} :
    ∀ {submitted restored : List String}, restoreValues p name confidential submitted = .ok restored ↔
      List.Forall₂ (p.Stands confidential) submitted restored
  | [], restored => by cases restored <;> simp [restoreValues, pure, Except.pure]
  | text :: rest, restored => by
    unfold restoreValues
    cases resolved : p.resolve text confidential with
    | none =>
      have nothing : ∀ v, ¬p.Stands confidential text v := fun v stands => by
        simp [(Parameter.resolve_eq_some_iff p confidential).mpr stands] at resolved
      cases restored with
      | nil => simp [throw, throwThe, MonadExceptOf.throw]
      | cons v vs =>
        simp only [throw, throwThe, MonadExceptOf.throw, reduceCtorEq, List.forall₂_cons, false_iff,
          not_and]
        exact fun stands => absurd stands (nothing v)
    | some w =>
      have stands := (Parameter.resolve_eq_some_iff p confidential).mp resolved
      cases restRestored : restoreValues p name confidential rest with
      | error e =>
        have fails : ∀ vs, ¬List.Forall₂ (p.Stands confidential) rest vs := fun vs all => by
          simp [restoreValues_eq_ok_iff.mpr all] at restRestored
        cases restored with
        | nil => simp [Functor.map, Except.map]
        | cons v vs => simpa [Functor.map, Except.map] using fun _ => fails vs
      | ok ws =>
        have all := restoreValues_eq_ok_iff.mp restRestored
        cases restored with
        | nil => simp [Functor.map, Except.map]
        | cons v vs =>
          simp only [Functor.map, Except.map, Except.ok.injEq, List.cons.injEq, List.forall₂_cons]
          have unique := p.stands_rightUnique confidential
          constructor
          · rintro ⟨rfl, rfl⟩
            exact ⟨stands, all⟩
          · rintro ⟨stands', all'⟩
            exact ⟨unique stands stands', List.right_unique_forall₂' unique all all'⟩

theorem restoreValues_eq_error_iff {p : Parameter} {name : String} {confidential : Bool} {v : Violation} :
    ∀ {submitted : List String}, restoreValues p name confidential submitted = .error v ↔
      ∃ before text after, submitted = before ++ text :: after ∧
        (∀ t ∈ before, ∃ w, p.Stands confidential t w) ∧ (∀ w, ¬p.Stands confidential text w) ∧
        v = .parameterTampered name text p.values
  | [] => by simp [restoreValues, pure, Except.pure]
  | text :: rest => by
    unfold restoreValues
    cases resolved : p.resolve text confidential with
    | none =>
      have nothing : ∀ w, ¬p.Stands confidential text w := fun w stands => by
        simp [(Parameter.resolve_eq_some_iff p confidential).mpr stands] at resolved
      simp only [throw, throwThe, MonadExceptOf.throw, Except.error.injEq]
      constructor
      · rintro rfl
        exact ⟨[], text, rest, rfl, by simp, nothing, rfl⟩
      · rintro ⟨before, t, after, split, stands, -, rfl⟩
        cases before with
        | nil =>
          obtain ⟨rfl, -⟩ := List.cons.inj split
          rfl
        | cons t' before =>
          obtain ⟨rfl, -⟩ := List.cons.inj split
          obtain ⟨w, standsFor⟩ := stands text List.mem_cons_self
          exact absurd standsFor (nothing w)
    | some w =>
      -- the first text stands for a value, so the failure is among the texts after it
      have stands := (Parameter.resolve_eq_some_iff p confidential).mp resolved
      have later : restoreValues p name confidential rest = .error v ↔
          (w :: ·) <$> restoreValues p name confidential rest = .error v := by
        cases restoreValues p name confidential rest <;> simp [Functor.map, Except.map]
      rw [← later, restoreValues_eq_error_iff]
      constructor
      · rintro ⟨before, t, after, rfl, passed, nothing, rfl⟩
        refine ⟨text :: before, t, after, rfl, fun t' member => ?_, nothing, rfl⟩
        rcases List.mem_cons.mp member with rfl | earlier
        · exact ⟨w, stands⟩
        · exact passed t' earlier
      · rintro ⟨before, t, after, split, passed, nothing, rfl⟩
        cases before with
        | nil =>
          obtain ⟨rfl, -⟩ := List.cons.inj split
          exact absurd stands (nothing w)
        | cons t' before =>
          obtain ⟨-, rfl⟩ := List.cons.inj split
          exact ⟨before, t, after, rfl, fun u member => passed u (List.mem_cons_of_mem _ member), nothing, rfl⟩

/-- The check of one submitted parameter passes it on exactly as the rules say. -/
theorem checkParameter_eq_ok_iff {name : String} {submitted restored : List String} :
    checkParameter cfg st path name submitted = .ok restored ↔ Restores cfg st path name submitted restored := by
  constructor
  · intro checked
    unfold checkParameter at checked
    cases exempt : cfg.isExempt path name with
    | true =>
      simp only [exempt, if_true, pure, Except.pure, Except.ok.injEq] at checked
      exact checked ▸ .exempt exempt
    | false =>
      simp only [exempt, Bool.false_eq_true, if_false] at checked
      cases declared : st.parameter? name with
      | none =>
        cases reject : cfg.rejectUndeclaredParameters with
        | true => simp [declared, reject, throw, throwThe, MonadExceptOf.throw] at checked
        | false =>
          simp only [declared, reject, Bool.false_eq_true, if_false, pure, Except.pure,
            Except.ok.injEq] at checked
          exact checked ▸ .undeclared exempt declared reject
      | some p =>
        cases editable : p.editable with
        | true =>
          simp only [declared, editable, if_true, pure, Except.pure, Except.ok.injEq] at checked
          exact checked ▸ .editable exempt declared editable
        | false =>
          simp only [declared, editable, Bool.false_eq_true, if_false] at checked
          split at checked
          · simp [throw, throwThe, MonadExceptOf.throw] at checked
          · rename_i notMore
            exact .pinned exempt declared editable (by omega) (restoreValues_eq_ok_iff.mp checked)
  · intro restores
    unfold checkParameter
    cases restores with
    | exempt exempt => simp [exempt, pure, Except.pure]
    | undeclared exempt declared reject => simp [exempt, declared, reject, pure, Except.pure]
    | editable exempt declared editable => simp [exempt, declared, editable, pure, Except.pure]
    | pinned exempt declared editable notMore stands =>
      have within : ¬submitted.length > _ := Nat.not_lt.mpr notMore
      simp only [exempt, declared, editable, within, Bool.false_eq_true, if_false]
      exact restoreValues_eq_ok_iff.mpr stands

/-- The check of one submitted parameter refuses it exactly as the rules say. -/
theorem checkParameter_eq_error_iff {name : String} {submitted : List String} {v : Violation} :
    checkParameter cfg st path name submitted = .error v ↔ Refuses cfg st path name submitted v := by
  constructor
  · intro checked
    unfold checkParameter at checked
    cases exempt : cfg.isExempt path name with
    | true => simp [exempt, pure, Except.pure] at checked
    | false =>
      simp only [exempt, Bool.false_eq_true, if_false] at checked
      cases declared : st.parameter? name with
      | none =>
        cases reject : cfg.rejectUndeclaredParameters with
        | true =>
          simp only [declared, reject, if_true, throw, throwThe, MonadExceptOf.throw,
            Except.error.injEq] at checked
          exact checked ▸ .undeclared exempt declared reject
        | false => simp [declared, reject, pure, Except.pure] at checked
      | some p =>
        cases editable : p.editable with
        | true => simp [declared, editable, pure, Except.pure] at checked
        | false =>
          simp only [declared, editable, Bool.false_eq_true, if_false] at checked
          split at checked
          · rename_i more
            simp only [throw, throwThe, MonadExceptOf.throw, Except.error.injEq] at checked
            exact checked ▸ .tooMany exempt declared editable more
          · rename_i notMore
            obtain ⟨before, text, after, split, passed, nothing, rfl⟩ :=
              restoreValues_eq_error_iff.mp checked
            exact .tampered exempt declared editable (by omega) split passed nothing
  · intro refuses
    unfold checkParameter
    cases refuses with
    | undeclared exempt declared reject =>
      simp [exempt, declared, reject, throw, throwThe, MonadExceptOf.throw]
    | tooMany exempt declared editable more =>
      simp [exempt, declared, editable, more, throw, throwThe, MonadExceptOf.throw]
    | tampered exempt declared editable notMore split passed nothing =>
      have within : ¬submitted.length > _ := Nat.not_lt.mpr notMore
      simp only [exempt, declared, editable, within, Bool.false_eq_true, if_false]
      exact restoreValues_eq_error_iff.mpr ⟨_, _, _, split, passed, nothing, rfl⟩

theorem lacks_iff {params : NameMap (List String)} {p : Parameter} :
    Lacks cfg path params p ↔ (p.required && !params.contains p.name && !cfg.isExempt path p.name) = true := by
  simp [Lacks, and_assoc]

/-- No required parameter is reported missing exactly when none is lacking. -/
theorem missingRequired_eq_none_iff {params : NameMap (List String)} :
    missingRequired cfg st path params = none ↔ ∀ e ∈ st.parameters.entries, ¬Lacks cfg path params e.2 := by
  simp only [missingRequired, Option.map_eq_none_iff, List.find?_eq_none, lacks_iff]

/-- The required parameter reported missing is the first one lacking. -/
theorem missingRequired_eq_some_iff {params : NameMap (List String)} {name : String} :
    missingRequired cfg st path params = some name ↔
      ∃ before e after, st.parameters.entries = before ++ e :: after ∧
        (∀ b ∈ before, ¬Lacks cfg path params b.2) ∧ Lacks cfg path params e.2 ∧ name = e.2.name := by
  simp only [missingRequired, Option.map_eq_some_iff, List.find?_eq_some_iff_append, lacks_iff]
  have negate : ∀ b : Bool, (!b) = true ↔ ¬b = true := by decide
  constructor
  · rintro ⟨e, ⟨lacking, before, after, split, passed⟩, rfl⟩
    exact ⟨before, e, after, split, fun b member => (negate _).mp (passed b member), lacking, rfl⟩
  · rintro ⟨before, e, after, split, passed, lacking, rfl⟩
    exact ⟨e, ⟨lacking, before, after, split, fun b member => (negate _).mpr (passed b member)⟩, rfl⟩

/-- Checking one submitted parameter gives its name with the values passed on for it. -/
theorem checkEntry_eq_ok_iff {e r : String × List String} :
    (do pure (e.1, ← checkParameter cfg st path e.1 e.2) : Except Violation (String × List String)) = .ok r ↔
      r.1 = e.1 ∧ Restores cfg st path e.1 e.2 r.2 := by
  rw [← checkParameter_eq_ok_iff]
  obtain ⟨n, ws⟩ := r
  cases checkParameter cfg st path e.1 e.2 <;> simp [bind, Except.bind, pure, Except.pure, eq_comm]

theorem checkEntry_eq_error_iff {e : String × List String} {v : Violation} :
    (do pure (e.1, ← checkParameter cfg st path e.1 e.2) : Except Violation (String × List String)) = .error v ↔
      Refuses cfg st path e.1 e.2 v := by
  rw [← checkParameter_eq_error_iff]
  cases checkParameter cfg st path e.1 e.2 <;> simp [bind, Except.bind, pure, Except.pure]

/-- The check passes exactly when the action is the path, every submitted parameter is passed on
and no required parameter is lacking; it then returns, name by name, what the rules pass on. -/
theorem integrity_eq_ok_iff {params restored : NameMap (List String)} :
    integrity cfg st path params = .ok restored ↔
      st.action = path ∧
      List.Forall₂ (fun e r => r.1 = e.1 ∧ Restores cfg st path e.1 e.2 r.2) params.entries
        restored.entries ∧
      ∀ e ∈ st.parameters.entries, ¬Lacks cfg path params e.2 := by
  by_cases atAction : st.action = path
  · simp only [integrity, atAction, ne_eq, not_true_eq_false, if_false, true_and]
    cases checked : params.entries.mapM (fun e => do pure (e.1, ← checkParameter cfg st path e.1 e.2)) with
    | error v =>
      -- some submitted parameter is refused, so they are not all passed on
      simp only [bind, Except.bind, reduceCtorEq, false_iff, not_and]
      intro all
      have passes := List.mapM_except_eq_ok_iff.mpr
        (all.imp fun e r restores => checkEntry_eq_ok_iff.mpr restores)
      rw [checked] at passes
      cases passes
    | ok rs =>
      have passedOn : List.Forall₂ (fun e r => r.1 = e.1 ∧ Restores cfg st path e.1 e.2 r.2)
          params.entries rs :=
        (List.mapM_except_eq_ok_iff.mp checked).imp fun _ _ ok => checkEntry_eq_ok_iff.mp ok
      cases missing : missingRequired cfg st path params with
      | some name =>
        obtain ⟨before, e, after, split, -, lacking, -⟩ := missingRequired_eq_some_iff.mp missing
        simp only [bind, Except.bind, throw, throwThe, MonadExceptOf.throw, reduceCtorEq,
          false_iff, not_and]
        exact fun _ complete => complete e (by simp [split]) lacking
      | none =>
        have complete := missingRequired_eq_none_iff.mp missing
        -- the names passed on are the submitted ones, so they ascend and the map keeps them
        have kept : (NameMap.ofList rs).entries = rs :=
          NameMap.ofList_entries (NameMap.ascending_of_names_eq
            (NameMap.names_eq_of_forall₂ (fun _ _ passes => passes.1) passedOn) params.sorted)
        simp only [bind, Except.bind, pure, Except.pure, Except.ok.injEq]
        constructor
        · rintro rfl
          rw [kept]
          exact ⟨passedOn, complete⟩
        · rintro ⟨all, -⟩
          ext1
          rw [kept]
          -- the values passed on for a name are determined by the rules
          refine List.right_unique_forall₂' (fun e r r' first second => ?_) passedOn all
          obtain ⟨n, ws⟩ := r
          obtain ⟨n', ws'⟩ := r'
          obtain ⟨rfl, restores⟩ := first
          obtain ⟨rfl, restores'⟩ := second
          have same := (checkParameter_eq_ok_iff.mpr restores).symm.trans
            (checkParameter_eq_ok_iff.mpr restores')
          simp only [Except.ok.injEq] at same
          rw [same]
  · simp [integrity, atAction, throw, throwThe, MonadExceptOf.throw, bind, Except.bind]

theorem checkEntry_passes_iff {e : String × List String} :
    (∃ r, (do pure (e.1, ← checkParameter cfg st path e.1 e.2) : Except Violation (String × List String)) =
      .ok r) ↔ ∃ ws, Restores cfg st path e.1 e.2 ws := by
  simp only [checkEntry_eq_ok_iff]
  constructor
  · rintro ⟨r, -, restores⟩
    exact ⟨r.2, restores⟩
  · rintro ⟨ws, restores⟩
    exact ⟨(e.1, ws), rfl, restores⟩

/-- The check fails with the first violation met: a wrong action; else the first submitted
parameter, in the map's order, that the rules refuse, with the violation they give; else the first
required parameter, in the state's order, that is lacking. -/
theorem integrity_eq_error_iff {params : NameMap (List String)} {v : Violation} :
    integrity cfg st path params = .error v ↔
      (st.action ≠ path ∧ v = .actionMismatch st.action path) ∨
      (st.action = path ∧ ∃ before e after, params.entries = before ++ e :: after ∧
        (∀ b ∈ before, ∃ ws, Restores cfg st path b.1 b.2 ws) ∧ Refuses cfg st path e.1 e.2 v) ∨
      (st.action = path ∧ (∀ e ∈ params.entries, ∃ ws, Restores cfg st path e.1 e.2 ws) ∧
        ∃ before e after, st.parameters.entries = before ++ e :: after ∧
          (∀ b ∈ before, ¬Lacks cfg path params b.2) ∧
          (Lacks cfg path params e.2 ∧ v = .requiredParameterMissing e.2.name)) := by
  by_cases atAction : st.action = path
  · simp only [integrity, atAction, ne_eq, not_true_eq_false, if_false, false_and, false_or, true_and]
    -- the submitted parameters are refused at a given entry exactly when their check fails there
    have refusedAt : ∀ {w : Violation}, (∃ before e after, params.entries = before ++ e :: after ∧
        (∀ b ∈ before, ∃ ws, Restores cfg st path b.1 b.2 ws) ∧ Refuses cfg st path e.1 e.2 w) ↔
        params.entries.mapM (fun e => do pure (e.1, ← checkParameter cfg st path e.1 e.2)) = .error w := by
      intro w
      rw [List.mapM_except_eq_error_iff]
      simp only [checkEntry_passes_iff, checkEntry_eq_error_iff]
    rw [refusedAt]
    -- every submitted parameter is passed on exactly when checking them all succeeds
    have allIff : (∀ e ∈ params.entries, ∃ ws, Restores cfg st path e.1 e.2 ws) ↔
        ∃ rs, params.entries.mapM (fun e => do pure (e.1, ← checkParameter cfg st path e.1 e.2)) = .ok rs := by
      rw [List.mapM_except_succeeds_iff]
      simp only [checkEntry_passes_iff]
    rw [allIff]
    cases checked : params.entries.mapM (fun e => do pure (e.1, ← checkParameter cfg st path e.1 e.2)) with
    | error w =>
      simp only [bind, Except.bind, Except.error.injEq, reduceCtorEq, exists_false, false_and, or_false]
    | ok rs =>
      simp only [reduceCtorEq, false_or, Except.ok.injEq, exists_eq', true_and]
      cases missing : missingRequired cfg st path params with
      | some name =>
        obtain ⟨before, e, after, split, passed, lacking, rfl⟩ := missingRequired_eq_some_iff.mp missing
        simp only [bind, Except.bind, throw, throwThe, MonadExceptOf.throw, Except.error.injEq]
        constructor
        · rintro rfl
          exact ⟨before, e, after, split, passed, lacking, rfl⟩
        · rintro ⟨before', e', after', split', passed', lacking', rfl⟩
          have again := missingRequired_eq_some_iff.mpr ⟨before', e', after', split', passed', lacking', rfl⟩
          rw [missing] at again
          rw [Option.some.inj again]
      | none =>
        have complete := missingRequired_eq_none_iff.mp missing
        simp only [bind, Except.bind, pure, Except.pure, reduceCtorEq, false_iff, not_exists, not_and]
        intro before e after split _ lacking _
        exact complete e (by simp [split]) lacking
  · simp [integrity, atAction, throw, throwThe, MonadExceptOf.throw, bind, Except.bind, eq_comm]

/-- Every value passed on for a pinned parameter is one of its recorded values. -/
theorem Restores.mem_values {name : String} {submitted restored : List String} {p : Parameter}
    (restores : Restores cfg st path name submitted restored) (declared : st.parameter? name = some p)
    (pinned : p.editable = false) (exempt : cfg.isExempt path name = false) : ∀ v ∈ restored, v ∈ p.values := by
  cases restores with
  | exempt exempt' => simp [exempt] at exempt'
  | undeclared _ undeclared => simp [declared] at undeclared
  | editable _ declared' editable =>
    rw [declared] at declared'
    cases declared'
    simp [pinned] at editable
  | pinned _ declared' _ _ stands =>
    rw [declared] at declared'
    cases declared'
    intro v member
    obtain ⟨j, hj, rfl⟩ := List.getElem_of_mem member
    exact Parameter.Stands.mem _ _ (List.forall₂_iff_get.mp stands |>.2 j (stands.length_eq ▸ hj) hj)

/-- An entry of a map comes first among those with a property exactly when every entry with a
smaller name lacks it. -/
theorem first_iff_least {α : Type} {m : NameMap α} {P Q : String × α → Prop} :
    (∃ before e after, m.entries = before ++ e :: after ∧ (∀ b ∈ before, P b) ∧ Q e) ↔
      ∃ e ∈ m.entries, Q e ∧ ∀ b ∈ m.entries, b.1 < e.1 → P b := by
  constructor
  · rintro ⟨before, e, after, split, passed, holds⟩
    refine ⟨e, by simp [split], holds, fun b member below => passed b ?_⟩
    exact (m.lt_iff_mem_before split member).mp below
  · rintro ⟨e, member, holds, passed⟩
    obtain ⟨before, after, split⟩ := List.append_of_mem member
    refine ⟨before, e, after, split, fun b early => passed b (by simp [split, early]) ?_, holds⟩
    exact (m.lt_iff_mem_before split (by simp [split, early])).mpr early

/-- **The integrity check applies exactly its rules.** For maps of submitted parameters and of
recorded parameters, each in ascending order of names as every map is: the check passes exactly when the action is
the path, every submitted parameter is passed on and no required parameter is lacking, and then
returns each submitted name with what the rules pass on for it, every value passed on for a pinned
parameter being one of its recorded values; and it fails exactly with the first violation met, in
this order: the action; the submitted names in ascending order, each refused as undeclared, as
having too many values, or as tampered at its first text that stands for nothing; the required
parameters in ascending order. -/
theorem integrity_follows_rules (cfg : Config) (st : State) (path : String)
    (params : NameMap (List String)) :
    (∀ restored : NameMap (List String), integrity cfg st path params = .ok restored ↔
      st.action = path ∧
      List.Forall₂ (fun e r => r.1 = e.1 ∧ Restores cfg st path e.1 e.2 r.2) params.entries
        restored.entries ∧
      ∀ e ∈ st.parameters.entries, ¬Lacks cfg path params e.2) ∧
    (∀ restored : NameMap (List String), integrity cfg st path params = .ok restored →
      ∀ r ∈ restored.entries, ∀ p, st.parameter? r.1 = some p → p.editable = false →
        cfg.isExempt path r.1 = false → ∀ v ∈ r.2, v ∈ p.values) ∧
    (∀ v : Violation, integrity cfg st path params = .error v ↔
      (st.action ≠ path ∧ v = .actionMismatch st.action path) ∨
      (st.action = path ∧ ∃ e ∈ params.entries, Refuses cfg st path e.1 e.2 v ∧
        ∀ b ∈ params.entries, b.1 < e.1 → ∃ ws, Restores cfg st path b.1 b.2 ws) ∨
      (st.action = path ∧ (∀ e ∈ params.entries, ∃ ws, Restores cfg st path e.1 e.2 ws) ∧
        ∃ e ∈ st.parameters.entries, (Lacks cfg path params e.2 ∧ v = .requiredParameterMissing e.2.name) ∧
          ∀ b ∈ st.parameters.entries, b.1 < e.1 → ¬Lacks cfg path params b.2)) := by
  refine ⟨fun restored => integrity_eq_ok_iff, fun restored passed r member p declared pinned exempt => ?_,
    fun v => ?_⟩
  · -- the entry passed on for a name is restored from the submitted entry of that name
    obtain ⟨-, all, -⟩ := integrity_eq_ok_iff.mp passed
    obtain ⟨i, hi, rfl⟩ := List.getElem_of_mem member
    obtain ⟨named, restores⟩ := List.forall₂_iff_get.mp all |>.2 i (all.length_eq ▸ hi) hi
    simp only [List.get_eq_getElem] at named restores
    rw [named] at declared exempt
    exact restores.mem_values declared pinned exempt
  · rw [integrity_eq_error_iff, first_iff_least, first_iff_least]

end Validation

end FormIntegrity
