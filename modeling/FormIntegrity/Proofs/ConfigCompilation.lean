import FormIntegrity.Config.Basic
import FormIntegrity.Proofs.IntegrityCheck
import FormIntegrity.Proofs.Calls

/-!
# Compiling settings, check by check

Compiling settings makes a fixed sequence of checks and stops at the first that fails. This module
lists the checks apart from the code that makes them (`Settings.checks`), each with the error it
reports (`SettingsCheck.failure?`):

* the page count is at least one;
* the state parameter name is non-empty and holds none of `&`, `=`, `?` and `#`;
* every rule, in order, has an accepted or a rejected pattern, then its URL, parameter, accepted and
  rejected patterns compile;
* every default rule, in order, carries no URL pattern, then is checked as a rule;
* when enabled, the built-in rules are checked as rules;
* every exemption's URL pattern compiles, then its parameter patterns;
* every start page pattern compiles, then every start parameter pattern.

`Reports x checks` says that a computation fails exactly with the error of the first failing check.
It is kept by binding and by mapping over lists, so `compile_reports` follows the shape of
`Config.compile`. From it, `compile_checks_in_order` says that compiling succeeds exactly when the
settings are acceptable, that a failure is the first check that fails, and that a compiled
configuration groups the rules, the default rules and the enabled built-in rules, in that order.
-/

namespace FormIntegrity

/-- One check made while settings are compiled. -/
inductive SettingsCheck where
  /-- The page cache holds at least one page. -/
  | pages (count : Nat)
  /-- The state parameter name is usable in a query. -/
  | stateName (name : String)
  /-- A rule has an accepted or a rejected pattern. -/
  | hasPattern (spec : RuleSpec)
  /-- A default rule carries no URL pattern. -/
  | noUrl (spec : RuleSpec)
  /-- A pattern compiles. -/
  | compiles (source : String)

namespace SettingsCheck

/-- The error of a check that fails. -/
def failure? : SettingsCheck → Option SetupError
  | .pages count => if count = 0 then some (.config .noPages) else none
  | .stateName name =>
    if Config.validStateName name then none else some (.config (.badStateName name))
  | .hasPattern spec =>
    if spec.accepted.isNone && spec.rejected.isNone then some (.config (.ruleWithoutPattern spec.name))
    else none
  | .noUrl spec => if spec.url.isSome then some (.config (.defaultRuleWithUrl spec.name)) else none
  | .compiles source =>
    match Pattern.compile source with
    | .ok _ => none
    | .error e => some (.pattern e)

end SettingsCheck

/-- The patterns of a rule in the order they are compiled: URL, parameter, accepted, rejected. -/
def RuleSpec.sources (spec : RuleSpec) : List String :=
  spec.url.toList ++ spec.parameter.toList ++ spec.accepted.toList ++ spec.rejected.toList

/-- The checks of a rule: it has a pattern to accept or reject by, then each of its patterns
compiles. -/
def RuleSpec.checks (spec : RuleSpec) : List SettingsCheck :=
  .hasPattern spec :: spec.sources.map .compiles

/-- The checks of a default rule: it carries no URL pattern, then it is checked as a rule. -/
def RuleSpec.defaultChecks (spec : RuleSpec) : List SettingsCheck :=
  .noUrl spec :: spec.checks

/-- The checks of an exemption: its URL pattern compiles, then its parameter patterns. -/
def Exemption.checks (ex : Exemption) : List SettingsCheck :=
  (ex.url :: ex.parameters).map .compiles

/-- The rules settings add to the default bucket when built-in rules are enabled. -/
def Settings.builtinRules (s : Settings) : List RuleSpec :=
  if s.builtinDefaultRules then RuleSpec.builtins else []

/-- The checks of settings, in the order they are made. -/
def Settings.checks (s : Settings) : List SettingsCheck :=
  [.pages s.maxPagesPerSession, .stateName s.stateParameterName] ++
    s.rules.flatMap RuleSpec.checks ++ s.defaultRules.flatMap RuleSpec.defaultChecks ++
    s.builtinRules.flatMap RuleSpec.checks ++ s.exemptions.flatMap Exemption.checks ++
    s.startPages.map .compiles ++ s.startParameters.map .compiles

/-- A pattern source that compiles. -/
def Pattern.Compiles (source : String) : Prop :=
  ∃ p, Pattern.compile source = .ok p

/-- Settings that compile, said without the order of the checks: at least one page; a state
parameter name that is non-empty and free of `&`, `=`, `?` and `#`; every rule and default rule
with an accepted or rejected pattern and with patterns that compile; default rules without URL
patterns; and exemption, start page and start parameter patterns that compile. -/
def Settings.Acceptable (s : Settings) : Prop :=
  0 < s.maxPagesPerSession ∧
  s.stateParameterName ≠ "" ∧ (∀ c ∈ s.stateParameterName.toList, c ∉ ['&', '=', '?', '#']) ∧
  (∀ spec ∈ s.rules ++ s.defaultRules,
    (spec.accepted.isSome ∨ spec.rejected.isSome) ∧ ∀ src ∈ spec.sources, Pattern.Compiles src) ∧
  (∀ spec ∈ s.defaultRules, spec.url = none) ∧
  (∀ ex ∈ s.exemptions, Pattern.Compiles ex.url ∧ ∀ p ∈ ex.parameters, Pattern.Compiles p) ∧
  (∀ p ∈ s.startPages, Pattern.Compiles p) ∧ (∀ p ∈ s.startParameters, Pattern.Compiles p)

/-! ## Reporting the first failure -/

/-- A computation that fails exactly with the error of the first failing check of a list. -/
def Reports {α : Type} (x : Except SetupError α) (checks : List SettingsCheck) : Prop :=
  ∀ e, x = .error e ↔ checks.findSome? SettingsCheck.failure? = some e

namespace Reports

variable {α β : Type} {x : Except SetupError α} {checks rest : List SettingsCheck}

/-- A computation that reports its checks succeeds exactly when every check passes. -/
theorem ok_iff (h : Reports x checks) :
    (∃ a, x = .ok a) ↔ ∀ ch ∈ checks, ch.failure? = none := by
  rw [← List.findSome?_eq_none_iff]
  constructor
  · rintro ⟨a, rfl⟩
    cases found : checks.findSome? SettingsCheck.failure? with
    | none => rfl
    | some e => exact absurd ((h e).mpr found) (by simp)
  · intro passed
    cases x with
    | ok a => exact ⟨a, rfl⟩
    | error e => exact absurd ((h e).mp rfl) (by simp [passed])

theorem pure (a : α) : Reports (pure a : Except SetupError α) [] := by
  intro e
  simp [Pure.pure, Except.pure]

/-- A first step that reports its checks, followed by steps that report theirs, reports both lists
in order. -/
theorem bind {f : α → Except SetupError β} (first : Reports x checks)
    (next : ∀ a, x = .ok a → Reports (f a) rest) : Reports (x >>= f) (checks ++ rest) := by
  intro e
  rw [List.findSome?_append]
  cases x with
  | error e' =>
    have failed := (first e').mp rfl
    simp only [bind, Except.bind, Except.error.injEq, failed, Option.some_or, Option.some.injEq]
  | ok a =>
    have passed : checks.findSome? SettingsCheck.failure? = none := by
      cases found : checks.findSome? SettingsCheck.failure? with
      | none => rfl
      | some e' => exact absurd ((first e').mpr found) (by simp)
    rw [passed, Option.none_or]
    exact next a rfl e

/-- A check that passes adds nothing to what a computation reports. -/
theorem cons_passed {ch : SettingsCheck} (passed : ch.failure? = none) (h : Reports x checks) :
    Reports x (ch :: checks) := by
  intro e
  rw [List.findSome?_cons, passed]
  exact h e

/-- A check that fails is reported first. -/
theorem cons_failed {ch : SettingsCheck} {e : SetupError} (failed : ch.failure? = some e) :
    Reports (.error e : Except SetupError α) (ch :: checks) := by
  intro e'
  rw [List.findSome?_cons, failed]
  simp

/-- Mapping over a list reports the checks of every item, item after item. -/
theorem mapM {γ : Type} {f : γ → Except SetupError β} {itemChecks : γ → List SettingsCheck}
    (each : ∀ a, Reports (f a) (itemChecks a)) :
    ∀ l : List γ, Reports (l.mapM f) (l.flatMap itemChecks)
  | [] => by simpa using Reports.pure ([] : List β)
  | a :: l => by
    rw [List.mapM_cons, List.flatMap_cons]
    refine bind (each a) fun b _ => ?_
    rw [← List.append_nil (l.flatMap itemChecks)]
    exact bind (mapM each l) fun bs _ => Reports.pure (b :: bs)

end Reports

/-! ## Each step of compiling -/

/-- Compiling one pattern reports whether it compiles. -/
theorem reports_compile (src : String) :
    Reports ((Pattern.compile src).mapError SetupError.pattern) [.compiles src] := by
  intro e
  simp only [List.findSome?_cons, List.findSome?_nil, SettingsCheck.failure?]
  cases Pattern.compile src <;> simp [Except.mapError, eq_comm]

/-- Compiling an optional pattern reports whether it compiles, when there is one. -/
theorem reports_compileOpt (o : Option String) :
    Reports (Rule.compileOpt o) (o.toList.map .compiles) := by
  cases o with
  | none => exact Reports.pure none
  | some src =>
    intro e
    simp only [Rule.compileOpt, Option.toList_some, List.map_cons, List.map_nil,
      List.findSome?_cons, List.findSome?_nil, SettingsCheck.failure?]
    cases Pattern.compile src <;> simp [eq_comm]

theorem compileSources_eq (srcs : List String) :
    Config.compileSources srcs = srcs.mapM fun src => (Pattern.compile src).mapError SetupError.pattern := by
  induction srcs with
  | nil => rfl
  | cons src rest ih =>
    rw [List.mapM_cons, ← ih]
    simp only [Config.compileSources, Pattern.compileAll, List.mapM_cons]
    cases Pattern.compile src <;> cases rest.mapM Pattern.compile <;> rfl

/-- Compiling a list of patterns reports whether each compiles, in order. -/
theorem reports_compileSources (srcs : List String) :
    Reports (Config.compileSources srcs) (srcs.map .compiles) := by
  rw [compileSources_eq, List.map_eq_flatMap]
  exact Reports.mapM reports_compile srcs

/-- Compiling a rule reports its checks. -/
theorem reports_ruleCompile (spec : RuleSpec) : Reports (Rule.compile spec) spec.checks := by
  unfold Rule.compile RuleSpec.checks
  dsimp only
  split
  · rename_i missing
    exact Reports.cons_failed (by simp [SettingsCheck.failure?, missing])
  · rename_i present
    refine Reports.cons_passed (by simp [SettingsCheck.failure?, present]) ?_
    simp only [RuleSpec.sources, List.map_append, List.append_assoc]
    refine Reports.bind (reports_compileOpt spec.url) fun url _ => ?_
    refine Reports.bind (reports_compileOpt spec.parameter) fun parameter _ => ?_
    refine Reports.bind (reports_compileOpt spec.accepted) fun accepted _ => ?_
    rw [← List.append_nil (spec.rejected.toList.map _)]
    exact Reports.bind (reports_compileOpt spec.rejected) fun rejected _ => Reports.pure _

/-- Compiling a default rule reports its checks: its URL pattern is refused before it is compiled. -/
theorem reports_defaultRule (spec : RuleSpec) :
    Reports (if spec.url.isSome then throw (.config (.defaultRuleWithUrl spec.name))
      else Rule.compile spec) spec.defaultChecks := by
  unfold RuleSpec.defaultChecks
  split
  · rename_i carried
    exact Reports.cons_failed (by simp [SettingsCheck.failure?, carried])
  · rename_i bare
    exact Reports.cons_passed (by simp [SettingsCheck.failure?, bare]) (reports_ruleCompile spec)

/-- Compiling an exemption reports its checks: its URL pattern, then its parameter patterns. -/
theorem reports_exemption (ex : Exemption) :
    Reports (do
      let url ← (Pattern.compile ex.url).mapError SetupError.pattern
      let params ← Config.compileSources ex.parameters
      pure (url, params)) ex.checks := by
  unfold Exemption.checks
  rw [List.map_cons, ← List.singleton_append, ← List.append_nil (ex.parameters.map _)]
  exact Reports.bind (reports_compile ex.url) fun url _ =>
    Reports.bind (reports_compileSources ex.parameters) fun params _ => Reports.pure _

/-- The last steps of compiling report their checks: the exemptions, the start pages and the start
parameters, whatever configuration is made of them. -/
theorem reports_patterns (s : Settings)
    (make : List (Pattern × List Pattern) → List Pattern → List Pattern → Config) :
    Reports (do
      let exemptions ← s.exemptions.mapM fun ex => do
        let url ← (Pattern.compile ex.url).mapError SetupError.pattern
        let params ← Config.compileSources ex.parameters
        pure (url, params)
      let startPages ← Config.compileSources s.startPages
      let startParameters ← Config.compileSources s.startParameters
      pure (make exemptions startPages startParameters))
      (s.exemptions.flatMap Exemption.checks ++
        (s.startPages.map .compiles ++ s.startParameters.map .compiles)) := by
  refine Reports.bind (Reports.mapM reports_exemption s.exemptions) fun exemptions _ => ?_
  refine Reports.bind (reports_compileSources s.startPages) fun startPages _ => ?_
  rw [← List.append_nil (s.startParameters.map _)]
  exact Reports.bind (reports_compileSources s.startParameters) fun startParameters _ =>
    Reports.pure _

/-- Compiling settings fails exactly with the error of their first failing check. -/
theorem compile_reports (s : Settings) : Reports (Config.compile s) s.checks := by
  unfold Config.compile Settings.checks
  dsimp only
  simp only [List.append_assoc, List.cons_append, List.nil_append]
  split
  · rename_i noPages
    exact Reports.cons_failed (by simp [SettingsCheck.failure?, noPages])
  · rename_i somePages
    refine Reports.cons_passed (by simp [SettingsCheck.failure?, somePages]) ?_
    split
    · rename_i badName
      exact Reports.cons_failed (by simp_all [SettingsCheck.failure?])
    · rename_i goodName
      refine Reports.cons_passed (by simp_all [SettingsCheck.failure?]) ?_
      refine Reports.bind (Reports.mapM reports_ruleCompile s.rules) fun rules _ => ?_
      refine Reports.bind (Reports.mapM reports_defaultRule s.defaultRules) fun defaults _ => ?_
      unfold Settings.builtinRules
      split
      · exact Reports.bind (Reports.mapM reports_ruleCompile RuleSpec.builtins) fun builtins _ =>
          reports_patterns s _
      · rw [List.flatMap_nil]
        exact Reports.bind (Reports.pure []) fun builtins _ => reports_patterns s _

/-! ## What the checks require -/

namespace SettingsCheck

variable {n : Nat} {name src : String} {spec : RuleSpec}

@[simp] theorem failure?_pages : (pages n).failure? = none ↔ 0 < n := by
  simp [failure?, Nat.pos_iff_ne_zero]

@[simp] theorem failure?_stateName :
    (stateName name).failure? = none ↔
      name ≠ "" ∧ ∀ c ∈ name.toList, c ∉ ['&', '=', '?', '#'] := by
  simp [failure?, Config.validStateName]

@[simp] theorem failure?_hasPattern :
    (hasPattern spec).failure? = none ↔ spec.accepted.isSome ∨ spec.rejected.isSome := by
  unfold failure?
  cases accepted : spec.accepted <;> cases rejected : spec.rejected <;> simp [accepted, rejected]

@[simp] theorem failure?_noUrl : (noUrl spec).failure? = none ↔ spec.url = none := by
  simp [failure?]

@[simp] theorem failure?_compiles : (compiles src).failure? = none ↔ Pattern.Compiles src := by
  unfold failure? Pattern.Compiles
  cases compiled : Pattern.compile src <;> simp [compiled]

end SettingsCheck

/-- A rule passes its checks exactly when it has a pattern to accept or reject by and its patterns
compile. -/
theorem ruleChecks_pass_iff (spec : RuleSpec) :
    (∀ ch ∈ spec.checks, ch.failure? = none) ↔
      (spec.accepted.isSome ∨ spec.rejected.isSome) ∧ ∀ src ∈ spec.sources, Pattern.Compiles src := by
  simp [RuleSpec.checks]

/-- The built-in rules pass every check of a rule. -/
theorem builtins_pass : ∀ ch ∈ RuleSpec.builtins.flatMap RuleSpec.checks, ch.failure? = none := by
  decide +kernel

/-- Settings pass their checks exactly when they are acceptable. -/
theorem checks_pass_iff (s : Settings) :
    (∀ ch ∈ s.checks, ch.failure? = none) ↔ s.Acceptable := by
  -- the built-in rules, when enabled, pass whatever the settings are
  have builtins : ∀ spec ∈ s.builtinRules,
      (spec.accepted.isSome ∨ spec.rejected.isSome) ∧ ∀ src ∈ spec.sources, Pattern.Compiles src := by
    intro spec member
    rw [← ruleChecks_pass_iff]
    unfold Settings.builtinRules at member
    split at member
    · exact fun ch hch => builtins_pass ch (List.mem_flatMap.mpr ⟨spec, member, hch⟩)
    · simp at member
  simp only [Settings.checks, List.forall_mem_append]
  simp only [List.forall_mem_cons, List.forall_mem_flatMap,
    RuleSpec.defaultChecks, ruleChecks_pass_iff, Exemption.checks, List.forall_mem_map,
    SettingsCheck.failure?_pages, SettingsCheck.failure?_stateName, SettingsCheck.failure?_noUrl,
    SettingsCheck.failure?_compiles, Settings.Acceptable, List.mem_append]
  constructor
  · rintro ⟨⟨⟨⟨⟨⟨⟨pages, ⟨named, free⟩, -⟩, rules⟩, defaults⟩, -⟩, exemptions⟩, starts⟩, params⟩
    refine ⟨pages, named, free, ?_, fun spec member => (defaults spec member).1, exemptions,
      starts, params⟩
    rintro spec (member | member)
    · exact rules spec member
    · exact (defaults spec member).2
  · rintro ⟨pages, named, free, rules, bare, exemptions, starts, params⟩
    exact ⟨⟨⟨⟨⟨⟨⟨pages, ⟨named, free⟩, by simp⟩, fun spec member => rules spec (.inl member)⟩,
      fun spec member => ⟨bare spec member, rules spec (.inr member)⟩⟩, builtins⟩, exemptions⟩,
      starts⟩, params⟩

/-! ## The compiled rules -/

/-- The last steps of compiling make the configuration of what they compiled. -/
theorem patterns_ok {s : Settings} {c : Config}
    {make : List (Pattern × List Pattern) → List Pattern → List Pattern → Config}
    (compiled : (do
      let exemptions ← s.exemptions.mapM fun (ex : Exemption) => do
        let url ← (Pattern.compile ex.url).mapError SetupError.pattern
        let params ← Config.compileSources ex.parameters
        pure (url, params)
      let startPages ← Config.compileSources s.startPages
      let startParameters ← Config.compileSources s.startParameters
      pure (make exemptions startPages startParameters)) = .ok c) :
    ∃ exemptions startPages startParameters, c = make exemptions startPages startParameters := by
  obtain ⟨exemptions, -, compiled⟩ := Except.bind_eq_ok.mp compiled
  obtain ⟨startPages, -, compiled⟩ := Except.bind_eq_ok.mp compiled
  obtain ⟨startParameters, -, compiled⟩ := Except.bind_eq_ok.mp compiled
  exact ⟨exemptions, startPages, startParameters, (Except.ok.inj compiled).symm⟩

/-- A compiled configuration groups the rules, then the default rules, then the enabled built-in
rules, each of them compiled. -/
theorem compile_rules {s : Settings} {c : Config} (compiled : Config.compile s = .ok c) :
    ∃ rs, List.Forall₂ (fun spec r => Rule.compile spec = .ok r)
      (s.rules ++ s.defaultRules ++ s.builtinRules) rs ∧ c.rules = RuleSet.ofRules rs := by
  unfold Config.compile at compiled
  dsimp only at compiled
  split at compiled
  · cases compiled
  split at compiled
  · cases compiled
  obtain ⟨rules, rulesCompiled, compiled⟩ := Except.bind_eq_ok.mp compiled
  obtain ⟨defaults, defaultsCompiled, compiled⟩ := Except.bind_eq_ok.mp compiled
  -- a default rule that compiled carried no URL pattern, so it compiled as a rule
  have defaultsAsRules : List.Forall₂ (fun spec r => Rule.compile spec = .ok r) s.defaultRules
      defaults := by
    refine (List.mapM_except_eq_ok_iff.mp defaultsCompiled).imp fun spec r ok => ?_
    split at ok
    · cases ok
    · exact ok
  have ownRules := List.rel_append (List.mapM_except_eq_ok_iff.mp rulesCompiled) defaultsAsRules
  unfold Settings.builtinRules
  split at compiled
  · rename_i enabled
    obtain ⟨builtins, builtinsCompiled, compiled⟩ := Except.bind_eq_ok.mp compiled
    obtain ⟨-, -, -, rfl⟩ := patterns_ok compiled
    exact ⟨rules ++ defaults ++ builtins, List.rel_append ownRules
      (by simpa [enabled] using List.mapM_except_eq_ok_iff.mp builtinsCompiled), rfl⟩
  · rename_i disabled
    obtain ⟨builtins, none, compiled⟩ := Except.bind_eq_ok.mp compiled
    cases none
    obtain ⟨-, -, -, rfl⟩ := patterns_ok compiled
    exact ⟨rules ++ defaults ++ [], List.rel_append ownRules (by simp [disabled]), rfl⟩

/-! ## Compiling settings -/

/-- Compiling settings succeeds exactly when they are acceptable; it fails with the error of the
first check that fails, in the order the checks are listed; and a compiled configuration groups the
rules, then the default rules, then the enabled built-in rules, each compiled. -/
theorem compile_checks_in_order (s : Settings) :
    ((∃ c, Config.compile s = .ok c) ↔ s.Acceptable) ∧
    (∀ e, Config.compile s = .error e ↔ s.checks.findSome? SettingsCheck.failure? = some e) ∧
    (∀ c, Config.compile s = .ok c →
      ∃ rs, List.Forall₂ (fun spec r => Rule.compile spec = .ok r)
        (s.rules ++ s.defaultRules ++ s.builtinRules) rs ∧ c.rules = RuleSet.ofRules rs) :=
  ⟨(compile_reports s).ok_iff.trans (checks_pass_iff s), compile_reports s,
    fun _ compiled => compile_rules compiled⟩

/-- Of a page count of zero and a name holding `=`, the page count is reported. -/
example : Config.compile { maxPagesPerSession := 0, stateParameterName := "a=b" } =
    .error (.config .noPages) := rfl

end FormIntegrity
