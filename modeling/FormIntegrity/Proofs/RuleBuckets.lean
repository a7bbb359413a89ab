import FormIntegrity.Rule
import Mathlib.Data.List.Induction
import Mathlib.Data.List.Basic

/-!
# Rule buckets and the flat rule list

A rule set groups its rules once, when it is built: one bucket per source text of a URL pattern, in
order of first occurrence, and a default bucket for the rules without a URL. Selection then walks
the buckets and takes the first whose pattern matches the URL and which holds a rule that applies.

This module states the same choice over the flat list of rules (`RuleSet.selectFlat`): the distinct
URL sources in order of first occurrence, each matched by the pattern of its first rule and holding
every rule with that source, whatever lies between them. Building the rule set keeps exactly that
grouping (`RuleSet.ofRules_eq`), proved by induction from the right over the rules with one lemma per
way a rule can join: no URL, a source already seen, a new source. Selection on the rule set is then
selection on the flat list (`RuleSet.select_ofRules`), so an applicable URL rule always shadows the
default rules.
-/

namespace FormIntegrity

namespace RuleSet

/-- The sources of the rules' URL patterns, each once, in order of first occurrence. -/
def urlSources (rules : List Rule) : List String :=
  (rules.filterMap fun r => r.url.map (·.source)).eraseDups

/-- The rules whose URL pattern has a given source, in declaration order. -/
def withSource (rules : List Rule) (u : String) : List Rule :=
  rules.filter fun r => r.url.any (·.source == u)

/-- The URL pattern of the first rule whose URL pattern has a given source. -/
def patternOf? (rules : List Rule) (u : String) : Option Pattern :=
  rules.findSome? fun r => r.url.filter (·.source == u)

/-- The rules chosen from the flat list of rules for a parameter of a kind of control at a URL: the
applicable rules of the first URL source, in order of first occurrence, whose pattern matches the
URL and which has an applicable rule; when there is none, the applicable rules without a URL. -/
def selectFlat (rules : List Rule) (url parameter : String) (dataType : Option DataType) : List Rule :=
  let applicable (rs : List Rule) := rs.filter (·.appliesTo parameter dataType)
  match (urlSources rules).find? fun u =>
      (patternOf? rules u).any (·.test url) && !(applicable (withSource rules u)).isEmpty with
  | some u => applicable (withSource rules u)
  | none => applicable (rules.filter (·.url.isNone))

/-- The buckets the rules make, one per URL source in order of first occurrence, each with the
pattern of its first rule and all its rules. -/
def bucketsOf (rules : List Rule) : List (Pattern × List Rule) :=
  (urlSources rules).filterMap fun u => (patternOf? rules u).map fun p => (p, withSource rules u)

variable {rules : List Rule} {r : Rule} {u : String}

theorem ofRules_append (rules : List Rule) (r : Rule) : ofRules (rules ++ [r]) = (ofRules rules).add r := by
  simp [ofRules, List.foldl_append]

theorem mem_urlSources : u ∈ urlSources rules ↔ ∃ r ∈ rules, ∃ p, r.url = some p ∧ p.source = u := by
  simp [urlSources]

theorem urlSources_append_of_url {p : Pattern} (hasUrl : r.url = some p) :
    urlSources (rules ++ [r]) =
      urlSources rules ++ if p.source ∈ urlSources rules then [] else [p.source] := by
  have mapped : (rules ++ [r]).filterMap (fun r => r.url.map (·.source)) =
      rules.filterMap (fun r => r.url.map (·.source)) ++ [p.source] := by
    simp [List.filterMap_append, hasUrl]
  unfold urlSources
  rw [mapped, List.eraseDups_append, List.cons_removeAll]
  by_cases old : p.source ∈ (rules.filterMap fun r => r.url.map (·.source)).eraseDups
  · have contained := List.mem_eraseDups.mp old
    simp [old, contained]
  · have absent : p.source ∉ rules.filterMap fun r => r.url.map (·.source) :=
      fun mem => old (List.mem_eraseDups.mpr mem)
    simp [old, absent, List.eraseDups_cons]

theorem urlSources_append_of_none (noUrl : r.url = none) : urlSources (rules ++ [r]) = urlSources rules := by
  simp [urlSources, List.filterMap_append, noUrl]

theorem patternOf?_append (rules : List Rule) (r : Rule) (u : String) :
    patternOf? (rules ++ [r]) u = (patternOf? rules u).or (r.url.filter (·.source == u)) := by
  simp [patternOf?]

theorem withSource_append (rules : List Rule) (r : Rule) (u : String) :
    withSource (rules ++ [r]) u = withSource rules u ++ if r.url.any (·.source == u) then [r] else [] := by
  simp only [withSource, List.filter_append, List.filter_cons, List.filter_nil]

/-- The pattern of a source is a pattern with that source. -/
theorem source_of_patternOf? {p : Pattern} (found : patternOf? rules u = some p) : p.source = u := by
  obtain ⟨r, -, picked⟩ := List.exists_of_findSome?_eq_some found
  cases hasUrl : r.url with
  | none => simp [hasUrl] at picked
  | some q =>
    simp only [hasUrl, Option.filter_some, beq_iff_eq] at picked
    split at picked
    · cases picked
      assumption
    · cases picked

/-- A source has a pattern exactly when some rule's URL pattern has it. -/
theorem isSome_patternOf? : (patternOf? rules u).isSome ↔ u ∈ urlSources rules := by
  rw [mem_urlSources, patternOf?, List.findSome?_isSome_iff]
  constructor
  · rintro ⟨r, member, picked⟩
    cases hasUrl : r.url with
    | none => simp [hasUrl] at picked
    | some q =>
      simp only [hasUrl, Option.isSome_filter, Option.any_some, beq_iff_eq] at picked
      exact ⟨r, member, q, hasUrl, picked⟩
  · rintro ⟨r, member, q, hasUrl, named⟩
    exact ⟨r, member, by simp [hasUrl, named]⟩

theorem withSource_eq_nil (absent : u ∉ urlSources rules) : withSource rules u = [] := by
  rw [withSource, List.filter_eq_nil_iff]
  intro r member
  cases hasUrl : r.url with
  | none => simp
  | some q =>
    simp only [Option.any_some, beq_iff_eq]
    rintro rfl
    exact absent (mem_urlSources.mpr ⟨r, member, q, hasUrl, rfl⟩)

/-- A source is the source of a bucket exactly when it is the source of a rule's URL pattern. -/
theorem any_bucketsOf (v : String) :
    (bucketsOf rules).any (·.1.source == v) = decide (v ∈ urlSources rules) := by
  rw [bucketsOf, List.any_filterMap, Bool.eq_iff_iff, List.any_eq_true, decide_eq_true_eq]
  constructor
  · rintro ⟨u, member, named⟩
    cases found : patternOf? rules u with
    | none => simp [found] at named
    | some q =>
      simp only [found, Option.map_some, beq_iff_eq] at named
      rw [← named, source_of_patternOf? found]
      exact member
  · intro member
    obtain ⟨q, found⟩ := Option.isSome_iff_exists.mp (isSome_patternOf?.mpr member)
    exact ⟨v, member, by simp [found, source_of_patternOf? found]⟩

theorem bucketsOf_append_of_none (noUrl : r.url = none) : bucketsOf (rules ++ [r]) = bucketsOf rules := by
  unfold bucketsOf
  rw [urlSources_append_of_none noUrl]
  congr 1
  funext u
  simp [patternOf?_append, withSource_append, noUrl]

/-- A rule whose URL source has a bucket joins that bucket. -/
theorem bucketsOf_append_of_old {p : Pattern} (hasUrl : r.url = some p) (old : p.source ∈ urlSources rules) :
    bucketsOf (rules ++ [r]) =
      (bucketsOf rules).map fun (q, rs) => if q.source == p.source then (q, rs ++ [r]) else (q, rs) := by
  unfold bucketsOf
  rw [urlSources_append_of_url hasUrl, if_pos old, List.append_nil, List.map_filterMap]
  apply List.filterMap_congr
  intro u member
  obtain ⟨q, found⟩ := Option.isSome_iff_exists.mp (isSome_patternOf?.mpr member)
  have named := source_of_patternOf? found
  subst named
  by_cases same : p.source = q.source
  · simp [patternOf?_append, withSource_append, found, hasUrl, same]
  · simp [patternOf?_append, withSource_append, found, hasUrl, same, Ne.symm same]

/-- A rule whose URL source has no bucket yet opens a bucket of its own, last. -/
theorem bucketsOf_append_of_new {p : Pattern} (hasUrl : r.url = some p) (new : p.source ∉ urlSources rules) :
    bucketsOf (rules ++ [r]) = bucketsOf rules ++ [(p, [r])] := by
  unfold bucketsOf
  rw [urlSources_append_of_url hasUrl, if_neg new, List.filterMap_append]
  congr 1
  · apply List.filterMap_congr
    intro u member
    have other : p.source ≠ u := fun same => new (same ▸ member)
    simp [patternOf?_append, withSource_append, hasUrl, other, Option.filter_some]
  · have noPattern : patternOf? rules p.source = none :=
      Option.not_isSome_iff_eq_none.mp fun found => new (isSome_patternOf?.mp found)
    simp [patternOf?_append, withSource_append, hasUrl, noPattern, withSource_eq_nil new]

/-- **Grouping keeps the flat list.** The rule set of a list of rules has one bucket per URL source,
in order of first occurrence, holding the pattern of the source's first rule and every rule with
that source in declaration order; the default bucket holds the rules without a URL, in order. -/
theorem ofRules_eq (rules : List Rule) :
    ofRules rules = ⟨bucketsOf rules, rules.filter (·.url.isNone)⟩ := by
  induction rules using List.reverseRecOn with
  | nil => rfl
  | append_singleton rules r ih =>
    rw [ofRules_append, ih]
    unfold add
    cases hasUrl : r.url with
    | none => simp [bucketsOf_append_of_none hasUrl, List.filter_append, hasUrl]
    | some p =>
      simp only [any_bucketsOf, List.filter_append, List.filter_cons, hasUrl, Option.isNone_some,
        Bool.false_eq_true, if_false, List.filter_nil, List.append_nil]
      by_cases old : p.source ∈ urlSources rules
      · simp [old, bucketsOf_append_of_old hasUrl old]
      · simp [old, bucketsOf_append_of_new hasUrl old]

theorem findSome?_filterMap {α β γ : Type} (f : α → Option β) (g : β → Option γ) (l : List α) :
    (l.filterMap f).findSome? g = l.findSome? fun a => (f a).bind g := by
  induction l with
  | nil => rfl
  | cons a rest ih =>
    cases found : f a <;> simp [found, ih, List.findSome?_cons]

theorem findSome?_eq_map_find? {α β : Type} {f : α → Option β} (c : α → Bool) (v : α → β)
    (guarded : ∀ a, f a = if c a then some (v a) else none) (l : List α) :
    l.findSome? f = (l.find? c).map v := by
  induction l with
  | nil => rfl
  | cons a rest ih => by_cases hit : c a <;> simp [guarded, hit, ih]

/-- **Bucketed selection agrees with the flat rule list.** For every list of rules, URL, parameter
and kind of control, the rules the rule set of the list chooses are the applicable rules of the
first URL source, in order of first occurrence, whose pattern matches the URL and which has an
applicable rule, in declaration order; when no source qualifies, the applicable rules without a
URL, in declaration order. -/
theorem select_ofRules (rules : List Rule) (url parameter : String) (dataType : Option DataType) :
    (ofRules rules).select url parameter dataType = selectFlat rules url parameter dataType := by
  rw [ofRules_eq]
  unfold select selectFlat bucketsOf
  simp only
  -- a source gives its applicable rules when its pattern matches and one of them applies
  rw [findSome?_filterMap, findSome?_eq_map_find?
    (fun u => (patternOf? rules u).any (·.test url) &&
      !((withSource rules u).filter (·.appliesTo parameter dataType)).isEmpty)
    (fun u => (withSource rules u).filter (·.appliesTo parameter dataType))]
  · cases (urlSources rules).find? _ <;> rfl
  · intro u
    cases patternOf? rules u with
    | none => rfl
    | some p =>
      cases hits : (withSource rules u).filter (·.appliesTo parameter dataType) <;>
        by_cases matched : p.test url <;> simp [matched, hits]

end RuleSet

end FormIntegrity
