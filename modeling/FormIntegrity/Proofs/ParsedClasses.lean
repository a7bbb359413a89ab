import FormIntegrity.Proofs.ClassRanges
import FormIntegrity.Proofs.Calls
import FormIntegrity.Pattern.Parser

/-!
# Every class a pattern reads is canonical

The classes a pattern names come from the Unicode tables through `CharClass.normalize`, or from
unions, differences and complements of such classes, so they are canonical
(`namedClass?_canonical`, `canonical_perlClass`, `asciiNamedClass?_canonical`). Case folding and
negation keep a class canonical (`Canonical.foldNegate`).

A bracketed class is read by a loop over the items of a bracket level, the brackets it is nested in
and the operators waiting for their right side. Every class on that stack is canonical at every
turn, so the class read is too (`parseClass_canonical`), and so is every class an escape gives
(`parseEscape_canonical`).
-/

namespace FormIntegrity.Pattern

open CharClass

/-! ## Classes by name -/

theorem categoryClass?_canonical {norm : String} {cls : CharClass}
    (found : categoryClass? norm = some cls) : cls.Canonical := by
  unfold categoryClass? at found
  split at found
  · cases found
    exact canonical_range _ _
  · cases found
    exact (canonical_normalize _).complement
  · cases found
    exact canonical_range _ _
  · obtain ⟨cats, -, rfl⟩ := Option.map_eq_some_iff.mp found
    exact canonical_normalize _

theorem scriptClass?_canonical {norm : String} {cls : CharClass}
    (found : scriptClass? norm = some cls) : cls.Canonical := by
  obtain ⟨code, -, rfl⟩ := Option.map_eq_some_iff.mp found
  exact canonical_normalize _

theorem lonePropertyClass?_canonical {name : String} {cls : CharClass}
    (found : lonePropertyClass? name = some cls) : cls.Canonical := by
  unfold lonePropertyClass? at found
  dsimp only at found
  split at found
  · -- a binary property, unless the name is one that stands for no class by itself
    rename_i binary asBinary
    split_ifs at asBinary with reserved other
    · cases asBinary
      cases found
    · obtain ⟨c, property, rfl⟩ := Option.map_eq_some_iff.mp asBinary
      cases found
      obtain ⟨q, -, rfl⟩ := Option.map_eq_some_iff.mp property
      exact canonical_normalize _
  · cases category : categoryClass? (normalizeName name) with
    | some c =>
      rw [category, Option.orElse_some, Option.some.injEq] at found
      exact found ▸ categoryClass?_canonical category
    | none =>
      rw [category, Option.orElse_none] at found
      exact scriptClass?_canonical found

theorem scriptExtensionClass?_canonical {norm : String} {cls : CharClass}
    (found : scriptExtensionClass? norm = some cls) : cls.Canonical := by
  obtain ⟨code, -, rfl⟩ := Option.map_eq_some_iff.mp found
  exact canonical_union _ _

theorem ageClass?_canonical {norm : String} {cls : CharClass}
    (found : ageClass? norm = some cls) : cls.Canonical := by
  obtain ⟨v, -, rfl⟩ := Option.map_eq_some_iff.mp found
  exact canonical_normalize _

theorem segmentClass?_canonical {names : List (String × String)} {m : Unicode.CodeMap String}
    {norm : String} {cls : CharClass} (found : segmentClass? names m norm = some cls) :
    cls.Canonical := by
  obtain ⟨v, -, rfl⟩ := Option.map_eq_some_iff.mp found
  exact canonical_normalize _

theorem valuePropertyClass?_canonical {property value : String} {cls : CharClass}
    (found : valuePropertyClass? property value = some cls) : cls.Canonical := by
  unfold valuePropertyClass? at found
  -- each property, by either of its names, reads its own table
  split at found
  · exact categoryClass?_canonical found
  · exact categoryClass?_canonical found
  · exact scriptClass?_canonical found
  · exact scriptClass?_canonical found
  · exact scriptExtensionClass?_canonical found
  · exact scriptExtensionClass?_canonical found
  · exact ageClass?_canonical found
  · exact segmentClass?_canonical found
  · exact segmentClass?_canonical found
  · exact segmentClass?_canonical found
  · exact segmentClass?_canonical found
  · exact segmentClass?_canonical found
  · exact segmentClass?_canonical found
  · cases found

/-- Every class named inside `\p{…}` is canonical. -/
theorem namedClass?_canonical {name : String} {cls : CharClass} {negated : Bool}
    (found : namedClass? name = some (cls, negated)) : cls.Canonical := by
  unfold namedClass? at found
  dsimp only at found
  split at found
  · obtain ⟨c, value, same⟩ := Option.map_eq_some_iff.mp found
    cases same
    exact valuePropertyClass?_canonical value
  · split at found
    · obtain ⟨c, value, same⟩ := Option.map_eq_some_iff.mp found
      cases same
      exact valuePropertyClass?_canonical value
    · split at found
      · obtain ⟨c, value, same⟩ := Option.map_eq_some_iff.mp found
        cases same
        exact valuePropertyClass?_canonical value
      · obtain ⟨c, lone, same⟩ := Option.map_eq_some_iff.mp found
        cases same
        exact lonePropertyClass?_canonical lone

/-- The classes of `\d`, `\s`, `\w` and their negations are canonical. -/
theorem canonical_perlClass (f : Flags) (letter : Char) : (perlClass f letter).Canonical := by
  have negate : ∀ base : CharClass, base.Canonical →
      (if letter.isUpper then (if f.unicode then base.complement else base.complementUpTo 0xFF)
        else base).Canonical := by
    intro base canonical
    split_ifs
    · exact canonical.complement
    · exact canonical.complementUpTo _
    · exact canonical
  apply negate
  split <;> exact canonical_normalize _

/-- Folding and negating keep a class canonical. -/
theorem CharClass.Canonical.foldNegate {cls : CharClass} (canonical : cls.Canonical) (f : Flags)
    (negated : Bool) : (foldNegate f negated cls).Canonical := by
  have folded : (if f.caseless then (if f.unicode then cls.caseFold else cls.asciiCaseFold)
      else cls).Canonical := by
    split_ifs
    · exact canonical_caseFold cls
    · exact canonical_asciiCaseFold cls
    · exact canonical
  have negate : ∀ c : CharClass, c.Canonical →
      (if negated then (if f.unicode then c.complement else c.complementUpTo 0xFF) else c).Canonical := by
    intro c canonical
    split_ifs
    · exact canonical.complement
    · exact canonical.complementUpTo _
    · exact canonical
  exact negate _ folded

theorem asciiNamedClass?_canonical {name : String} {cls : CharClass}
    (found : asciiNamedClass? name = some cls) : cls.Canonical := by
  unfold asciiNamedClass? at found
  split at found <;> cases found <;> exact canonical_normalize _

/-! ## Escapes -/

/-- A primitive whose class, if it is a class, is canonical. -/
def Primitive.Canonical : Primitive → Prop
  | .cls c => c.Canonical
  | .literal _ _ | .look _ | .dot => True

/-- A hexadecimal escape is a character: every way of reading its digits ends by taking the
character of the value. -/
theorem parseHex_literal {f : Flags} {kind : Char} {cs rest : List Char} {p : Primitive}
    (parsed : parseHex f kind cs = .ok (p, rest)) : ∃ c octet, p = .literal c octet := by
  unfold parseHex at parsed
  extract_lets blank finish at parsed
  -- every way of reading the code point ends in `finish`, which looks up its character
  have final : ∀ x, x >>= finish = .ok (p, rest) → ∃ c octet, p = .literal c octet := by
    intro x ok
    obtain ⟨⟨value, braced, after⟩, -, ok⟩ := Except.bind_eq_ok.mp ok
    simp only [finish] at ok
    split at ok
    · cases ok
      exact ⟨_, _, rfl⟩
    · cases ok
  unfold blank at parsed
  split at parsed
  · exact final _ parsed
  · split at parsed
    · exact final _ parsed
    · exact final _ parsed
    · split at parsed
      · exact final _ parsed
      · exact final _ parsed
  · obtain ⟨v, -, ok⟩ := Except.bind_eq_ok.mp parsed
    exact final _ ok

theorem parseUnicodeClass_canonical {f : Flags} {negated : Bool} {cs rest : List Char} {p : Primitive}
    (parsed : parseUnicodeClass f negated cs = .ok (p, rest)) : p.Canonical := by
  unfold parseUnicodeClass at parsed
  extract_lets blank finish at parsed
  -- every way of reading the name ends in `finish`, which looks its class up
  have final : ∀ x, x >>= finish = .ok (p, rest) → p.Canonical := by
    intro x ok
    obtain ⟨⟨name, after⟩, -, ok⟩ := Except.bind_eq_ok.mp ok
    simp only [finish] at ok
    split_ifs at ok
    split at ok
    · cases ok
    · rename_i cls ne found
      cases ok
      exact (namedClass?_canonical found).foldNegate f _
  unfold blank at parsed
  split at parsed <;> exact final _ parsed

/-- Every class an escape gives is canonical. -/
theorem parseEscape_canonical {f : Flags} {cs rest : List Char} {p : Primitive}
    (parsed : parseEscape f cs = .ok (p, rest)) : p.Canonical := by
  unfold parseEscape at parsed
  split at parsed
  · cases parsed
  · split_ifs at parsed
    · obtain ⟨c, octet, rfl⟩ := parseHex_literal parsed
      trivial
    · exact parseUnicodeClass_canonical parsed
    · cases parsed
      exact canonical_perlClass f _
    · cases parsed
      trivial
    · -- the other escapes are characters and assertions
      repeat' split at parsed
      all_goals cases parsed
      all_goals trivial

/-! ## What a computation that may be refused gives -/

/-- Every value a computation that may be refused gives has the property. -/
def Yields {ε α : Type} (P : α → Prop) (x : Except ε α) : Prop :=
  ∀ a, x = .ok a → P a

section Yields

variable {ε α β : Type} {P : β → Prop}

theorem Yields.error {e : ε} : Yields P (.error e) :=
  fun _ refused => nomatch refused

theorem Yields.pure {b : β} (holds : P b) : Yields (ε := ε) P (pure b) := by
  intro b' given
  cases given
  exact holds

theorem Yields.bind {Q : α → Prop} {x : Except ε α} {f : α → Except ε β} (first : Yields Q x)
    (rest : ∀ a, Q a → Yields P (f a)) : Yields P (x >>= f) := by
  intro b given
  obtain ⟨a, ran, next⟩ := Except.bind_eq_ok.mp given
  exact rest a (first a ran) b next

theorem Yields.pure_bind {a : α} {f : α → Except ε β} (next : Yields P (f a)) :
    Yields P (Pure.pure a >>= f) :=
  next

end Yields

/-! ## Bracketed classes -/

/-- Folding a step that always gives a canonical class over a list, from a canonical class, gives a
canonical class. -/
theorem canonical_foldl {β : Type} (step : CharClass → β → CharClass)
    (always : ∀ acc b, (step acc b).Canonical) (items : List β) {acc : CharClass}
    (canonical : acc.Canonical) : (items.foldl step acc).Canonical := by
  induction items generalizing acc with
  | nil => exact canonical
  | cons item rest ih => exact ih (always acc item)

/-- Items of a bracket level whose classes are canonical. -/
def ItemsCanonical (items : List Sized) : Prop :=
  ∀ s ∈ items, s.cls.Canonical

/-- A suspended bracket or operator whose classes are canonical. -/
def ClassFrame.Canonical : ClassFrame → Prop
  | .opened before _ => ItemsCanonical before
  | .op _ lhs => lhs.cls.Canonical

theorem ItemsCanonical.cons {item : Sized} {items : List Sized} (canonical : item.cls.Canonical)
    (each : ItemsCanonical items) : ItemsCanonical (item :: items) := by
  intro s member
  rcases List.mem_cons.mp member with rfl | later
  · exact canonical
  · exact each s later

theorem literalClass_canonical {f : Flags} {c : Char} {cls : CharClass}
    (made : literalClass f c = .ok cls) : cls.Canonical := by
  unfold literalClass at made
  split_ifs at made
  cases made
  exact canonical_single _

theorem classItem_canonical {f : Flags} {cs rest : List Char} {p : Primitive}
    (read : classItem f cs = .ok (p, rest)) : p.Canonical := by
  unfold classItem at read
  split at read
  · exact parseEscape_canonical read
  · cases read
    trivial
  · cases read

/-- A character, a range or an escape inside brackets gives a canonical class. -/
theorem classRange_canonical (f : Flags) (cs : List Char) :
    Yields (fun r : Sized × List Char => r.1.cls.Canonical) (classRange f cs) := by
  unfold classRange
  refine Yields.bind (fun _ read => classItem_canonical read) fun ⟨first, after⟩ firstCanonical => ?_
  dsimp only
  split_ifs with empty single dashEnd
  · exact Yields.error
  · -- a single item: a character or a class
    cases first with
    | literal c octet =>
      exact Yields.bind (fun _ made => literalClass_canonical made) fun _ canonical =>
        Yields.pure canonical
    | cls c =>
      dsimp only
      split_ifs
      · exact Yields.error
      · exact Yields.pure firstCanonical
    | look | dot => exact Yields.error
  · exact Yields.error
  · -- a range between two characters
    refine Yields.bind (fun _ _ => trivial) fun second _ => ?_
    split
    · split_ifs
      · exact Yields.error
      · exact Yields.pure (canonical_range _ _)
      · exact Yields.error
    · exact Yields.error

theorem canonical_unionOf {items : List Sized} (each : ItemsCanonical items) :
    (unionOf items).cls.Canonical := by
  unfold unionOf
  split
  · exact canonical_empty
  · exact each _ (List.mem_singleton_self _)
  · exact canonical_foldl _ (fun _ _ => canonical_union _ _) _ canonical_empty

/-- Closing an operator on top of the stack gives a canonical class and leaves the rest of the
stack. -/
theorem closeOp_canonical {f : Flags} {rhs : Sized} {stack : List ClassFrame}
    (canonical : rhs.cls.Canonical) (frames : ∀ fr ∈ stack, fr.Canonical) :
    (closeOp f rhs stack).1.cls.Canonical ∧ ∀ fr ∈ (closeOp f rhs stack).2, fr.Canonical := by
  unfold closeOp
  split
  · refine ⟨?_, fun fr member => frames fr (List.mem_cons_of_mem _ member)⟩
    dsimp only
    split
    · exact canonical_inter _ _
    · exact canonical_diff _ _
    · exact canonical_symmDiff _ _
  · exact ⟨canonical, frames⟩

theorem suspendOp_canonical {f : Flags} {kind : SetOp} {items : List Sized} {stack : List ClassFrame}
    (each : ItemsCanonical items) (frames : ∀ fr ∈ stack, fr.Canonical) :
    ∀ fr ∈ suspendOp f kind items stack, fr.Canonical := by
  have closed := closeOp_canonical (f := f) (canonical_unionOf fun s member =>
    each s (List.mem_reverse.mp member)) frames
  unfold suspendOp
  generalize closeOp f (unionOf items.reverse) stack = result at closed
  obtain ⟨lhs, rest⟩ := result
  intro fr member
  rcases List.mem_cons.mp member with rfl | below
  · exact closed.1
  · exact closed.2 fr below

theorem asciiClass?_canonical {f : Flags} {cs rest : List Char} {item : Sized}
    (found : asciiClass? f cs = some (item, rest)) : item.cls.Canonical := by
  unfold asciiClass? at found
  split at found
  · dsimp only at found
    split at found
    · obtain ⟨cls, named, same⟩ := Option.map_eq_some_iff.mp found
      cases same
      exact (asciiNamedClass?_canonical named).foldNegate f _
    · cases found
  · cases found

theorem dashes_canonical (f : Flags) (fuel : Nat) (items : List Sized) (rest : List Char)
    (each : ItemsCanonical items) :
    Yields (fun r : List Sized × List Char => ItemsCanonical r.1) (openBracket.dashes f fuel items rest) := by
  induction fuel generalizing items rest with
  | zero => exact Yields.pure each
  | succ fuel ih =>
    unfold openBracket.dashes
    split
    · dsimp only
      split
      · exact Yields.error
      · exact ih _ _ (each.cons (canonical_single _))
    · exact Yields.pure each

/-- The items an opening bracket reads, its leading dashes or a leading `]`, are canonical. -/
theorem openBracket_canonical (f : Flags) (cs : List Char) :
    Yields (fun r : Bool × List Sized × List Char => ItemsCanonical r.2.1) (openBracket f cs) := by
  unfold openBracket
  extract_lets start afterCaret caretRest afterOpen
  -- after `[` and an optional `^`, both ways on read the dashes, then perhaps a `]`
  have afterDashes : ∀ v, Yields (fun r : Bool × List Sized × List Char => ItemsCanonical r.2.1)
      (afterCaret v) := by
    rintro ⟨negated, rest⟩
    simp only [afterCaret]
    refine Yields.bind (dashes_canonical f _ [] rest (by simp [ItemsCanonical])) fun d dashes => ?_
    split
    · split
      · exact Yields.error
      · exact Yields.pure ((ItemsCanonical.cons (canonical_single _)) (by simp [ItemsCanonical]))
    · exact Yields.pure dashes
  -- what `[` is followed by matters, not how blanks were skipped to reach it
  clear_value start caretRest
  split
  · exact Yields.error
  simp only [afterOpen]
  split
  · split
    · exact Yields.error
    · exact Yields.pure_bind (afterDashes (true, caretRest))
  · exact Yields.pure_bind (afterDashes (false, start))

/-- Every class on the stack of a bracketed class stays canonical from turn to turn: items read,
brackets opened and closed, operators suspended and applied. So the class read is canonical. -/
theorem classLoop_canonical (f : Flags) (fuel : Nat) (items : List Sized) (stack : List ClassFrame)
    (cs : List Char) (each : ItemsCanonical items) (frames : ∀ fr ∈ stack, fr.Canonical) :
    Yields (fun r : Sized × List Char => r.1.cls.Canonical) (classLoop f fuel items stack cs) := by
  induction fuel generalizing items stack cs with
  | zero => exact Yields.error
  | succ fuel ih =>
    unfold classLoop
    dsimp only
    split
    · exact Yields.error
    · -- `[` opens a bracketed ASCII class, or a nested bracket
      split
      · rename_i item rest found
        split_ifs
        · exact Yields.error
        · exact ih _ _ _ (each.cons (asciiClass?_canonical found)) frames
      · split
        · exact Yields.error
        · rename_i negated inner rest opened
          refine ih _ _ _ (openBracket_canonical f _ _ opened) fun fr member => ?_
          rcases List.mem_cons.mp member with rfl | below
          · exact each
          · exact frames fr below
    · -- `]` closes the innermost bracket, after the operator waiting in it
      have closed := closeOp_canonical (f := f)
        (canonical_unionOf fun s member => each s (List.mem_reverse.mp member)) frames
      generalize closeOp f (unionOf items.reverse) stack = result at closed
      obtain ⟨set, rest⟩ := result
      dsimp only
      split
      · rename_i before negated outer
        have bracket : (foldNegate f negated set.cls).Canonical := closed.1.foldNegate f negated
        split_ifs
        · exact Yields.error
        · exact Yields.pure bracket
        · exact ih _ _ _ (ItemsCanonical.cons bracket (closed.2 _ List.mem_cons_self))
            fun fr member => closed.2 fr (List.mem_cons_of_mem _ member)
      · exact Yields.error
    · exact ih _ _ _ (by simp [ItemsCanonical]) (suspendOp_canonical each frames)
    · exact ih _ _ _ (by simp [ItemsCanonical]) (suspendOp_canonical each frames)
    · exact ih _ _ _ (by simp [ItemsCanonical]) (suspendOp_canonical each frames)
    · split
      · exact Yields.error
      · rename_i item rest read
        exact ih _ _ _ (each.cons (classRange_canonical f _ _ read)) frames

/-- Every bracketed class a pattern reads is canonical. -/
theorem parseClass_canonical {f : Flags} {cs rest : List Char} {sized : Sized}
    (read : parseClass f cs = .ok (sized, rest)) : sized.cls.Canonical := by
  unfold parseClass at read
  obtain ⟨⟨negated, items, after⟩, opened, read⟩ := Except.bind_eq_ok.mp read
  refine classLoop_canonical f _ items _ after (openBracket_canonical f cs _ opened) ?_ _ read
  intro fr member
  rw [List.mem_singleton.mp member]
  intro s member
  cases member

end FormIntegrity.Pattern
