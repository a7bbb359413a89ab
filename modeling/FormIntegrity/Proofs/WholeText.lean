import FormIntegrity.Pattern.Basic

/-!
# Reading and compiling as functions of characters

A pattern is compiled from the text `^(?:` source `)$`, read as one expression, and not from the
source alone. Reading a text is reading its characters (`parse_eq`), and compiling a source is
reading the characters of the wrapper around the source's (`compile_eq`). Stated over lists of
characters, both can be evaluated on fixed sources without appending strings.
-/

namespace FormIntegrity.Pattern

/-- Reading a pattern from its characters, as `parse` reads a text. -/
def parseChars (cs : List Char) : Except Refusal Tree := do
  let (t, height) ← parseLoop (cs.length + 1) { flags := {}, frame := { saved := {} } } cs
  if height > nestLimit then .error .nestedTooDeep
  else if !Size.fits t then .error .tooLarge
  else pure t

theorem parse_eq (text : String) : parse text = parseChars text.toList := rfl

/-- The characters of a wrapped source. -/
theorem wrapped_toList (source : String) :
    (wrapped source).toList = ['^', '(', '?', ':'] ++ source.toList ++ [')', '$'] := by
  simp [wrapped]

/-- A source compiles exactly when its wrapped characters read as an expression, to the automaton
of that expression. -/
theorem compile_eq (source : String) :
    compile source =
      ((parseChars (['^', '(', '?', ':'] ++ source.toList ++ [')', '$'])).mapError fun _ => ⟨source⟩).map
        fun t => ⟨source, Automaton.compile t.toRegex⟩ := by
  rw [compile, parse_eq, wrapped_toList]
  cases parseChars (['^', '(', '?', ':'] ++ source.toList ++ [')', '$']) <;> rfl

theorem exists_of_toOption_map {α β ε : Type} {x : Except ε α} {f : α → β} {b : β}
    (mapped : x.toOption.map f = some b) : ∃ a, x = .ok a ∧ f a = b := by
  cases x with
  | error e => simp [Except.toOption] at mapped
  | ok a => exact ⟨a, rfl, by simpa [Except.toOption] using mapped⟩

theorem ok_of_toOption_eq_some {α ε : Type} {x : Except ε α} {a : α} (read : x.toOption = some a) :
    x = .ok a := by
  cases x with
  | error e => simp [Except.toOption] at read
  | ok b => simpa [Except.toOption] using read

end FormIntegrity.Pattern
