import FormIntegrity.Pattern.Parser
import FormIntegrity.Pattern.Automaton

/-!
# Whole-text patterns

A pattern is a regular expression that must match a whole text, not merely a part of it. Its source
is compiled as the text `^(?:` source `)$` and that expression is searched for anywhere in the text:
for a well-formed source the anchors make the match cover the whole text, and a source that closes
the wrapping group early is read as the wrapped text says.
-/

namespace FormIntegrity

/-- A source that does not compile. -/
structure PatternError where
  /-- The source as given. -/
  pattern : String
  deriving DecidableEq, Repr

/-- A compiled whole-text pattern. -/
structure Pattern where
  /-- The source as given. -/
  source : String
  /-- The automaton of the wrapped source. -/
  automaton : Pattern.Automaton
  deriving Inhabited

namespace Pattern

/-- The text a source is compiled as. -/
def wrapped (source : String) : String :=
  "^(?:" ++ source ++ ")$"

/-- Compiles a source. -/
def compile (source : String) : Except PatternError Pattern :=
  match parse (wrapped source) with
  | .ok t => .ok ⟨source, Automaton.compile t.toRegex⟩
  | .error _ => .error ⟨source⟩

/-- Whether the pattern matches a text. -/
def test (p : Pattern) (text : String) : Bool :=
  p.automaton.search text

/-- Compiles sources in order; the first that fails is the error. -/
def compileAll (sources : List String) : Except PatternError (List Pattern) :=
  sources.mapM compile

/-- Whether any of the patterns matches a text. -/
def anyMatches (ps : List Pattern) (text : String) : Bool :=
  ps.any (·.test text)

end Pattern

end FormIntegrity
