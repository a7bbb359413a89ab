import FormIntegrity.Pattern.Basic

/-!
# Configuration errors

A configuration is refused for a setting out of range, or for a pattern that does not compile. The
wording of each refusal is fixed here, in one place.
-/

namespace FormIntegrity

/-- A setting that is out of range. -/
inductive ConfigError where
  /-- The page cache must hold at least one page. -/
  | noPages
  /-- The state parameter name is empty or holds `&`, `=`, `?` or `#`. -/
  | badStateName (name : String)
  /-- A rule has neither an accepted nor a rejected pattern. -/
  | ruleWithoutPattern (rule : String)
  /-- A default rule carries a URL pattern. -/
  | defaultRuleWithUrl (rule : String)
  /-- The settings document cannot be read. -/
  | unreadableSettings
  deriving DecidableEq, Repr

namespace ConfigError

/-- The report of a setting out of range. -/
def message : ConfigError → String
  | .noPages => "max_pages_per_session must be at least 1"
  | .badStateName name => "invalid state parameter name '" ++ name ++ "'"
  | .ruleWithoutPattern rule => "rule '" ++ rule ++ "' needs an accepted or rejected pattern"
  | .defaultRuleWithUrl rule => "default rule '" ++ rule ++ "' must not carry a URL pattern"
  | .unreadableSettings => "invalid settings document"

end ConfigError

/-- Why a configuration does not compile. -/
inductive SetupError where
  | config (e : ConfigError)
  | pattern (e : PatternError)
  deriving DecidableEq, Repr

end FormIntegrity
