/-!
# Scopes

Every composed state lives in one of three scopes. The page scope is the default and lives in the
session's bounded page cache; the user-session scope lives for the whole session; the application
scope is shared by every session. Tokens of the two wider scopes carry a one-letter prefix.
-/

namespace FormIntegrity

/-- Lifetime and visibility class of a composed state. -/
inductive Scope where
  /-- The session's bounded page cache; the default. -/
  | page
  /-- Kept for the life of the session. -/
  | userSession
  /-- Shared by every session of the application. -/
  | application
  deriving DecidableEq, Repr, Inhabited

namespace Scope

/-- The three scopes, in the order pages are stored into their caches. -/
def all : List Scope := [.page, .userSession, .application]

/-- The token prefix of a scope; the default scope has none. -/
def tokenPrefix? : Scope → Option Char
  | .page => none
  | .userSession => some 'U'
  | .application => some 'A'

/-- The scope a token prefix names. -/
def ofTokenPrefix? (text : List Char) : Option Scope :=
  match text with
  | ['U'] => some .userSession
  | ['A'] => some .application
  | _ => none

/-- The short name of a scope as reports write it. -/
def shortName : Scope → String
  | .page => "page"
  | .userSession => "user"
  | .application => "application"

end Scope

end FormIntegrity
