import FormIntegrity.PageCache
import FormIntegrity.Cipher.Basic
import FormIntegrity.Text.Quoted
import FormIntegrity.Text.Decimal

/-!
# Sessions

A session belongs to one user. It names the parameter that carries tokens in its requests, keeps a
bounded cache of its pages and an unbounded cache of the pages with user-session states, and has its
own key for sealing page and user-session states. Application states are kept and sealed by the
guard instead.

A session's diagnostic text shows its id, its parameter name and the sizes of its caches, never its
key.
-/

namespace FormIntegrity

/-- A user's session. -/
structure Session where
  id : String
  stateParameterName : String
  pages : PageCache
  userPages : PageCache
  key : CipherKey

namespace Session

/-- The session's cache for a scope; application pages are not kept by sessions. -/
def cache? (s : Session) : Scope → Option PageCache
  | .page => some s.pages
  | .userSession => some s.userPages
  | .application => none

/-- Empties both caches. -/
def invalidate (s : Session) : Session :=
  { s with pages := s.pages.clear, userPages := s.userPages.clear }

/-- The diagnostic text of a session. -/
def describe (s : Session) : String :=
  "Session \x7b id: " ++ Quoted.quote s.id ++ ", state_parameter_name: " ++
    Quoted.quote s.stateParameterName ++ ", pages: " ++ Decimal.write s.pages.size ++
    ", user_pages: " ++ Decimal.write s.userPages.size ++ ", key: " ++ s.key.shown ++ " \x7d"

end Session

end FormIntegrity
