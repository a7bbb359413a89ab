import FormIntegrity.Session
import FormIntegrity.Config.Basic
import FormIntegrity.PageIds
import FormIntegrity.Entropy

/-!
# Guards

A guard serves one application: it holds the compiled configuration, the counter from which every
page of every session takes its id, the cache of pages with application states, the key that seals
application states, and the entropy from which nonces, keys and random parameter names are drawn.

A new session gets the configured parameter name, or with random names `_` followed by twelve
lower-case hexadecimal digits; a page cache bounded by the configured number of pages; an unbounded
user-session cache; and a fresh key.
-/

namespace FormIntegrity

/-- The state of a guard. -/
structure Guard where
  config : Config
  ids : PageIds := {}
  appPages : PageCache := .unbounded
  appKey : CipherKey
  entropy : Entropy := {}

namespace Guard

/-- A fresh key drawn from entropy. -/
def drawKey (e : Entropy) : CipherKey × Entropy :=
  (⟨(e.bytes 32).1, Entropy.length_bytes e 32⟩, (e.bytes 32).2)

/-- A guard whose application key is drawn from the entropy. -/
def create (config : Config) (entropy : Entropy) : Guard :=
  let (appKey, entropy) := drawKey entropy
  { config, appKey, entropy }

/-- A guard with a given application key. -/
def withApplicationKey (config : Config) (appKey : CipherKey) (entropy : Entropy) : Guard :=
  { config, appKey, entropy }

/-- `count` bytes of entropy. -/
def draw (g : Guard) (count : Nat) : List UInt8 × Guard :=
  let (bytes, entropy) := g.entropy.bytes count
  (bytes, { g with entropy })

/-- The next page id. -/
def takePageId (g : Guard) : UInt64 × Guard :=
  let (id, ids) := g.ids.take
  (id, { g with ids })

/-- A fresh page nonce: sixteen lower-case hexadecimal digits. -/
def takeNonce (g : Guard) : String × Guard :=
  let (bytes, g) := g.draw 8
  (Hex.encode bytes, g)

/-- Opens a session with an id. -/
def newSession (g : Guard) (id : String) : Session × Guard :=
  let (name, g) :=
    if g.config.randomStateParameterName then
      let (bytes, g) := g.draw 6
      ("_" ++ Hex.encode bytes, g)
    else (g.config.stateParameterName, g)
  let (key, entropy) := drawKey g.entropy
  ({ id, stateParameterName := name, pages := .bounded g.config.maxPagesPerSession,
     userPages := .unbounded, key }, { g with entropy })

/-- Removes the pages of a flow from a session's user-session cache and from the application
cache; returns how many were removed. -/
def endFlow (g : Guard) (s : Session) (flow : String) : Nat × Guard × Session :=
  let (fromUser, userPages) := s.userPages.removeFlow flow
  let (fromApp, appPages) := g.appPages.removeFlow flow
  (fromUser + fromApp, { g with appPages }, { s with userPages })

end Guard

end FormIntegrity
