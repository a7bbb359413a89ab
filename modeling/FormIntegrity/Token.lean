import FormIntegrity.Scope
import FormIntegrity.Text.Base64Url
import FormIntegrity.Text.Decimal
import FormIntegrity.Text.Hex

/-!
# State tokens

A token names the state a response emitted. Under the memory strategy it carries a page id, a state
index and the page's nonce, written `page-index-nonce`; under the cipher strategy it carries a
sealed payload, written `C` and the payload in unpadded URL-safe base64. A token of the
user-session or application scope starts with `U-` or `A-`.

Reading splits off a prefix only when the text before the first `-` is exactly `U` or `A`; after
that a leading `C` marks a payload, and anything else must be exactly three `-`-separated segments:
two numerals below `2 ^ 64` and a non-empty run of ASCII hexadecimal digits. The first failing check
names the error.
-/

namespace FormIntegrity

/-- What a token carries besides its scope. -/
inductive TokenBody where
  /-- A reference into a page cache. -/
  | memory (pageId : UInt64) (stateIndex : UInt64) (nonce : String)
  /-- A sealed state. -/
  | cipher (payload : List UInt8)
  deriving DecidableEq, Repr, Inhabited

/-- The token handed out for a composed state. -/
structure StateToken where
  scope : Scope
  body : TokenBody
  deriving DecidableEq, Repr, Inhabited

/-- Why a text is not a token. -/
inductive TokenError where
  | payloadNotBase64
  | emptyPayload
  | segmentCount
  | badPageId
  | badStateIndex
  | badNonce
  deriving DecidableEq, Repr

namespace TokenError

/-- What is wrong, in words. -/
def detail : TokenError → String
  | .payloadNotBase64 => "payload is not base64url"
  | .emptyPayload => "empty payload"
  | .segmentCount => "expected page, state and nonce segments"
  | .badPageId => "bad page id"
  | .badStateIndex => "bad state index"
  | .badNonce => "bad nonce"

/-- The report of a malformed token. -/
def message (e : TokenError) : String :=
  "malformed state token: " ++ e.detail

end TokenError

namespace StateToken

/-- The text of a token body. -/
def bodyText : TokenBody → String
  | .memory pageId stateIndex nonce =>
    Decimal.write pageId.toNat ++ "-" ++ Decimal.write stateIndex.toNat ++ "-" ++ nonce
  | .cipher payload => "C" ++ Base64Url.encode payload

/-- The text of a token. -/
def render (t : StateToken) : String :=
  match t.scope.tokenPrefix? with
  | some p => String.ofList [p, '-'] ++ bodyText t.body
  | none => bodyText t.body

/-- The scope named by a prefix, and the text after it. -/
def splitScope (raw : List Char) : Scope × List Char :=
  match raw.span (· ≠ '-') with
  | (pre, _ :: rest) =>
    match Scope.ofTokenPrefix? pre with
    | some scope => (scope, rest)
    | none => (.page, raw)
  | (_, []) => (.page, raw)

/-- Whether a nonce is a non-empty run of ASCII hexadecimal digits. -/
def validNonce (nonce : List Char) : Bool :=
  !nonce.isEmpty && nonce.all Hex.isDigit

/-- Reads the body of a token, the scope prefix removed. -/
def parseBody (rest : List Char) : Except TokenError TokenBody :=
  match rest with
  | 'C' :: encoded =>
    match Base64Url.decodeList encoded with
    | none => .error .payloadNotBase64
    | some [] => .error .emptyPayload
    | some payload => .ok (.cipher payload)
  | _ =>
    match rest.splitOn '-' with
    | [page, index, nonce] =>
      match Decimal.readU64? page with
      | none => .error .badPageId
      | some pageId =>
        match Decimal.readU64? index with
        | none => .error .badStateIndex
        | some stateIndex =>
          if validNonce nonce then .ok (.memory pageId stateIndex (String.ofList nonce))
          else .error .badNonce
    | _ => .error .segmentCount

/-- Reads a token text. -/
def parse (raw : String) : Except TokenError StateToken :=
  let (scope, rest) := splitScope raw.toList
  (fun body => { scope, body }) <$> parseBody rest

end StateToken

end FormIntegrity
