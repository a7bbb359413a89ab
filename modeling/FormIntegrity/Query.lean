import FormIntegrity.Text.Hex
import FormIntegrity.Text.Utf8

/-!
# Query strings

A query string is split at every `&`; empty segments are dropped, and each segment is split at its
first `=` into a raw name and a raw value (a segment without `=` has the empty value). Splitting
decodes nothing.

A raw component is decoded in two steps: every `+` becomes a space, then every `%` followed by two
hexadecimal digits becomes the octet they name, while any other `%` stands for itself. The octets
must then be UTF-8, or the component does not decode.
-/

namespace FormIntegrity.Query

/-- Splits a list at every occurrence of a separator. -/
def splitAt (sep : Char) : List Char → List (List Char)
  | [] => [[]]
  | c :: rest =>
    if c = sep then [] :: splitAt sep rest
    else match splitAt sep rest with
      | first :: more => (c :: first) :: more
      | [] => [[c]]

/-- A segment cut at its first `=`; without one, the value is empty. -/
def cutPair (segment : List Char) : String × String :=
  match segment.span (· ≠ '=') with
  | (name, _ :: value) => (String.ofList name, String.ofList value)
  | (name, []) => (String.ofList name, "")

/-- The raw name and value of every non-empty segment, in order. -/
def pairs (query : String) : List (String × String) :=
  ((splitAt '&' query.toList).filter (fun seg => !seg.isEmpty)).map cutPair

/-- Octets with every `%` and two hexadecimal digits replaced by the octet they name. -/
def unescape : List UInt8 → List UInt8
  | 0x25 :: hi :: lo :: rest =>
    match Hex.digitValue? (Char.ofNat hi.toNat), Hex.digitValue? (Char.ofNat lo.toNat) with
    | some h, some l => (h * 16 + l).toUInt8 :: unescape rest
    | _, _ => 0x25 :: unescape (hi :: lo :: rest)
  | b :: rest => b :: unescape rest
  | [] => []
termination_by bytes => bytes.length

/-- Decodes one raw query component; `none` when the octets are not UTF-8. -/
def decodeComponent? (raw : String) : Option String :=
  let spaced := raw.toList.map (fun c => if c = '+' then ' ' else c)
  Utf8.decode? (unescape (Utf8.encodeChars spaced))

/-- Splits a target at its first `?` into the path and the query. -/
def splitTarget (target : String) : String × String :=
  match target.toList.span (· ≠ '?') with
  | (path, _ :: query) => (String.ofList path, String.ofList query)
  | (path, []) => (String.ofList path, "")

end FormIntegrity.Query
