import FormIntegrity.Pattern.CharClass
import FormIntegrity.Unicode.Category
import FormIntegrity.Unicode.Script
import FormIntegrity.Unicode.Property
import FormIntegrity.Unicode.Age
import FormIntegrity.Unicode.Segment

/-!
# Unicode classes by name

The classes a pattern names with `\p{…}` and `\P{…}`, and the classes of `\d`, `\s` and `\w` and of
the bracketed ASCII names such as `[:alpha:]`.

A name is compared after normalisation: a leading `is` is dropped, blanks, `_` and `-` are dropped,
ASCII letters are lowered and other non-ASCII characters are dropped. A lone name is looked up first
among the binary properties, then among the general categories, then among the scripts; a name of
the form `property!=value`, `property:value` or `property=value` (split at the first `!=`, else at
the first `:`, else at the first `=`) names a general category, a script, the code points
whose script extensions hold a script, the code points assigned by a version of the standard or an
earlier one, or a value of one of the segmentation properties.
-/

namespace FormIntegrity.Pattern

open Unicode

/-- Normalises a property name or value. -/
def normalizeName (name : String) : String :=
  let cs := name.toList
  let (startsWithIs, body) := match cs with
    | a :: b :: rest =>
      if (a = 'i' || a = 'I') && (b = 's' || b = 'S') then (true, rest) else (false, cs)
    | _ => (false, cs)
  let kept := body.filterMap fun c =>
    if c = ' ' || c = '_' || c = '-' then none
    else if 'A' ≤ c && c ≤ 'Z' then some (Char.ofNat (c.toNat + 32))
    else if c.toNat ≤ 0x7F then some c
    else none
  if startsWithIs && kept = ['c'] then "isc" else String.ofList kept

/-- The class of the binary property a lone name names, by any of the property's names. -/
def binaryProperty? (norm : String) : Option CharClass :=
  (binaryProperties.find? fun p => p.names.any (normalizeName · == norm)).map
    fun p => CharClass.normalize p.codes.ranges

/-- Property names this library knows but cannot use as a class by themselves. -/
def otherPropertyNames : List String :=
  ["age", "generalcategory", "gc", "script", "scriptextensions", "scx", "graphemeclusterbreak",
   "gcb", "wordbreak", "wb", "sentencebreak", "sb", "name", "na", "block", "blk"]

/-- The class of a general category name, or of `any`, `assigned` and `ascii`. -/
def categoryClass? (norm : String) : Option CharClass :=
  match norm with
  | "any" => some (CharClass.range 0 CharClass.maxCode)
  | "assigned" => some (CharClass.complement (CharClass.normalize (categoryRanges [.cn])))
  | "ascii" => some (CharClass.range 0 0x7F)
  | _ => (categoryNames.lookup norm).map fun cats => CharClass.normalize (categoryRanges cats)

/-- The class of a script name. -/
def scriptClass? (norm : String) : Option CharClass :=
  (scriptNames.lookup norm).map fun code => CharClass.normalize (scriptRanges code)

/-- The class of a script name under script extensions: the script's code points without extensions
of their own, and the code points whose extensions name the script. -/
def scriptExtensionClass? (norm : String) : Option CharClass :=
  (scriptNames.lookup norm).map fun code =>
    CharClass.union
      (CharClass.diff (CharClass.normalize (scriptRanges code)) (CharClass.normalize extendedRanges))
      (CharClass.normalize (extensionRanges code))

/-- The class of the code points assigned by a named version or by an earlier one. -/
def ageClass? (norm : String) : Option CharClass :=
  (versionNames.lookup norm).map fun v => CharClass.normalize (assignedBy v)

/-- The class of a named value of a segmentation property, given the names of its values and its
map; `none` for a name that is not a value some code point has. -/
def segmentClass? (names : List (String × String)) (m : CodeMap String) (norm : String) :
    Option CharClass :=
  (names.lookup norm).map fun v => CharClass.normalize (m.rangesWhere (· == v))

/-- The class of a lone property name. -/
def lonePropertyClass? (name : String) : Option CharClass :=
  let norm := normalizeName name
  let asBinary :=
    if norm = "cf" || norm = "sc" || norm = "lc" then none
    else if otherPropertyNames.contains norm then some none
    else (binaryProperty? norm).map some
  match asBinary with
  | some found => found
  | none => (categoryClass? norm).orElse fun _ => scriptClass? norm

/-- The class of `property` with `value`. -/
def valuePropertyClass? (property value : String) : Option CharClass :=
  match normalizeName property with
  | "generalcategory" | "gc" => categoryClass? (normalizeName value)
  | "script" | "sc" => scriptClass? (normalizeName value)
  | "scriptextensions" | "scx" => scriptExtensionClass? (normalizeName value)
  | "age" => ageClass? (normalizeName value)
  | "graphemeclusterbreak" | "gcb" =>
    segmentClass? graphemeBreakNames graphemeBreakMap (normalizeName value)
  | "wordbreak" | "wb" => segmentClass? wordBreakNames wordBreakMap (normalizeName value)
  | "sentencebreak" | "sb" => segmentClass? sentenceBreakNames sentenceBreakMap (normalizeName value)
  | _ => none

/-- The class named inside `\p{…}`; a `!=` between property and value negates it. -/
def namedClass? (name : String) : Option (CharClass × Bool) :=
  let cs := name.toList
  let rec findNe : List Char → List Char → Option (List Char × List Char)
    | acc, '!' :: '=' :: rest => some (acc.reverse, rest)
    | acc, c :: rest => findNe (c :: acc) rest
    | _, [] => none
  let byValue (p v : List Char) := valuePropertyClass? (String.ofList p) (String.ofList v)
  match findNe [] cs with
  | some (p, v) => (byValue p v).map (·, true)
  | none =>
    match cs.span (· ≠ ':') with
    | (p, _ :: v) => (byValue p v).map (·, false)
    | (_, []) =>
      match cs.span (· ≠ '=') with
      | (p, _ :: v) => (byValue p v).map (·, false)
      | (_, []) => (lonePropertyClass? name).map (·, false)

/-- The Unicode class of `\d`: decimal digits. -/
def digitClass : CharClass := CharClass.normalize (categoryRanges [.nd])

/-- The Unicode class of `\s`: White_Space. -/
def spaceClass : CharClass := CharClass.normalize whiteSpace.ranges

/-- The Unicode class of `\w`: word characters. -/
def wordClass : CharClass := CharClass.normalize word.ranges

/-- The ASCII class of `\d`. -/
def asciiDigit : CharClass := CharClass.range 0x30 0x39

/-- The ASCII class of `\s`: tab, line feed, vertical tab, form feed, carriage return, space. -/
def asciiSpace : CharClass := CharClass.normalize [(9, 13), (32, 32)]

/-- The ASCII class of `\w`: digits, letters and `_`. -/
def asciiWord : CharClass := CharClass.normalize [(0x30, 0x39), (0x41, 0x5A), (0x5F, 0x5F), (0x61, 0x7A)]

/-- The class of a bracketed ASCII name such as `alpha`. -/
def asciiNamedClass? (name : String) : Option CharClass :=
  let n := CharClass.normalize
  match name with
  | "alnum" => some (n [(0x30, 0x39), (0x41, 0x5A), (0x61, 0x7A)])
  | "alpha" => some (n [(0x41, 0x5A), (0x61, 0x7A)])
  | "ascii" => some (n [(0, 0x7F)])
  | "blank" => some (n [(9, 9), (32, 32)])
  | "cntrl" => some (n [(0, 0x1F), (0x7F, 0x7F)])
  | "digit" => some asciiDigit
  | "graph" => some (n [(0x21, 0x7E)])
  | "lower" => some (n [(0x61, 0x7A)])
  | "print" => some (n [(0x20, 0x7E)])
  | "punct" => some (n [(0x21, 0x2F), (0x3A, 0x40), (0x5B, 0x60), (0x7B, 0x7E)])
  | "space" => some asciiSpace
  | "upper" => some (n [(0x41, 0x5A)])
  | "word" => some asciiWord
  | "xdigit" => some (n [(0x30, 0x39), (0x41, 0x46), (0x61, 0x66)])
  | _ => none

end FormIntegrity.Pattern
