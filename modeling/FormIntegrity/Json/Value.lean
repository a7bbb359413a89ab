import FormIntegrity.Text.Decimal
import FormIntegrity.Text.Hex

/-!
# JSON values

The documents this library reads and writes: settings, rule specifications and sealed states. A
number keeps the form it was written in, since a count must be written as an integer: an integer
literal is kept as an integer, and a literal with a fraction or an exponent as its decimal mantissa
and exponent. An object keeps its members in document order, repeated names included, so that a
reader can refuse a repeated field. A string that names no text because half of a surrogate pair
is left unpaired is kept as the text it was written as.

Writing is compact: no blanks, members in the order given, and in strings only `"`, `\` and the
control characters escaped (`\b \f \n \r \t`, others as `\u00xx`); other characters are written as
they are.
-/

namespace FormIntegrity.Json

/-- A JSON value. -/
inductive Value where
  | null
  | bool (b : Bool)
  /-- A number written without fraction or exponent. -/
  | int (i : Int)
  /-- A number written with a fraction or an exponent: `mantissa * 10 ^ exponent`. -/
  | real (mantissa : Int) (exponent : Int)
  | str (s : String)
  | arr (items : List Value)
  | obj (members : List (String × Value))
  /-- Well-formed text holding a string that names no text, one whose `\u` escapes leave half of a
  surrogate pair unpaired, kept as it was written. -/
  | unpaired (text : String)
  deriving Inhabited

/-- The escaped form of one character inside a string. -/
def escapeChar (c : Char) : List Char :=
  if c = '"' then ['\\', '"']
  else if c = '\\' then ['\\', '\\']
  else if c = '\n' then ['\\', 'n']
  else if c = '\r' then ['\\', 'r']
  else if c = '\t' then ['\\', 't']
  else if c.toNat = 8 then ['\\', 'b']
  else if c.toNat = 12 then ['\\', 'f']
  else if c.toNat < 0x20 then ['\\', 'u', '0', '0', Hex.digit (c.toNat / 16), Hex.digit (c.toNat % 16)]
  else [c]

/-- A string literal. -/
def quote (s : String) : String :=
  String.ofList ('"' :: s.toList.flatMap escapeChar ++ ['"'])

/-- The text of an integer. -/
def intText (i : Int) : String :=
  if i < 0 then "-" ++ Decimal.write i.natAbs else Decimal.write i.natAbs

/-- The text of a decimal number `m * 10 ^ e`, positional, with at least one fractional digit. -/
def realText (m : Int) (e : Int) : String :=
  let sign := if m < 0 then "-" else ""
  let digits := Decimal.write m.natAbs
  if e ≥ 0 then sign ++ digits ++ String.ofList (List.replicate e.toNat '0') ++ ".0"
  else
    let k := e.natAbs
    let padded := String.ofList (List.replicate (k + 1 - min (k + 1) digits.length) '0') ++ digits
    let whole := padded.toList.take (padded.length - k)
    let frac := padded.toList.drop (padded.length - k)
    sign ++ String.ofList whole ++ "." ++ String.ofList frac

mutual

/-- The compact text of a value. -/
def Value.write : Value → String
  | .null => "null"
  | .bool b => if b then "true" else "false"
  | .int i => intText i
  | .real m e => realText m e
  | .str s => quote s
  | .arr items => "[" ++ writeItems items ++ "]"
  | .obj members => "\x7b" ++ writeMembers members ++ "\x7d"
  | .unpaired text => text

/-- The compact text of array items, separated by commas. -/
def writeItems : List Value → String
  | [] => ""
  | [v] => v.write
  | v :: rest => v.write ++ "," ++ writeItems rest

/-- The compact text of object members, separated by commas. -/
def writeMembers : List (String × Value) → String
  | [] => ""
  | [(k, v)] => quote k ++ ":" ++ v.write
  | (k, v) :: rest => quote k ++ ":" ++ v.write ++ "," ++ writeMembers rest

end

end FormIntegrity.Json
