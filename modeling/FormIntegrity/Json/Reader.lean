import FormIntegrity.Json.Value

/-!
# Reading JSON

A reader of RFC 8259 text. Blanks are space, tab, line feed and carriage return. Numbers have no
leading zeros, and a fraction and an exponent need digits; their size is not limited. Negative zero
written without fraction or exponent is read as a non-integer, as is any literal with a fraction or
an exponent. Strings refuse raw control characters and unknown escapes. Containers may nest to any
depth. After the value only blanks may follow.

A `\u` escape names one UTF-16 unit, so it may name half of a surrogate pair. A string whose halves
are all paired is read as its characters. A string with a half left unpaired, and an object with
such a string as a member name, is well-formed but names no text: it is kept as the text it was
written as (`Value.unpaired`), which a reader of a record may skip but never read.
-/

namespace FormIntegrity.Json

/-- Drops JSON blanks. -/
def skipBlanks : List Char → List Char
  | c :: rest => if c = ' ' || c = '\t' || c = '\n' || c = '\r' then skipBlanks rest else c :: rest
  | [] => []

/-- The value of four hexadecimal digits at the front, and the rest. -/
def hex4 (cs : List Char) : Option (Nat × List Char) :=
  match cs with
  | a :: b :: c :: d :: rest => do
    let va ← Hex.digitValue? a
    let vb ← Hex.digitValue? b
    let vc ← Hex.digitValue? c
    let vd ← Hex.digitValue? d
    pure (((va * 16 + vb) * 16 + vc) * 16 + vd, rest)
  | _ => none

/-- The character of a one-letter escape such as `\n`. -/
def escapeValue? : Char → Option Char
  | '"' => some '"'
  | '\\' => some '\\'
  | '/' => some '/'
  | 'b' => some (Char.ofNat 8)
  | 'f' => some (Char.ofNat 12)
  | 'n' => some '\n'
  | 'r' => some '\r'
  | 't' => some '\t'
  | _ => none

/-- The units of a string up to its closing quote, and the text after it: a character written as
it is gives its code point, and an escape the UTF-16 unit it names, so that a `\u` escape may name
half of a surrogate pair. `fuel` bounds the characters read. -/
def readUnits : Nat → List Nat → List Char → Option (List Nat × List Char)
  | 0, _, _ => none
  | _, _, [] => none
  | fuel + 1, acc, c :: rest =>
    if c = '"' then some (acc.reverse, rest)
    else if c = '\\' then
      match rest with
      | 'u' :: more => do
        let (n, rest) ← hex4 more
        readUnits fuel (n :: acc) rest
      | e :: more => (escapeValue? e).bind fun ch => readUnits fuel (ch.toNat :: acc) more
      | [] => none
    else if c.toNat < 0x20 then none
    else readUnits fuel (c.toNat :: acc) rest

/-- Whether a unit is the leading half of a surrogate pair. -/
def isLeading (n : Nat) : Bool := 0xD800 ≤ n && n ≤ 0xDBFF

/-- Whether a unit is the trailing half of a surrogate pair. -/
def isTrailing (n : Nat) : Bool := 0xDC00 ≤ n && n ≤ 0xDFFF

/-- The characters of a string's units, each leading surrogate joined with the trailing one right
after it; `none` when a surrogate is left without its other half. -/
def pairSurrogates : List Nat → Option (List Char)
  | [] => some []
  | [n] => if isLeading n || isTrailing n then none else some [Char.ofNat n]
  | n :: tail@(m :: rest) =>
    if isLeading n then
      if isTrailing m then
        (pairSurrogates rest).map (Char.ofNat (0x10000 + (n - 0xD800) * 0x400 + (m - 0xDC00)) :: ·)
      else none
    else if isTrailing n then none
    else (pairSurrogates tail).map (Char.ofNat n :: ·)

/-- Reads a string after its opening quote: its characters, or `none` when a surrogate is left
unpaired, and the text after the closing quote. -/
def readString (cs : List Char) : Option (Option String × List Char) :=
  (readUnits (cs.length + 1) [] cs).map fun (units, rest) =>
    ((pairSurrogates units).map String.ofList, rest)

/-- Reads a number at the front of the text. -/
def readNumber (cs : List Char) : Option (Value × List Char) :=
  let (neg, cs) := match cs with
    | '-' :: rest => (true, rest)
    | _ => (false, cs)
  let (whole, cs) := cs.span Char.isDigit
  let leadingZero := match whole with
    | '0' :: _ :: _ => true
    | _ => false
  if whole.isEmpty || leadingZero then none
  else
    let (frac?, cs) : Option (List Char) × List Char := match cs with
      | '.' :: rest => let (f, r) := rest.span Char.isDigit; (some f, r)
      | _ => (none, cs)
    let (exp?, cs) : Option (Bool × List Char) × List Char := match cs with
      | e :: rest =>
        if e = 'e' || e = 'E' then
          let (negExp, rest) := match rest with
            | '-' :: r => (true, r)
            | '+' :: r => (false, r)
            | r => (false, r)
          let (ds, r) := rest.span Char.isDigit
          (some (negExp, ds), r)
        else (none, cs)
      | [] => (none, cs)
    let fracDigits := frac?.getD []
    if frac? = some [] || (exp?.map (·.2.isEmpty)).getD false then none
    else
      let m := Decimal.digitsValue (whole ++ fracDigits)
      let expValue : Int := match exp? with
        | some (true, ds) => -(Decimal.digitsValue ds : Int)
        | some (false, ds) => Decimal.digitsValue ds
        | none => 0
      let e := expValue - fracDigits.length
      let signed : Int := if neg then -(m : Int) else m
      if frac?.isNone && exp?.isNone && !(neg && m = 0) then some (.int signed, cs)
      else some (.real signed e, cs)

/-- The text read between `start` and `rest`, a suffix of it. -/
def consumed (start rest : List Char) : String :=
  String.ofList (start.take (start.length - rest.length))

mutual

/-- Reads a value at the front of the text; `fuel` bounds the values read. -/
def readValue : Nat → List Char → Option (Value × List Char)
  | 0, _ => none
  | fuel + 1, cs =>
    match skipBlanks cs with
    | 'n' :: 'u' :: 'l' :: 'l' :: rest => some (.null, rest)
    | 't' :: 'r' :: 'u' :: 'e' :: rest => some (.bool true, rest)
    | 'f' :: 'a' :: 'l' :: 's' :: 'e' :: rest => some (.bool false, rest)
    | start@('"' :: rest) => (readString rest).map fun (s?, r) =>
      match s? with
      | some s => (.str s, r)
      | none => (.unpaired (consumed start r), r)
    | '[' :: rest =>
      match skipBlanks rest with
      | ']' :: r => some (.arr [], r)
      | r => readItems fuel [] r
    | start@('{' :: rest) =>
      let members? := match skipBlanks rest with
        | '}' :: r => some (some [], r)
        | r => readMembers fuel (some []) r
      members?.map fun (ms?, r) =>
        match ms? with
        | some ms => (.obj ms, r)
        | none => (.unpaired (consumed start r), r)
    | cs => readNumber cs

/-- Reads the items of an array after `[` or `,`, the items so far given in reverse. -/
def readItems : Nat → List Value → List Char → Option (Value × List Char)
  | 0, _, _ => none
  | fuel + 1, acc, cs => do
    let (v, rest) ← readValue fuel cs
    match skipBlanks rest with
    | ',' :: r => readItems fuel (v :: acc) r
    | ']' :: r => some (.arr (v :: acc).reverse, r)
    | _ => none

/-- Reads the members of an object after `{` or `,`, the members so far given in reverse, or
`none` once a member name is a string with an unpaired surrogate. -/
def readMembers : Nat → Option (List (String × Value)) → List Char →
    Option (Option (List (String × Value)) × List Char)
  | 0, _, _ => none
  | fuel + 1, acc, cs =>
    match skipBlanks cs with
    | '"' :: rest => do
      let (k?, rest) ← readString rest
      match skipBlanks rest with
      | ':' :: rest => do
        let (v, rest) ← readValue fuel rest
        let acc := do
          let ms ← acc
          let k ← k?
          pure ((k, v) :: ms)
        match skipBlanks rest with
        | ',' :: r => readMembers fuel acc r
        | '}' :: r => some (acc.map List.reverse, r)
        | _ => none
      | _ => none
    | _ => none

end

/-- Reads a whole document: one value and nothing after it but blanks. -/
def read? (text : String) : Option Value :=
  let cs := text.toList
  match readValue (2 * cs.length + 2) cs with
  | some (v, rest) => if (skipBlanks rest).isEmpty then some v else none
  | none => none

end FormIntegrity.Json
