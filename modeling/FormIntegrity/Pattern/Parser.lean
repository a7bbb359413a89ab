import FormIntegrity.Pattern.Size
import FormIntegrity.Pattern.Property
import FormIntegrity.Unicode.Naming
import FormIntegrity.Text.Hex
import FormIntegrity.Text.Decimal

/-!
# Pattern syntax

Reads a pattern in the syntax of the usual Unicode-aware regular expression engines and gives its
`Tree`, or the reason it is refused. The syntax covers literals and escapes (`\n`, `\x7F`,
`\u{1F600}`, escaped punctuation), `.`, `^`, `$`, the assertions `\A \z \b \B \< \>` and
`\b{start}` and its kin, the classes `\d \s \w` and `\p{…}`, bracketed classes with ranges, nested
classes, ASCII names and the operators `&&`, `--` and `~~`, groups (capturing, named, non-capturing
and with flags), alternation and the repetitions `? * + {n} {n,} {n,m}` with optional `?`.

The flags `i` (case-insensitive by simple case folding), `m` (`^` and `$` at line ends), `s` (`.`
matches `\n`), `R` (`\r\n` ends lines), `U` (swap greediness), `u` (Unicode classes) and `x`
(blanks and `#` comments ignored) hold from where they are set to the end of the enclosing group.

Refused are: unbalanced parentheses and brackets, a repetition with nothing to repeat, counts out of
order or above `2 ^ 32 - 1`, back-references, look-around, unknown escapes and class names, empty or
repeated group names, repeated or dangling flags, ranges out of order, constructs that could match
octets that are not UTF-8 when Unicode is off, nesting deeper than 250, and trees whose automata do
not fit in the memory limit (`Size.fits`).
-/

namespace FormIntegrity.Pattern

/-- Why a pattern is refused. -/
inductive Refusal where
  | unexpectedEnd
  | unopenedGroup
  | unclosedGroup
  | unclosedClass
  | repetitionMissing
  | badRepetitionCount
  | badRange
  | badEscape
  | lookAround
  | backreference
  | badGroupName
  | duplicateGroupName
  | badFlags
  | unknownProperty
  | unicodeDisabled
  | notUtf8
  | nestedTooDeep
  | tooLarge
  deriving DecidableEq, Repr

/-- The flags in force at a point of a pattern. -/
structure Flags where
  caseless : Bool := false
  multiLine : Bool := false
  dotAll : Bool := false
  swapGreed : Bool := false
  unicode : Bool := true
  crlf : Bool := false
  verbose : Bool := false
  deriving DecidableEq, Repr, Inhabited

/-- Whether a character is white space in the Unicode sense. -/
def isBlank (c : Char) : Bool := Unicode.whiteSpace.contains c.toNat

/-- Drops blanks and `#` comments when `verbose` is on; `inComment` says a comment is open. -/
def skipBlank (verbose : Bool) : Bool → List Char → List Char
  | _, [] => []
  | true, c :: rest => if c = '\n' then skipBlank verbose false rest else skipBlank verbose true rest
  | false, c :: rest =>
    if verbose && isBlank c then skipBlank verbose false rest
    else if verbose && c = '#' then skipBlank verbose true rest
    else c :: rest

/-- Drops blanks at the front when `verbose` is on. -/
def blanks (f : Flags) (cs : List Char) : List Char := skipBlank f.verbose false cs

/-- Drops one character, then blanks. -/
def advance (f : Flags) (cs : List Char) : List Char := blanks f (cs.drop 1)

/-- The characters with a meaning of their own, which an escape makes literal. -/
def isMeta (c : Char) : Bool :=
  "\\.+*?()|[]\x7b\x7d^$#&-~".toList.contains c

/-- Whether `\c` is a literal `c`: meta characters and ASCII punctuation other than `<` and `>`. -/
def isEscapable (c : Char) : Bool :=
  isMeta c || (c.toNat ≤ 0x7F && !c.isAlphanum && c ≠ '<' && c ≠ '>')

/-- What an escape or a single character stands for before flags give it a class. -/
inductive Primitive where
  /-- A character; `octet` marks an escape `\x` with two digits, which names an octet when Unicode
  is off. -/
  | literal (c : Char) (octet : Bool)
  /-- A class already resolved. -/
  | cls (c : CharClass)
  /-- An assertion. -/
  | look (l : Look)
  /-- `.`. -/
  | dot

/-- The character of a code point read from an escape, unless it is a surrogate or too large. -/
def escapedChar? (n : Nat) : Option Char :=
  if n < 0xD800 ∨ (0xDFFF < n ∧ n ≤ 0x10FFFF) then some (Char.ofNat n) else none

/-- Reads exactly `count` hexadecimal digits, the first already at the front. -/
def hexDigits (f : Flags) : Nat → Nat → List Char → Except Refusal (Nat × List Char)
  | 0, acc, cs => .ok (acc, cs)
  | count + 1, acc, cs =>
    match cs with
    | [] => .error .unexpectedEnd
    | c :: _ =>
      match Hex.digitValue? c with
      | none => .error .badEscape
      | some v =>
        let rest := advance f cs
        if count > 0 && rest.isEmpty then .error .unexpectedEnd
        else hexDigits f count (acc * 16 + v) rest

/-- Reads hexadecimal digits up to `}`, the text after `{` and its blanks given; blanks and comments
after every character are skipped in verbose mode. Returns the digit count, the value and the text
after `}` and its blanks; `fuel` bounds the characters read. -/
def braceDigits (f : Flags) : Nat → Nat → Nat → List Char → Except Refusal (Nat × Nat × List Char)
  | 0, _, _, _ => .error .unexpectedEnd
  | _, _, _, [] => .error .unexpectedEnd
  | fuel + 1, n, acc, c :: rest =>
    if c = '}' then .ok (n, acc, blanks f rest)
    else match Hex.digitValue? c with
      | none => .error .badEscape
      | some v => braceDigits f fuel (n + 1) (acc * 16 + v) (blanks f rest)

/-- Reads the digits of `\x`, `\u` or `\U`, the letter already read. -/
def parseHex (f : Flags) (kind : Char) (cs : List Char) : Except Refusal (Primitive × List Char) := do
  let cs := blanks f cs
  let (value, braced, rest) ← match cs with
    | [] => .error .unexpectedEnd
    | '{' :: after =>
      match braceDigits f (after.length + 1) 0 0 (blanks f after) with
      | .error e => .error e
      | .ok (0, _, _) => .error .badEscape
      | .ok (_, v, rest) => if v < Nat.pow 2 32 then .ok (v, true, rest) else .error .badEscape
    | _ => do
      let (v, rest) ← hexDigits f (if kind = 'x' then 2 else if kind = 'u' then 4 else 8) 0 cs
      pure (v, false, rest)
  match escapedChar? value with
  | some c => .ok (.literal c (kind = 'x' && !braced), rest)
  | none => .error .badEscape

/-- The class of a perl letter `d`, `s` or `w` in the current mode, negated for upper case. -/
def perlClass (f : Flags) (letter : Char) : CharClass :=
  let base := match letter.toLower, f.unicode with
    | 'd', true => digitClass
    | 's', true => spaceClass
    | 'w', true => wordClass
    | 'd', false => asciiDigit
    | 's', false => asciiSpace
    | _, _ => asciiWord
  if letter.isUpper then
    (if f.unicode then base.complement else base.complementUpTo 0xFF)
  else base

/-- Applies case folding, then negation, as the flags say. -/
def foldNegate (f : Flags) (negated : Bool) (cls : CharClass) : CharClass :=
  let folded := if f.caseless then (if f.unicode then cls.caseFold else cls.asciiCaseFold) else cls
  if negated then (if f.unicode then folded.complement else folded.complementUpTo 0xFF)
  else folded

/-- Reads a name up to `}`, the text after `{` and its blanks given; blanks and comments after every
character are skipped in verbose mode; `fuel` bounds the characters read. -/
def braceName (f : Flags) : Nat → List Char → List Char → Except Refusal (List Char × List Char)
  | 0, _, _ => .error .unexpectedEnd
  | _, _, [] => .error .unexpectedEnd
  | fuel + 1, acc, c :: rest =>
    if c = '}' then .ok (acc.reverse, rest)
    else braceName f fuel (c :: acc) (blanks f rest)

/-- Reads `\p{…}`, `\pX` and their negations, the letter already read. -/
def parseUnicodeClass (f : Flags) (negated : Bool) (cs : List Char) : Except Refusal (Primitive × List Char) := do
  let cs := blanks f cs
  let (name, rest) ← match cs with
    | [] => .error .unexpectedEnd
    | '{' :: after => braceName f (after.length + 1) [] (blanks f after)
    | c :: after => .ok ([c], after)
  if !f.unicode then .error .unicodeDisabled
  else match namedClass? (String.ofList name) with
    | none => .error .unknownProperty
    | some (cls, ne) => .ok (.cls (foldNegate f (negated != ne) cls), rest)

/-- Reads the name of `\b{…}`, or `none` when the brace starts a repetition instead. -/
def specialBoundary (f : Flags) (ascii : Bool) (cs : List Char) : Except Refusal (Option (Look × List Char)) :=
  let isNameChar (c : Char) := c.isAlpha || c = '-'
  let after := advance f cs
  match after with
  | [] => .error .unexpectedEnd
  | c :: _ =>
    if !isNameChar c then .ok none
    else
      let rec collect : Nat → List Char → List Char → List Char × List Char
        | 0, acc, rest => (acc.reverse, rest)
        | fuel + 1, acc, rest =>
          match rest with
          | d :: _ => if isNameChar d then collect fuel (d :: acc) (advance f rest) else (acc.reverse, rest)
          | [] => (acc.reverse, rest)
      let (name, rest) := collect after.length [] after
      match rest with
      | '}' :: tail =>
        match String.ofList name with
        | "start" => .ok (some (.wordStart ascii, tail))
        | "end" => .ok (some (.wordEnd ascii, tail))
        | "start-half" => .ok (some (.wordStartHalf ascii, tail))
        | "end-half" => .ok (some (.wordEndHalf ascii, tail))
        | _ => .error .badEscape
      | _ => .error .badEscape

/-- Reads an escape, the backslash already read. -/
def parseEscape (f : Flags) : List Char → Except Refusal (Primitive × List Char)
  | [] => .error .unexpectedEnd
  | c :: rest =>
    if c.isDigit then .error .backreference
    else if c = 'x' || c = 'u' || c = 'U' then parseHex f c rest
    else if c = 'p' || c = 'P' then parseUnicodeClass f (c = 'P') rest
    else if "dswDSW".toList.contains c then .ok (.cls (perlClass f c), rest)
    else if isEscapable c then .ok (.literal c false, rest)
    else match c with
      | 'a' => .ok (.literal (Char.ofNat 7) false, rest)
      | 'f' => .ok (.literal (Char.ofNat 12) false, rest)
      | 't' => .ok (.literal '\t' false, rest)
      | 'n' => .ok (.literal '\n' false, rest)
      | 'r' => .ok (.literal '\r' false, rest)
      | 'v' => .ok (.literal (Char.ofNat 11) false, rest)
      | 'A' => .ok (.look .textStart, rest)
      | 'z' => .ok (.look .textEnd, rest)
      | 'B' => .ok (.look (.notWordBoundary !f.unicode), rest)
      | '<' => .ok (.look (.wordStart !f.unicode), rest)
      | '>' => .ok (.look (.wordEnd !f.unicode), rest)
      | 'b' =>
        match rest with
        | '{' :: _ =>
          match specialBoundary f (!f.unicode) rest with
          | .error e => .error e
          | .ok (some (l, tail)) => .ok (.look l, tail)
          | .ok none => .ok (.look (.wordBoundary !f.unicode), rest)
        | _ => .ok (.look (.wordBoundary !f.unicode), rest)
      | _ => .error .badEscape

/-! ## Bracketed classes -/

/-- A class with the height of its syntax tree, which the nesting limit bounds. -/
structure Sized where
  cls : CharClass
  height : Nat

/-- The set operators of bracketed classes. -/
inductive SetOp where
  | inter
  | diff
  | symm

/-- What is suspended while a bracketed class is read: an open bracket with the items before it,
or the left side of an operator. -/
inductive ClassFrame where
  | opened (before : List Sized) (negated : Bool)
  | op (kind : SetOp) (lhs : Sized)

/-- The union of the items of one bracket level, with its height. -/
def unionOf (items : List Sized) : Sized :=
  match items with
  | [] => ⟨.empty, 0⟩
  | [one] => one
  | _ => ⟨items.foldl (fun acc i => acc.union i.cls) .empty,
      1 + items.foldl (fun acc i => max acc i.height) 0⟩

/-- Applies a suspended operator, if one is on top, to the class just read. -/
def closeOp (f : Flags) (rhs : Sized) : List ClassFrame → Sized × List ClassFrame
  | .op kind lhs :: rest =>
    let fold (c : CharClass) := if f.caseless then foldNegate f false c else c
    let a := fold lhs.cls
    let b := fold rhs.cls
    let value := match kind with
      | .inter => a.inter b
      | .diff => a.diff b
      | .symm => a.symmDiff b
    (⟨value, 1 + max lhs.height rhs.height⟩, rest)
  | stack => (rhs, stack)

/-- Reads a bracketed ASCII class such as `[:alpha:]` or `[:^digit:]`, if one starts here. -/
def asciiClass? (f : Flags) (cs : List Char) : Option (Sized × List Char) :=
  match cs with
  | '[' :: ':' :: rest =>
    let (negated, rest) := match rest with
      | '^' :: r => (true, r)
      | r => (false, r)
    match rest.span (· ≠ ':') with
    | (name, ':' :: ']' :: tail) =>
      (asciiNamedClass? (String.ofList name)).map fun cls => (⟨foldNegate f negated cls, 0⟩, tail)
    | _ => none
  | _ => none

/-- A class item read from an escape or a character, or a refusal for an assertion. -/
def classItem (f : Flags) (cs : List Char) : Except Refusal (Primitive × List Char) :=
  match cs with
  | '\\' :: rest => parseEscape f rest
  | c :: rest => .ok (.literal c false, rest)
  | [] => .error .unclosedClass

/-- The class of a literal inside brackets. -/
def literalClass (f : Flags) (c : Char) : Except Refusal CharClass :=
  if !f.unicode && c.toNat > 0x7F then .error .unicodeDisabled else .ok (.single c.toNat)

/-- Reads one item of a bracketed class: a character, a range or an escape. -/
def classRange (f : Flags) (cs : List Char) : Except Refusal (Sized × List Char) := do
  let (first, rest) ← classItem f cs
  let rest := blanks f rest
  let peekNext := match rest with
    | _ :: more => (blanks f more).head?
    | [] => none
  let isRange := rest.head? = some '-' && peekNext ≠ some ']' && peekNext ≠ some '-'
  if rest.isEmpty then .error .unclosedClass
  else if !isRange then
    match first with
    | .literal c _ => do let cls ← literalClass f c; pure (⟨cls, 0⟩, rest)
    | .cls c => if !f.unicode && !c.isAscii then .error .notUtf8 else pure (⟨c, 0⟩, rest)
    | _ => .error .badEscape
  else
    let afterDash := advance f rest
    if afterDash.isEmpty then .error .unclosedClass
    else do
      let (second, rest2) ← classItem f afterDash
      match first, second with
      | .literal a _, .literal b _ =>
        if a.toNat ≤ b.toNat then
          if !f.unicode && b.toNat > 0x7F then .error .unicodeDisabled
          else pure (⟨.range a.toNat b.toNat, 0⟩, rest2)
        else .error .badRange
      | _, _ => .error .badRange

/-- Opens a bracket: reads `[`, an optional `^`, leading `-` and a leading `]` as literals. -/
def openBracket (f : Flags) (cs : List Char) : Except Refusal (Bool × List Sized × List Char) := do
  let cs := advance f cs
  if cs.isEmpty then .error .unclosedClass
  let (negated, cs) ← match cs with
    | '^' :: _ =>
      let r := advance f cs
      if r.isEmpty then .error .unclosedClass else pure (true, r)
    | _ => pure (false, cs)
  let rec dashes : Nat → List Sized → List Char → Except Refusal (List Sized × List Char)
    | 0, items, rest => .ok (items, rest)
    | fuel + 1, items, rest =>
      match rest with
      | '-' :: _ =>
        let r := advance f rest
        if r.isEmpty then .error .unclosedClass
        else dashes fuel (⟨.single '-'.toNat, 0⟩ :: items) r
      | _ => .ok (items, rest)
  let (items, cs) ← dashes cs.length [] cs
  match items, cs with
  | [], ']' :: _ =>
    let r := advance f cs
    if r.isEmpty then .error .unclosedClass else pure (negated, [⟨.single ']'.toNat, 0⟩], r)
  | _, _ => pure (negated, items, cs)

/-- Suspends the union read so far as the left side of an operator. -/
def suspendOp (f : Flags) (kind : SetOp) (items : List Sized) (stack : List ClassFrame) :
    List ClassFrame :=
  let (lhs, stack) := closeOp f (unionOf items.reverse) stack
  .op kind lhs :: stack

/-- Reads the rest of a bracketed class. `items` is the union being read, `stack` what is
suspended; every turn reads at least one character, so `fuel` at the length of the rest suffices. -/
def classLoop (f : Flags) : Nat → List Sized → List ClassFrame → List Char → Except Refusal (Sized × List Char)
  | 0, _, _, _ => .error .unclosedClass
  | fuel + 1, items, stack, cs =>
    let cs := blanks f cs
    match cs with
    | [] => .error .unclosedClass
    | '[' :: _ =>
      match asciiClass? f cs with
      | some (item, rest) =>
        if !f.unicode && !item.cls.isAscii then .error .notUtf8
        else classLoop f fuel (item :: items) stack rest
      | none =>
        match openBracket f cs with
        | .error e => .error e
        | .ok (negated, inner, rest) =>
          classLoop f fuel inner (.opened items negated :: stack) rest
    | ']' :: rest =>
      let (set, stack) := closeOp f (unionOf items.reverse) stack
      match stack with
      | .opened before negated :: outer =>
        let bracket : Sized := ⟨foldNegate f negated set.cls, set.height + 1⟩
        if !f.unicode && !bracket.cls.isAscii then .error .notUtf8
        else if outer.isEmpty then .ok (bracket, rest)
        else classLoop f fuel (bracket :: before) outer rest
      | _ => .error .unclosedClass
    | '&' :: '&' :: rest => classLoop f fuel [] (suspendOp f .inter items stack) rest
    | '-' :: '-' :: rest => classLoop f fuel [] (suspendOp f .diff items stack) rest
    | '~' :: '~' :: rest => classLoop f fuel [] (suspendOp f .symm items stack) rest
    | _ =>
      match classRange f cs with
      | .error e => .error e
      | .ok (item, rest) => classLoop f fuel (item :: items) stack rest

/-- Reads a bracketed class starting at `[`. -/
def parseClass (f : Flags) (cs : List Char) : Except Refusal (Sized × List Char) := do
  let (negated, items, rest) ← openBracket f cs
  classLoop f (rest.length + 1) items [.opened [] negated] rest

/-! ## Groups, alternation and repetition -/

/-- One item of a concatenation: its tree, the height of its syntax tree, and whether it only sets
flags (such an item cannot be repeated). -/
structure Item where
  tree : Tree
  height : Nat
  flagsOnly : Bool := false

/-- The group being read: the flags to restore when it closes, its capture number if it captures,
its finished branches and the items of its current branch, the latest first. -/
structure Frame where
  saved : Flags
  capture : Option Nat := none
  branches : List (List Item) := []
  items : List Item := []

/-- A concatenation of items, with its height. -/
def concatOf (items : List Item) : Tree × Nat :=
  let height := match items with
    | [] => 0
    | [one] => one.height
    | _ => 1 + items.foldl (fun acc i => max acc i.height) 0
  (Tree.concat ((items.filter (!·.flagsOnly)).map (·.tree)), height)

/-- The alternation of a group's branches, with its height. -/
def groupBody (fr : Frame) : Tree × Nat :=
  let branches := (fr.items :: fr.branches).reverse.map fun b => concatOf b.reverse
  let height := match branches with
    | [one] => one.2
    | _ => 1 + branches.foldl (fun acc b => max acc b.2) 0
  (Tree.alternation (branches.map (·.1)), height)

/-- The tree of a primitive under the flags in force. -/
def primitiveTree (f : Flags) : Primitive → Except Refusal Tree
  | .literal c octet =>
    if !f.unicode && octet && c.toNat > 0x7F then .error .notUtf8
    else .ok (Tree.ofClass (foldNegate f false (.single c.toNat)) !f.unicode)
  | .cls c => if !f.unicode && !c.isAscii then .error .notUtf8 else .ok (Tree.ofClass c !f.unicode)
  | .look l => .ok (.look l)
  | .dot =>
    if !f.unicode then .error .notUtf8
    else if f.dotAll then .ok (Tree.ofClass (.range 0 CharClass.maxCode) false)
    else if f.crlf then .ok (Tree.ofClass (CharClass.complement (.ofChars ['\n', '\r'])) false)
    else .ok (Tree.ofClass (CharClass.complement (.single '\n'.toNat)) false)

/-- Whether a character may appear in a group name: the first one is a letter or `_`, the others
letters, numbers, `_`, `.`, `[` or `]` (letters and numbers of `Unicode.Naming`). -/
def isNameChar (first : Bool) (c : Char) : Bool :=
  if first then c = '_' || Unicode.letters.contains c.toNat
  else c = '_' || c = '.' || c = '[' || c = ']' || Unicode.lettersAndNumbers.contains c.toNat

/-- Reads a group name up to `>`. -/
def groupName (cs : List Char) : Except Refusal (String × List Char) :=
  match cs.span (· ≠ '>') with
  | (_, []) => .error .unexpectedEnd
  | ([], _) => .error .badGroupName
  | (name, _ :: rest) =>
    match name with
    | first :: more =>
      if isNameChar true first && more.all (isNameChar false) then .ok (String.ofList name, rest)
      else .error .badGroupName
    | [] => .error .badGroupName

/-- Reads the flags of `(?…)` up to `:` or `)`, returning the new flags, whether any flag was
given, the closing character and the text after it. -/
def parseFlags (f : Flags) : Nat → Flags → List Char → Bool → Option Bool → Bool →
    Except Refusal (Flags × Bool × Char × List Char)
  | 0, _, _, _, _, _ => .error .unexpectedEnd
  | fuel + 1, seen, cs, negating, lastWasNeg, any =>
    match cs with
    | [] => .error .unexpectedEnd
    | c :: rest =>
      if c = ':' || c = ')' then
        if lastWasNeg = some true then .error .badFlags else .ok (f, any, c, rest)
      else if rest.isEmpty then .error .unexpectedEnd
      else if c = '-' then
        if negating then .error .badFlags
        else parseFlags f fuel seen rest true (some true) any
      else
        let v := !negating
        let set (g : Flags) : Option Flags := match c with
          | 'i' => some { g with caseless := v }
          | 'm' => some { g with multiLine := v }
          | 's' => some { g with dotAll := v }
          | 'U' => some { g with swapGreed := v }
          | 'u' => some { g with unicode := v }
          | 'R' => some { g with crlf := v }
          | 'x' => some { g with verbose := v }
          | _ => none
        let mark := match c with
          | 'i' => { seen with caseless := true }
          | 'm' => { seen with multiLine := true }
          | 's' => { seen with dotAll := true }
          | 'U' => { seen with swapGreed := true }
          | 'u' => { seen with unicode := false }
          | 'R' => { seen with crlf := true }
          | _ => { seen with verbose := true }
        let already := match c with
          | 'i' => seen.caseless
          | 'm' => seen.multiLine
          | 's' => seen.dotAll
          | 'U' => seen.swapGreed
          | 'u' => !seen.unicode
          | 'R' => seen.crlf
          | _ => seen.verbose
        match set f with
        | none => .error .badFlags
        | some f' =>
          if already then .error .badFlags
          else (parseFlags f' fuel mark rest negating (some false) true)

/-- Reads the decimal of a counted repetition, blanks around it allowed. -/
def decimal (f : Flags) (cs : List Char) : Except Refusal (Nat × List Char) :=
  let cs := cs.dropWhile isBlank
  let rec digits : Nat → List Char → List Char → List Char × List Char
    | 0, acc, rest => (acc.reverse, rest)
    | fuel + 1, acc, rest =>
      match rest with
      | d :: _ => if d.isDigit then digits fuel (d :: acc) (advance f rest) else (acc.reverse, rest)
      | [] => (acc.reverse, rest)
  let (ds, rest) := digits cs.length [] cs
  let rest := rest.dropWhile isBlank
  if ds.isEmpty then .error .badRepetitionCount
  else
    let v := Decimal.digitsValue ds
    if v < Nat.pow 2 32 then .ok (v, rest) else .error .badRepetitionCount

/-- Reads the count of `{n}`, `{n,}` or `{n,m}` after `{`, and whether a `?` makes it lazy. -/
def countedBounds (f : Flags) (cs : List Char) :
    Except Refusal ((Nat × Option Nat) × Bool × List Char) := do
  let cs := advance f cs
  if cs.isEmpty then .error .unexpectedEnd
  let (lo, rest) ← decimal f cs
  let (hi, rest) ← match rest with
    | ',' :: _ =>
      let r := advance f rest
      match r with
      | [] => .error .unexpectedEnd
      | '}' :: _ => pure (none, r)
      | _ => do let (m, r) ← decimal f r; pure (some m, r)
    | _ => pure (some lo, rest)
  match rest with
  | '}' :: _ =>
    let rest := advance f rest
    let (lazy, rest) := match rest with
      | '?' :: _ => (true, advance f rest)
      | _ => (false, rest)
    match hi with
    | some m => if lo ≤ m then pure ((lo, some m), lazy, rest) else .error .badRepetitionCount
    | none => pure ((lo, none), lazy, rest)
  | _ => .error .unexpectedEnd

/-- Replaces the last item of the current branch by its repetition. -/
def repeatLast (fr : Frame) (min : Nat) (max : Option Nat) (greedy : Bool) : Except Refusal Frame :=
  match fr.items with
  | last :: before =>
    if last.flagsOnly then .error .repetitionMissing
    else .ok { fr with items :=
      ⟨Tree.repetition last.tree min max greedy, last.height + 1, false⟩ :: before }
  | [] => .error .repetitionMissing

/-- The reading position of the main loop: the flags in force, the group being read, the groups
around it (innermost first), the capture names seen so far and the number of capture groups
opened. -/
structure Reader where
  flags : Flags
  frame : Frame
  outer : List Frame := []
  names : List String := []
  captures : Nat := 0

/-- Adds an item to the current branch. -/
def Reader.push (r : Reader) (item : Item) : Reader :=
  { r with frame := { r.frame with items := item :: r.frame.items } }

/-- Opens a group whose inner flags are `inner`. -/
def Reader.openGroup (r : Reader) (inner : Flags) : Reader :=
  { r with flags := inner, frame := { saved := r.flags }, outer := r.frame :: r.outer }

/-- Opens a capture group, numbered after those opened before it. -/
def Reader.openCapture (r : Reader) : Reader :=
  { r with flags := r.flags, frame := { saved := r.flags, capture := some (r.captures + 1) },
           outer := r.frame :: r.outer, captures := r.captures + 1 }

/-- Reads `(` and what decides the kind of group. -/
def openParen (r : Reader) (cs : List Char) : Except Refusal (Reader × List Char) :=
  let f := r.flags
  let cs := blanks f (cs.drop 1)
  let named (rest : List Char) : Except Refusal (Reader × List Char) := do
    let (name, rest) ← groupName rest
    if r.names.contains name then .error .duplicateGroupName
    else pure ({ r.openCapture with names := name :: r.names }, rest)
  match cs with
  | '?' :: '=' :: _ | '?' :: '!' :: _ | '?' :: '<' :: '=' :: _ | '?' :: '<' :: '!' :: _ =>
    .error .lookAround
  | '?' :: 'P' :: '<' :: rest => named rest
  | '?' :: '<' :: rest => named rest
  | '?' :: rest => do
    if rest.isEmpty then .error .unclosedGroup
    let (g, any, close, after) ← parseFlags f (rest.length + 1) {} rest false none false
    if close = ')' then
      if !any then .error .repetitionMissing
      else pure ({ r.push ⟨.empty, 0, true⟩ with flags := g }, after)
    else pure (r.openGroup g, after)
  | _ => pure (r.openCapture, cs)

/-- Closes the current group at `)`. -/
def closeParen (r : Reader) : Except Refusal Reader :=
  match r.outer with
  | [] => .error .unopenedGroup
  | parent :: rest =>
    let (body, height) := groupBody r.frame
    let body := match r.frame.capture with
      | some i => .capture i body
      | none => body
    let item : Item := ⟨body, height + 1, false⟩
    .ok { r with flags := r.frame.saved, frame := { parent with items := item :: parent.items },
                 outer := rest }

/-- The main loop: every turn reads at least one character, so `fuel` at the length of the pattern
suffices. -/
def parseLoop : Nat → Reader → List Char → Except Refusal (Tree × Nat)
  | 0, _, _ => .error .unexpectedEnd
  | fuel + 1, r, cs =>
    let f := r.flags
    match blanks f cs with
    | [] =>
      if r.outer.isEmpty then .ok (groupBody r.frame) else .error .unclosedGroup
    | c :: rest =>
      let cs := c :: rest
      match c with
      | '(' =>
        match openParen r cs with
        | .error e => .error e
        | .ok (r', rest) => parseLoop fuel r' rest
      | ')' =>
        match closeParen r with
        | .error e => .error e
        | .ok r' => parseLoop fuel r' rest
      | '|' =>
        let fr := r.frame
        parseLoop fuel { r with frame := { fr with branches := fr.items :: fr.branches, items := [] } } rest
      | '[' =>
        match parseClass f cs with
        | .error e => .error e
        | .ok (cls, rest) => parseLoop fuel (r.push ⟨Tree.ofClass cls.cls !f.unicode, cls.height, false⟩) rest
      | '?' | '*' | '+' =>
        let (min, max) : Nat × Option Nat :=
          if c = '?' then (0, some 1) else if c = '*' then (0, none) else (1, none)
        let (lazy, rest) := match rest with
          | '?' :: more => (true, more)
          | _ => (false, rest)
        match repeatLast r.frame min max (lazy == f.swapGreed) with
        | .error e => .error e
        | .ok fr => parseLoop fuel { r with frame := fr } rest
      | '{' =>
        match countedBounds f cs with
        | .error e => .error e
        | .ok ((min, max), lazy, rest) =>
          match repeatLast r.frame min max (lazy == f.swapGreed) with
          | .error e => .error e
          | .ok fr => parseLoop fuel { r with frame := fr } rest
      | _ =>
        let prim : Except Refusal (Primitive × List Char) := match c with
          | '\\' => parseEscape f rest
          | '.' => .ok (.dot, rest)
          | '^' =>
            .ok (.look (if !f.multiLine then .textStart else if f.crlf then .crlfStart else .lineStart), rest)
          | '$' =>
            .ok (.look (if !f.multiLine then .textEnd else if f.crlf then .crlfEnd else .lineEnd), rest)
          | _ => .ok (.literal c false, rest)
        match prim with
        | .error e => .error e
        | .ok (p, rest) =>
          match primitiveTree f p with
          | .error e => .error e
          | .ok t => parseLoop fuel (r.push ⟨t, 0, false⟩) rest

/-- The deepest nesting of groups, repetitions, alternations, concatenations and classes a
pattern may have. -/
def nestLimit : Nat := 250

/-- Reads a whole pattern text. -/
def parse (text : String) : Except Refusal Tree := do
  let cs := text.toList
  let (t, height) ← parseLoop (cs.length + 1) { flags := {}, frame := { saved := {} } } cs
  if height > nestLimit then .error .nestedTooDeep
  else if !Size.fits t then .error .tooLarge
  else pure t

end FormIntegrity.Pattern
