import FormIntegrity.Pattern.CharClass
import FormIntegrity.Unicode.Property

/-!
# Regular expressions

The meaning of a pattern once its syntax is read: characters from classes, zero-width assertions
about the characters around a position, concatenation, alternation and counted repetition. Groups,
capture names, flags and greediness are gone by then, since they do not change which texts match.

An assertion looks at the character before the position and the character after it, either of which
is absent at an end of the text.
-/

namespace FormIntegrity.Pattern

/-- A zero-width assertion. The word assertions carry whether words are ASCII-only. -/
inductive Look where
  /-- The start of the text. -/
  | textStart
  /-- The end of the text. -/
  | textEnd
  /-- The start of a line: the text start or after `\n`. -/
  | lineStart
  /-- The end of a line: the text end or before `\n`. -/
  | lineEnd
  /-- The start of a line where `\r`, `\n` and `\r\n` end lines. -/
  | crlfStart
  /-- The end of a line where `\r`, `\n` and `\r\n` end lines. -/
  | crlfEnd
  /-- A word character on exactly one side. -/
  | wordBoundary (ascii : Bool)
  /-- Word characters on both sides or on neither. -/
  | notWordBoundary (ascii : Bool)
  /-- A word character after and none before. -/
  | wordStart (ascii : Bool)
  /-- A word character before and none after. -/
  | wordEnd (ascii : Bool)
  /-- No word character before. -/
  | wordStartHalf (ascii : Bool)
  /-- No word character after. -/
  | wordEndHalf (ascii : Bool)
  deriving DecidableEq, Repr, Inhabited

namespace Look

/-- Whether a character is a word character, in the ASCII or the Unicode sense. -/
def isWord (ascii : Bool) : Option Char → Bool
  | none => false
  | some c =>
    if ascii then c.isAlphanum || c = '_' else Unicode.word.contains c.toNat

/-- Whether an assertion holds between `prev` and `next`. -/
def holds (l : Look) (prev next : Option Char) : Bool :=
  match l with
  | .textStart => prev.isNone
  | .textEnd => next.isNone
  | .lineStart => prev.isNone || prev == some '\n'
  | .lineEnd => next.isNone || next == some '\n'
  | .crlfStart => prev.isNone || prev == some '\n' || (prev == some '\r' && next != some '\n')
  | .crlfEnd => next.isNone || next == some '\r' || (next == some '\n' && prev != some '\r')
  | .wordBoundary a => isWord a prev != isWord a next
  | .notWordBoundary a => isWord a prev == isWord a next
  | .wordStart a => !isWord a prev && isWord a next
  | .wordEnd a => isWord a prev && !isWord a next
  | .wordStartHalf a => !isWord a prev
  | .wordEndHalf a => !isWord a next

end Look

/-- A regular expression over characters. -/
inductive Regex where
  /-- The empty text. -/
  | empty
  /-- One character of a class. -/
  | chars (cls : CharClass)
  /-- The empty text where an assertion holds. -/
  | look (l : Look)
  /-- One text after another. -/
  | cat (a b : Regex)
  /-- Either of two. -/
  | alt (a b : Regex)
  /-- Between `min` and `max` texts of the inner expression in a row; no upper bound without
  `max`. -/
  | rep (r : Regex) (min : Nat) (max : Option Nat)
  deriving Inhabited

namespace Regex

/-- The concatenation of a list of expressions. -/
def concat : List Regex → Regex
  | [] => .empty
  | [r] => r
  | r :: rs => .cat r (concat rs)

/-- The alternation of a list of expressions; the empty list matches the empty text. -/
def alternation : List Regex → Regex
  | [] => .empty
  | [r] => r
  | r :: rs => .alt r (alternation rs)

end Regex

end FormIntegrity.Pattern
