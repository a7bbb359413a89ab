import FormIntegrity.Unicode.Printable

/-!
# Quoted text

The quoted form of a string used in diagnostic text: the string between double quotes, with

* `\0`, `\t`, `\r`, `\n`, `\\` and `\"` for those characters;
* `\u{h}`, the code point in lower-case hexadecimal without leading zeros, for a character that
  shows nothing or attaches to the one before it (`Unicode.unprintable`);
* every other character as it is.

A list of strings is written `["a", "b"]`: quoted items separated by a comma and a space.
-/

namespace FormIntegrity.Quoted

/-- Whether a character is written by its code point. -/
def byCodePoint (c : Char) : Bool :=
  Unicode.unprintable.contains c.toNat

/-- The quoted form of one character. -/
def escapeChar (c : Char) : List Char :=
  if c.toNat = 0 then ['\\', '0']
  else if c = '\t' then ['\\', 't']
  else if c = '\r' then ['\\', 'r']
  else if c = '\n' then ['\\', 'n']
  else if c = '\\' then ['\\', '\\']
  else if c = '"' then ['\\', '"']
  else if byCodePoint c then ['\\', 'u', '\x7b'] ++ Nat.toDigits 16 c.toNat ++ ['\x7d']
  else [c]

/-- A string between double quotes, escaped. -/
def quote (s : String) : String :=
  String.ofList ('"' :: s.toList.flatMap escapeChar ++ ['"'])

/-- A list of strings, quoted, between brackets. -/
def quoteList (items : List String) : String :=
  "[" ++ ", ".intercalate (items.map quote) ++ "]"

end FormIntegrity.Quoted
