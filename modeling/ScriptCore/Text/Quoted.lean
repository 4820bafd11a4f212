import ScriptCore.Text.GraphemeExtend

set_option autoImplicit false

/-! # Quoted text

`Text.quote s` writes `s` between double quotes so that every character can be read off the
result. The NUL, tab, carriage return and line feed are written `\0`, `\t`, `\r` and `\n`; the
backslash and the double quote get a backslash before them; the single quote stays as it is.
A grapheme extender, which would otherwise combine with what is written before it, and every
character that is not printable are written as `\u` followed by the hexadecimal code point,
in lower case and without leading zeros, between braces. All other characters stand for
themselves. -/

namespace ScriptCore

namespace Text

/-- The lower-case hexadecimal digits of a number. -/
def hexText (n : Nat) : String := String.ofList (Nat.toDigits 16 n)

/-- The escape of a character by its code point. -/
def unicodeEscape (c : Char) : String := "\\u\x7b" ++ hexText c.toNat ++ "\x7d"

/-- How one character is written inside quotes. -/
def quoteChar (c : Char) : String :=
  if c = '\x00' then "\\0"
  else if c = '\t' then "\\t"
  else if c = '\r' then "\\r"
  else if c = '\n' then "\\n"
  else if c = '\\' then "\\\\"
  else if c = '"' then "\\\""
  else if isGraphemeExtend c || !isPrintable c then unicodeEscape c
  else String.singleton c

/-- A text between double quotes, with its characters escaped as `quoteChar` says. -/
def quote (s : String) : String :=
  "\"" ++ String.join (s.toList.map quoteChar) ++ "\""

end Text

end ScriptCore
