import Covenant.Text.Unicode
/-!
# Quoting text for messages

Messages that name a piece of text show it in double quotes with the characters that would
be invisible or ambiguous escaped: the quote and the backslash, tab, carriage return, line
feed and NUL by their short escapes, and characters that do not print on their own (controls,
format characters, separators, unassigned code points, combining marks) by their code point
in hexadecimal (`\u{200b}`). Every other character stands for itself.
-/

namespace Covenant.Text

/-- Lowercase hexadecimal digits of a number, without leading zeros. -/
def hexDigits (n : Nat) : String :=
  String.ofList (Nat.toDigits 16 n)

/-- Characters that do not print on their own: controls, format characters, separators other
than the space, surrogates, private use, unassigned code points, and the characters that
extend the grapheme before them. -/
def isHiddenChar (c : Char) : Bool :=
  Unicode.inRanges Unicode.hiddenRanges c.toNat

/-- One character of quoted text. -/
def quoteChar (c : Char) : String :=
  if c = '\x00' then "\\0"
  else if c = '\t' then "\\t"
  else if c = '\r' then "\\r"
  else if c = '\n' then "\\n"
  else if c = '\\' then "\\\\"
  else if c = '"' then "\\\""
  else if isHiddenChar c then "\\u\x7b" ++ hexDigits c.toNat ++ "\x7d"
  else c.toString

/-- Text in double quotes with hidden and special characters escaped. -/
def quoted (s : String) : String :=
  "\"" ++ String.join (s.toList.map quoteChar) ++ "\""

end Covenant.Text
