/-!
# Shell-style unescaping

Quoted text in conditions and templates is unescaped the way a POSIX shell reads a word:
text in single quotes is literal, text in double quotes takes backslash escapes, and the
quote characters themselves are removed. Outside quotes a backslash is an ordinary
character.

The escapes inside double quotes are `\a \b \v \f \n \r \t \e \E \\ \' \" \$ \ ` (backslash
space) and the backtick, and `\u{…}` with one to eight hexadecimal digits naming a Unicode
scalar value. Any other escape, a backslash at the very end, a `\u` not followed by `{`, and
a `\u{…}` that names no character make the whole text fail.
-/

namespace Covenant.Text

/-- The value of a hexadecimal digit. -/
def hexDigitValue? (c : Char) : Option Nat :=
  if c.isDigit then some (c.toNat - 48)
  else if 'a' ≤ c && c ≤ 'f' then some (c.toNat - 87)
  else if 'A' ≤ c && c ≤ 'F' then some (c.toNat - 55)
  else none

/-- The character named by the digits of a `\u{…}` escape: hexadecimal digits, optionally
after one `+`, below `2^32`, naming a Unicode scalar value. -/
def codePoint? (ds : List Char) : Option Char :=
  let ds := match ds with
    | '+' :: r => r
    | r => r
  if ds.isEmpty then none
  else
    (ds.foldlM (fun acc c => (hexDigitValue? c).map (acc * 16 + ·)) 0).bind fun n =>
      if n < 0xD800 || (0xDFFF < n && n < 0x110000) then some (Char.ofNat n) else none

/-- The character of a one-letter escape. -/
def shortEscape? (c : Char) : Option Char :=
  match c with
  | 'a' => some '\x07'
  | 'b' => some '\x08'
  | 'v' => some '\x0b'
  | 'f' => some '\x0c'
  | 'n' => some '\n'
  | 'r' => some '\r'
  | 't' => some '\t'
  | 'e' => some '\x1b'
  | 'E' => some '\x1b'
  | '\\' => some '\\'
  | '\'' => some '\''
  | '"' => some '"'
  | '$' => some '$'
  | ' ' => some ' '
  | c => if c.toNat = 96 then some c else none

/-- Where the reader is: outside quotes, or inside single or double quotes. -/
inductive QuoteMode where
  | outside
  | single
  | double

mutual

/-- Unescapes the rest of a text, the result so far held in reverse. -/
def unescapeFrom : List Char → QuoteMode → List Char → Option (List Char)
  | [], _, acc => some acc.reverse
  | c :: cs, .single, acc =>
    if c = '\'' then unescapeFrom cs .outside acc else unescapeFrom cs .single (c :: acc)
  | '"' :: cs, .double, acc => unescapeFrom cs .outside acc
  | '\\' :: 'u' :: '{' :: cs, .double, acc => unescapeCode cs [] acc
  | '\\' :: c :: cs, .double, acc =>
    match shortEscape? c with
    | some e => unescapeFrom cs .double (e :: acc)
    | none => none
  | ['\\'], .double, _ => none
  | c :: cs, .double, acc => unescapeFrom cs .double (c :: acc)
  | c :: cs, .outside, acc =>
    if c = '\'' then unescapeFrom cs .single acc
    else if c = '"' then unescapeFrom cs .double acc
    else unescapeFrom cs .outside (c :: acc)

/-- Reads the digits of a `\u{…}` escape up to `}` or the end, then goes on. -/
def unescapeCode : List Char → List Char → List Char → Option (List Char)
  | [], ds, acc => (codePoint? ds.reverse).map fun ch => (ch :: acc).reverse
  | '}' :: cs, ds, acc => (codePoint? ds.reverse).bind fun ch => unescapeFrom cs .double (ch :: acc)
  | c :: cs, ds, acc => unescapeCode cs (c :: ds) acc

end

/-- Unescapes shell-quoted text, or `none` if an escape is invalid. -/
def unescape (s : String) : Option String :=
  (unescapeFrom s.toList .outside []).map String.ofList

end Covenant.Text
