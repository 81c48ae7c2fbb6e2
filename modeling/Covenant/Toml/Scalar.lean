import Covenant.Toml.Token
import Covenant.Toml.Datetime
/-!
# Decoding TOML scalars, strings, keys and layout

A token's text is decoded here into what it stands for, or into the first complaint about
it, pointing at the bytes concerned.

* A bare value is told apart by its first character: a sign or a digit starts a number or a
  date-time, `.` a malformed float, `t`/`f` a boolean, `i`/`n` the floats `inf` and `nan`;
  anything else is text that should have been quoted. Numbers are checked for their shape
  (no leading zero, `_` only between digits, lowercase unsigned radix prefixes, digits of
  the radix, a mantissa, fraction and exponent that each have digits) but not for their
  size: integers keep their digits and floats their text, and the reader that wants them
  decides what fits.
* Strings lose their quotes and escapes. A string with no closing quote is reported at its
  end before anything inside it; then characters that may not stand in it as written, and
  escapes that are unknown, cut short, or name no character, are reported in order.
* Keys are bare (letters, digits, `-`, `_`, and never empty) or single-line strings.
* Comments hold printable characters and tabs only, and a carriage return must be followed
  by a line feed.
-/

namespace Covenant.Toml

/-- A piece of the source text: its characters and the byte offset where it starts. -/
structure Piece where
  text : List Char
  start : Nat

/-- The piece a token spans. -/
def Token.piece (t : Token) : Piece := ⟨t.text, t.start⟩

/-- The byte offset of the character at index `i` of a piece. -/
def Piece.offset (p : Piece) (i : Nat) : Nat := p.start + byteCount (p.text.take i)

/-- The bytes of the characters from index `i` up to index `j` of a piece. -/
def Piece.span (p : Piece) (i j : Nat) : Span := ⟨p.offset i, p.offset j⟩

/-- The empty range before the character at index `i`. -/
def Piece.point (p : Piece) (i : Nat) : Span := Span.at (p.offset i)

/-- All the bytes of a piece. -/
def Piece.whole (p : Piece) : Span := Span.ofChars p.start p.text

/-- A decoded scalar. Strings are unescaped; integers keep their digits without underscores
(with the sign, in decimal) and their radix; floats keep their text without underscores;
date-times keep their text. -/
inductive Scalar where
  | string (text : String)
  | integer (digits : String) (radix : Nat)
  | float (text : String)
  | boolean (value : Bool)
  | datetime (text : String)

/-! ## Numbers -/

/-- An unsigned radix of integers: its base, its name, its prefix and its digits. -/
structure Radix where
  base : Nat
  name : String
  prefixText : String
  isDigit : Char → Bool

/-- Hexadecimal integers, `0x`. -/
def Radix.hex : Radix :=
  ⟨16, "hexadecimal", "0x", fun c => c.isDigit || ('a' ≤ c && c ≤ 'f') || ('A' ≤ c && c ≤ 'F')⟩

/-- Octal integers, `0o`. -/
def Radix.oct : Radix := ⟨8, "octal", "0o", fun c => '0' ≤ c && c ≤ '7'⟩

/-- Binary integers, `0b`. -/
def Radix.bin : Radix := ⟨2, "binary", "0b", fun c => c = '0' || c = '1'⟩

/-- The radix a prefix letter names, and whether the letter is uppercase. -/
def radixOfLetter : Char → Option (Radix × Bool)
  | 'x' => some (.hex, false)
  | 'X' => some (.hex, true)
  | 'o' => some (.oct, false)
  | 'O' => some (.oct, true)
  | 'b' => some (.bin, false)
  | 'B' => some (.bin, true)
  | _ => none

/-- The index of the first underscore of `cs` that is not between two digits. -/
def strayUnderscore (isDigit : Char → Bool) (cs : List Char) : Option Nat :=
  go false cs 0
where
  go (afterDigit : Bool) : List Char → Nat → Option Nat
    | [], _ => none
    | c :: r, i =>
      if c = '_' then
        if afterDigit && (r.head?.map isDigit).getD false then go false r (i + 1) else some i
      else go (isDigit c) r (i + 1)

/-- The complaint about an underscore at index `i`. -/
def strayUnderscoreAt (p : Piece) (i : Nat) : TomlError :=
  .expecting "`_` may only go between digits" [] (p.span i (i + 1))

/-- The complaint about a bare value that is none of the bare kinds. -/
def notQuoted (p : Piece) : TomlError :=
  .expecting "string values must be quoted" ["literal string"] p.whole

/-- Checks a run of decimal digits (with underscores) from index `i`, which must not be
empty; gives the index after it. `what` names the part of the number. -/
def decimalRun (p : Piece) (i : Nat) (what : String) : Except TomlError Nat :=
  let run := (p.text.drop i).takeWhile fun c => c.isDigit || c = '_'
  if run.isEmpty then .error (.expecting what ["digits"] (p.point i))
  else match strayUnderscore Char.isDigit run with
    | some j => .error (strayUnderscoreAt p (i + j))
    | none => .ok (i + run.length)

/-- Checks a float from index `i`: a mantissa, an optional fraction after `.`, an optional
exponent after `e` or `E` with an optional sign, and nothing else. -/
def checkFloat (p : Piece) (i : Nat) : Except TomlError Unit := do
  let j ← decimalRun p i "invalid mantissa"
  let j ← match p.text.drop j with
    | '.' :: _ => decimalRun p (j + 1) "invalid fraction"
    | _ => pure j
  let j ← match p.text.drop j with
    | 'e' :: r | 'E' :: r =>
      let k := match r with
        | '+' :: _ | '-' :: _ => j + 2
        | _ => j + 1
      decimalRun p k "invalid exponent"
    | _ => pure j
  if j < p.text.length then throw ⟨"invalid float", p.span j p.text.length⟩

/-- Checks the digits of a radix from index `i` to the end: each is a digit of the radix,
or an underscore between two of them. -/
def checkRadixDigits (p : Piece) (i : Nat) (r : Radix) : Except TomlError Unit :=
  go false (p.text.drop i) i
where
  go (afterDigit : Bool) : List Char → Nat → Except TomlError Unit
    | [], _ => .ok ()
    | c :: rest, k =>
      if c = '_' then
        if afterDigit && (rest.head?.map r.isDigit).getD false then go false rest (k + 1)
        else .error (strayUnderscoreAt p k)
      else if r.isDigit c then go true rest (k + 1)
      else .error ⟨"invalid " ++ r.name ++ " number", p.span k (k + 1)⟩

/-- Characters without underscores. -/
def withoutUnderscores (cs : List Char) : String := String.ofList (cs.filter (· ≠ '_'))

/-- A decimal integer: the whole piece, sign included. -/
def decimalOf (p : Piece) : Scalar := .integer (withoutUnderscores p.text) 10

/-- A float: the whole piece. -/
def floatOf (p : Piece) : Scalar := .float (withoutUnderscores p.text)

/-- A date-time, if the whole piece reads as one. -/
def datetimeOf (p : Piece) : Except TomlError Scalar :=
  match checkStamp p.text with
  | .ok () => .ok (.datetime (String.ofList p.text))
  | .error message => .error ⟨message, p.whole⟩

/-- A value whose part from index `i` starts with a digit from 1 to 9 or an underscore: a
date-time, a float or a decimal integer. -/
def digitsFirst (p : Piece) (i : Nat) : Except TomlError Scalar :=
  let value := p.text.drop i
  let rest := value.dropWhile Char.isDigit
  match rest with
  | [] => .ok (decimalOf p)
  | c :: _ =>
    if c = '-' || c = ':' then datetimeOf p
    else if rest.contains ' ' then .error (notQuoted p)
    else if rest.any (fun c => c = '.' || c = 'e' || c = 'E') then do
      checkFloat p i
      pure (floatOf p)
    else if c = '_' then
      let run := value.takeWhile fun c => c.isDigit || c = '_'
      match strayUnderscore Char.isDigit run with
      | some j => .error (strayUnderscoreAt p (i + j))
      | none => if run.length = value.length then .ok (decimalOf p) else .error (notQuoted p)
    else .error (notQuoted p)

/-- A value whose part from index `i` starts with `0`; `signed` says a sign stands before. -/
def zeroFirst (p : Piece) (i : Nat) (signed : Bool) : Except TomlError Scalar :=
  let leadingZero : TomlError := .expecting "unexpected leading zero" [] (p.span i (i + 1))
  match p.text.drop i with
  | ['0'] => .ok (decimalOf p)
  | '0' :: c :: more =>
    match radixOfLetter c with
    | some (r, upper) => do
      if signed then throw (.expecting "integers with a radix cannot be signed" [] (p.span 0 1))
      if upper then
        throw (.expecting "radix must be lowercase" [ticked r.prefixText] (p.span i (i + 2)))
      checkRadixDigits p (i + 2) r
      pure (.integer (withoutUnderscores more) r.base)
    | none =>
      if c = 'e' || c = 'E' || c = '.' then do
        checkFloat p i
        pure (floatOf p)
      else if c = '-' || c = ':' then datetimeOf p
      else if c.isDigit then
        match (c :: more).dropWhile Char.isDigit with
        | d :: _ => if d = '-' || d = ':' then datetimeOf p else .error leadingZero
        | [] => .error leadingZero
      else if c = '_' then
        let run := (p.text.drop i).takeWhile fun c => c.isDigit || c = '_'
        match strayUnderscore Char.isDigit run with
        | some j => .error (strayUnderscoreAt p (i + j))
        | none => .error leadingZero
      else .error (notQuoted p)
  | _ => .error (notQuoted p)

/-- A word that must be spelled exactly: `true`, `false`, `inf` or `nan`. -/
def spelled (p : Piece) (word : String) (what : String) (result : Scalar) :
    Except TomlError Scalar :=
  if p.text = word.toList then .ok result
  else if p.text.contains ' ' then .error (notQuoted p)
  else .error (.expecting what [ticked word] p.whole)

/-- A value after a leading sign. -/
def afterSign (p : Piece) : Except TomlError Scalar :=
  let value := p.text.drop 1
  let special (word : String) : Except TomlError Scalar :=
    if value = word.toList then .ok (.float (String.ofList p.text))
    else .error (.expecting "invalid float" [ticked word] (p.span 1 p.text.length))
  match value with
  | [] => .error (notQuoted p)
  | c :: _ =>
    if c = '+' || c = '-' then .error (.expecting "redundant numeric sign" [] (p.span 1 2))
    else if c = '0' then zeroFirst p 1 true
    else if c.isDigit || c = '_' then digitsFirst p 1
    else if c = '.' then do
      checkFloat p 0
      pure (floatOf p)
    else if c = 'i' || c = 'I' then special "inf"
    else if c = 'n' || c = 'N' then special "nan"
    else .error (notQuoted p)

/-- Decodes a bare value. -/
def decodeBare (p : Piece) : Except TomlError Scalar :=
  match p.text with
  | [] => .error (notQuoted p)
  | c :: _ =>
    if c = '+' || c = '-' then afterSign p
    else if c = '0' then zeroFirst p 0 false
    else if c.isDigit || c = '_' then digitsFirst p 0
    else if c = '.' then do
      checkFloat p 0
      pure (floatOf p)
    else if c = 't' || c = 'T' then spelled p "true" "invalid boolean" (.boolean true)
    else if c = 'f' || c = 'F' then spelled p "false" "invalid boolean" (.boolean false)
    else if c = 'i' || c = 'I' then spelled p "inf" "invalid float" (.float "inf")
    else if c = 'n' || c = 'N' then spelled p "nan" "invalid float" (.float "nan")
    else .error (notQuoted p)

/-! ## Strings -/

/-- Whether a character may stand in a string as written, quotes and backslashes apart:
a tab, a printable ASCII character, or any character beyond ASCII. -/
def isVisible (c : Char) : Bool :=
  c = '\t' || (0x20 ≤ c.toNat && c.toNat ≤ 0x7E) || c.toNat ≥ 0x80

/-- The escapes a basic string knows, for complaints. -/
def escapeNames : List String := ["b", "e", "f", "n", "r", "t", "\\", "\"", "x", "u", "U"].map ticked

/-- The value of an ASCII hexadecimal digit. -/
def hexDigitValue (c : Char) : Nat :=
  if c.isDigit then c.toNat - 48 else if 'a' ≤ c && c ≤ 'f' then c.toNat - 87 else c.toNat - 55

/-- Reads the `n` hexadecimal digits of an escape, starting at index `k`; gives the
character, the rest and the index after them. -/
def hexEscape (p : Piece) (cs : List Char) (k n : Nat) :
    Except TomlError (Char × List Char × Nat) :=
  let ds := (cs.takeWhile Radix.hex.isDigit).take n
  if ds.length ≠ n then
    .error (.expecting "too few unicode value digits" ["unicode hexadecimal value"]
      (p.point (k + ds.length)))
  else
    let v := ds.foldl (fun a c => a * 16 + hexDigitValue c) 0
    if v < 0xD800 || (0xDFFF < v && v ≤ 0x10FFFF) then .ok (Char.ofNat v, cs.drop n, k + n)
    else .error (.expecting "invalid value" ["unicode hexadecimal value"] (p.point k))

/-- Reads an escape after its backslash, at index `k`; gives the character, the rest and the
index after them. -/
def escapeAt (p : Piece) (cs : List Char) (k : Nat) : Except TomlError (Char × List Char × Nat) :=
  let simple (c : Char) (r : List Char) : Except TomlError (Char × List Char × Nat) :=
    .ok (c, r, k + 1)
  match cs with
  | 'b' :: r => simple (Char.ofNat 8) r
  | 'e' :: r => simple (Char.ofNat 27) r
  | 'f' :: r => simple (Char.ofNat 12) r
  | 'n' :: r => simple '\n' r
  | 'r' :: r => simple '\r' r
  | 't' :: r => simple '\t' r
  | '"' :: r => simple '"' r
  | '\\' :: r => simple '\\' r
  | 'x' :: r => hexEscape p r (k + 1) 2
  | 'u' :: r => hexEscape p r (k + 1) 4
  | 'U' :: r => hexEscape p r (k + 1) 8
  | _ => .error (.expecting "missing escaped value" escapeNames (p.point k))

/-- How a kind of string is read: its name in complaints, what it expects of a bad
character, whether it knows escapes, and whether it may span lines. -/
structure StringRule where
  name : String
  expected : List String
  escapes : Bool
  multiLine : Bool
  /-- The quote character, which may stand as written only in multi-line strings. -/
  quote : Char

/-- Whether a character may stand as written under a rule. -/
def StringRule.allows (r : StringRule) (c : Char) : Bool :=
  isVisible c && !(r.escapes && c = '\\') && (r.multiLine || c ≠ r.quote)

/-- Whether a backslash ends its line: only blanks stand between it and the line break. -/
def endsItsLine (cs : List Char) : Bool :=
  match cs.dropWhile isBlank with
  | '\n' :: _ | '\r' :: '\n' :: _ => true
  | _ => false

/-- Reads the content of a string under a rule from index `k`; `fuel` bounds the steps. -/
def stringBody (p : Piece) (r : StringRule) : Nat → List Char → Nat → List Char →
    Except TomlError (List Char)
  | 0, _, _, acc => .ok acc.reverse
  | _, [], _, acc => .ok acc.reverse
  | fuel + 1, c :: rest, k, acc =>
    if c = '\\' && r.escapes then
      if r.multiLine && endsItsLine rest then
        let skipped := rest.takeWhile fun c => isBlank c || c = '\n' || c = '\r'
        stringBody p r fuel (rest.drop skipped.length) (k + 1 + skipped.length) acc
      else do
        let (e, more, k') ← escapeAt p rest (k + 1)
        stringBody p r fuel more k' (e :: acc)
    else if r.multiLine && c = '\n' then stringBody p r fuel rest (k + 1) ('\n' :: acc)
    else if r.multiLine && c = '\r' && rest.head? = some '\n' then
      stringBody p r fuel rest.tail (k + 2) ('\n' :: '\r' :: acc)
    else if r.allows c then stringBody p r fuel rest (k + 1) (c :: acc)
    else
      let bad := (c :: rest).takeWhile fun d => !r.allows d && d ≠ '\\' && d ≠ '\n'
      .error (.expecting ("invalid " ++ r.name) r.expected (p.span k (k + bad.length)))

/-- Basic strings: `"…"`. -/
def basicRule : StringRule :=
  ⟨"basic string", ["non-double-quote visible characters", ticked "\\"], true, false, '"'⟩

/-- Literal strings: `'…'`. -/
def literalRule : StringRule :=
  ⟨"literal string", ["non-single-quote visible characters"], false, false, '\''⟩

/-- Multi-line basic strings: `"""…"""`. -/
def multiBasicRule : StringRule :=
  ⟨"multi-line basic string", ["non-double-quote visible characters", ticked "\\"], true, true,
    '"'⟩

/-- Multi-line literal strings: `'''…'''`. -/
def multiLiteralRule : StringRule :=
  ⟨"multi-line literal string", ["non-single-quote visible characters"], false, true, '\''⟩

/-- Decodes a string token under a rule, with `width` quote characters on each side. -/
def decodeString (p : Piece) (r : StringRule) (width : Nat) : Except TomlError String := do
  let body := p.text.drop width
  let closing := List.replicate width r.quote
  if body.length < width || body.drop (body.length - width) ≠ closing then
    throw (.expecting ("invalid " ++ r.name) [ticked (String.singleton r.quote)]
      (p.point p.text.length))
  let content := body.take (body.length - width)
  let (content, k) := if !r.multiLine then (content, width) else
    match content with
    | '\n' :: rest => (rest, width + 1)
    | '\r' :: '\n' :: rest => (rest, width + 2)
    | _ => (content, width)
  let cs ← stringBody p r (content.length + 1) content k []
  pure (String.ofList cs)

/-! ## Keys, values and layout -/

/-- Whether a character may stand in a bare key. -/
def isBareKeyChar (c : Char) : Bool :=
  ('a' ≤ c && c ≤ 'z') || ('A' ≤ c && c ≤ 'Z') || c.isDigit || c = '-' || c = '_'

/-- Decodes one part of a key, given the kind of token it was written as. -/
def decodeKey (kind : TokenKind) (p : Piece) : Except TomlError String :=
  match kind with
  | .basic => decodeString p basicRule 1
  | .literal => decodeString p literalRule 1
  | .multiBasic =>
    .error (.expecting "keys cannot be multi-line basic strings"
      ["basic string", "literal string"] p.whole)
  | .multiLiteral =>
    .error (.expecting "keys cannot be multi-line literal strings"
      ["basic string", "literal string"] p.whole)
  | _ =>
    if p.text.isEmpty then .error (.expecting "unquoted keys cannot be empty" bareKeyExpected p.whole)
    else if p.text.all isBareKeyChar then .ok (String.ofList p.text)
    else .error (.expecting "invalid unquoted key" bareKeyExpected p.whole)

/-- Decodes a scalar value, given the kind of token it was written as. -/
def decodeScalar (kind : TokenKind) (p : Piece) : Except TomlError Scalar :=
  match kind with
  | .basic => Scalar.string <$> decodeString p basicRule 1
  | .literal => Scalar.string <$> decodeString p literalRule 1
  | .multiBasic => Scalar.string <$> decodeString p multiBasicRule 3
  | .multiLiteral => Scalar.string <$> decodeString p multiLiteralRule 3
  | _ => decodeBare p

/-- Checks a comment: after `#`, printable characters and tabs only. -/
def checkComment (t : Token) : Except TomlError Unit :=
  go t.piece t.text 0
where
  go (p : Piece) : List Char → Nat → Except TomlError Unit
    | [], _ => .ok ()
    | c :: rest, k =>
      if isVisible c then go p rest (k + 1)
      else .error (.expecting "invalid comment character" ["printable characters"] (p.span k (k + 1)))

/-- Checks a line break: a carriage return must be followed by a line feed. -/
def checkNewline (t : Token) : Except TomlError Unit :=
  if t.text = ['\r'] then
    .error (.expecting "carriage return must be followed by newline" ["newline"] (Span.at t.stop))
  else .ok ()

end Covenant.Toml
