import Covenant.Toml.Basic
/-!
# TOML tokens

The first pass over a settings document cuts it into tokens without judging them: every
character of the text belongs to exactly one token, and a token's text is kept as written so
that later passes can both decode it and point into it.

* Punctuation is one character each: `.`, `=`, `,`, brackets and braces.
* A run of spaces and tabs is one blank token; a comment runs from `#` to the end of its
  line; a line break is `\n`, `\r\n`, or a lone `\r` (which a later pass refuses).
* A string token runs from its opening quote to its closing quote, or, if it has none, to
  the end of its line (single-line strings) or of the text (multi-line strings). Inside a
  basic string a backslash takes a following backslash or quote with it. A multi-line
  string's closing quotes take up to two more quotes with them, which belong to its text.
* Anything else is a bare word, which runs up to the next punctuation, blank, comment or
  line break. Numbers, booleans, dates and bare keys are all bare words at this stage.

A byte order mark at the very start of the text is passed over; offsets still count it.
-/

namespace Covenant.Toml

/-- The kinds of token. -/
inductive TokenKind where
  | dot
  | equals
  | comma
  | openBracket
  | closeBracket
  | openBrace
  | closeBrace
  | blank
  | comment
  | newline
  | literal
  | basic
  | multiLiteral
  | multiBasic
  | bare
  | eof
deriving Repr, DecidableEq

/-- A token: its kind, its text as written, and the byte offset where it starts. -/
structure Token where
  kind : TokenKind
  text : List Char
  start : Nat
deriving Repr

/-- The bytes a token takes. -/
def Token.span (t : Token) : Span := Span.ofChars t.start t.text

/-- The offset right after a token. -/
def Token.stop (t : Token) : Nat := t.span.stop

/-- Whether a token is a string of any of the four kinds. -/
def TokenKind.isString : TokenKind → Bool
  | .literal | .basic | .multiLiteral | .multiBasic => true
  | _ => false

/-- Whether a token may start a key: a bare word or a string. -/
def TokenKind.startsKey (k : TokenKind) : Bool := k = .bare || k.isString

/-! ## Cutting strings -/

/-- The rest of a basic string after its opening quote: up to and including the closing
quote, or up to the end of the line. A backslash takes a following backslash or quote. -/
def basicRest : List Char → List Char × List Char
  | [] => ([], [])
  | '"' :: r => (['"'], r)
  | '\n' :: r => ([], '\n' :: r)
  | '\\' :: rest@(c :: r) =>
    if c = '\\' || c = '"' then
      let (a, b) := basicRest r
      ('\\' :: c :: a, b)
    else
      let (a, b) := basicRest rest
      ('\\' :: a, b)
  | c :: r =>
    let (a, b) := basicRest r
    (c :: a, b)

/-- The closing run of a multi-line string after its first three quotes: up to two more
quotes are taken. -/
def closingRun (q : Char) : List Char → List Char × List Char
  | a :: b :: r => if a = q && b = q then ([q, q, q, q, q], r)
    else if a = q then ([q, q, q, q], b :: r) else ([q, q, q], a :: b :: r)
  | [a] => if a = q then ([q, q, q, q], []) else ([q, q, q], [a])
  | [] => ([q, q, q], [])

/-- The rest of a multi-line basic string after its opening quotes: up to and including
the closing quotes, or to the end of the text. -/
def multiBasicRest : List Char → List Char × List Char
  | [] => ([], [])
  | '"' :: '"' :: '"' :: r => closingRun '"' r
  | '\\' :: rest@(c :: r) =>
    if c = '\\' || c = '"' then
      let (a, b) := multiBasicRest r
      ('\\' :: c :: a, b)
    else
      let (a, b) := multiBasicRest rest
      ('\\' :: a, b)
  | c :: r =>
    let (a, b) := multiBasicRest r
    (c :: a, b)

/-- The rest of a literal string after its opening quote: up to and including the closing
quote, or up to the end of the line. -/
def literalRest : List Char → List Char × List Char
  | [] => ([], [])
  | '\'' :: r => (['\''], r)
  | '\n' :: r => ([], '\n' :: r)
  | c :: r =>
    let (a, b) := literalRest r
    (c :: a, b)

/-- The rest of a multi-line literal string after its opening quotes. -/
def multiLiteralRest : List Char → List Char × List Char
  | [] => ([], [])
  | '\'' :: '\'' :: '\'' :: r => closingRun '\'' r
  | c :: r =>
    let (a, b) := multiLiteralRest r
    (c :: a, b)

/-- Characters that end a bare word. -/
def endsBare (c : Char) : Bool :=
  c = '.' || c = '=' || c = ',' || c = '[' || c = ']' || c = '{' || c = '}' ||
    c = ' ' || c = '\t' || c = '#' || c = '\r' || c = '\n'

/-- A blank within a line. -/
def isBlank (c : Char) : Bool := c = ' ' || c = '\t'

/-- The next token's kind and text, and the text after it, for a non-empty text. -/
def nextToken : List Char → TokenKind × List Char × List Char
  | [] => (.eof, [], [])
  | '.' :: r => (.dot, ['.'], r)
  | '=' :: r => (.equals, ['='], r)
  | ',' :: r => (.comma, [','], r)
  | '[' :: r => (.openBracket, ['['], r)
  | ']' :: r => (.closeBracket, [']'], r)
  | '{' :: r => (.openBrace, ['{'], r)
  | '}' :: r => (.closeBrace, ['}'], r)
  | '\n' :: r => (.newline, ['\n'], r)
  | '\r' :: '\n' :: r => (.newline, ['\r', '\n'], r)
  | '\r' :: r => (.newline, ['\r'], r)
  | '#' :: r =>
    let body := r.takeWhile fun c => c ≠ '\r' && c ≠ '\n'
    (.comment, '#' :: body, r.drop body.length)
  | '"' :: '"' :: '"' :: r =>
    let (a, b) := multiBasicRest r
    (.multiBasic, '"' :: '"' :: '"' :: a, b)
  | '"' :: r =>
    let (a, b) := basicRest r
    (.basic, '"' :: a, b)
  | '\'' :: '\'' :: '\'' :: r =>
    let (a, b) := multiLiteralRest r
    (.multiLiteral, '\'' :: '\'' :: '\'' :: a, b)
  | '\'' :: r =>
    let (a, b) := literalRest r
    (.literal, '\'' :: a, b)
  | c :: r =>
    if isBlank c then
      let more := r.takeWhile isBlank
      (.blank, c :: more, r.drop more.length)
    else
      let more := r.takeWhile fun c => !endsBare c
      (.bare, c :: more, r.drop more.length)

/-- Cuts a text into tokens, ending with the end-of-text token; `fuel` bounds the number of
tokens, and every token takes at least one character. -/
def tokensFrom : Nat → List Char → Nat → List Token
  | _, [], pos => [⟨.eof, [], pos⟩]
  | 0, _, pos => [⟨.eof, [], pos⟩]
  | fuel + 1, cs, pos =>
    let (kind, text, rest) := nextToken cs
    ⟨kind, text, pos⟩ :: tokensFrom fuel rest (pos + byteCount text)

/-- The tokens of a document, after a leading byte order mark. -/
def tokenize (text : String) : List Token :=
  match text.toList with
  | '\uFEFF' :: cs => tokensFrom (cs.length + 1) cs 3
  | cs => tokensFrom (cs.length + 1) cs 0

end Covenant.Toml
