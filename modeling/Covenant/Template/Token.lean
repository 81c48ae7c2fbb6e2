import Covenant.Decimal.Layout
import Covenant.Decimal.Read
import Covenant.Text.Longest
import Covenant.Text.Unescape
/-!
# Template expression tokens

The inside of a `{{ … }}` tag is cut into tokens by longest match, with blanks (space, tab,
line breaks) between them: `(`, `)`, `,`, `?`, `:`, `../` (one loop scope outwards), quoted
strings in double or single quotes, numbers `-?[0-9]+(\.[0-9]+)?([eE][+-]?[0-9]+)?`, and
paths `[A-Za-z_@$][A-Za-z0-9_$-]*(\.[A-Za-z0-9_$-]+)*`.

A path spelled `true`, `false`, `null` or `undefined` is that literal. A number with a point
or an exponent is a binary64 value (possibly infinite); any other is a whole number, which
must fit in 64 signed bits. A string keeps the text between its quotes, unescaped in shell
fashion when it holds a backslash.

Text that is no token, a string whose escapes are invalid, and a whole number out of range
all stop tokenizing with the byte offset where that token starts. Token spans are in bytes.
-/

namespace Covenant.Template

open Covenant.Text

/-- A template expression token. -/
inductive Token where
  | parenOpen
  | parenClose
  | comma
  | question
  | colon
  | parent
  | str (value : String) (delimiter : Char)
  | int (i : Int)
  | float (f : Float)
  | bool (b : Bool)
  | null
  | path (p : String)

/-- Equality of tokens; binary64 values compare as numbers. -/
def Token.beq : Token → Token → Bool
  | .parenOpen, .parenOpen | .parenClose, .parenClose | .comma, .comma => true
  | .question, .question | .colon, .colon | .parent, .parent | .null, .null => true
  | .str a d, .str b e => a == b && d == e
  | .int a, .int b => a == b
  | .float a, .float b => a == b
  | .bool a, .bool b => a == b
  | .path a, .path b => a == b
  | _, _ => false

/-- How a token is written back: a string between its delimiters, a binary64 value by its
shortest digits (`inf` for infinity), `undefined` as `null`. -/
def Token.display : Token → String
  | .parenOpen => "("
  | .parenClose => ")"
  | .comma => ","
  | .question => "?"
  | .colon => ":"
  | .parent => "../"
  | .str v d => d.toString ++ v ++ d.toString
  | .int i => toString i
  | .float f => Decimal.Layout.plain.render f
  | .bool b => if b then "true" else "false"
  | .null => "null"
  | .path p => p

/-- A token with the byte offsets where it starts and ends. -/
structure Spanned where
  token : Token
  start : Nat
  stop : Nat

/-- The kinds of raw token. -/
inductive RawKind where
  | parenOpen
  | parenClose
  | comma
  | question
  | colon
  | parent
  | doubleQuoted
  | singleQuoted
  | number
  | path

/-- States of a number. -/
inductive NumberState where
  | start
  | sign
  | whole
  | point
  | frac
  | exp
  | expSign
  | expDigits

/-- One step of reading a number. -/
def numberStep : NumberState → Char → Option NumberState
  | .start, c => if c = '-' then some .sign else if c.isDigit then some .whole else none
  | .sign, c => if c.isDigit then some .whole else none
  | .whole, c =>
    if c.isDigit then some .whole else if c = '.' then some .point
    else if c = 'e' || c = 'E' then some .exp else none
  | .point, c => if c.isDigit then some .frac else none
  | .frac, c => if c.isDigit then some .frac else if c = 'e' || c = 'E' then some .exp else none
  | .exp, c => if c = '+' || c = '-' then some .expSign else if c.isDigit then some .expDigits else none
  | .expSign, c | .expDigits, c => if c.isDigit then some .expDigits else none

/-- Characters of a path segment. -/
def pathChar (c : Char) : Bool := c.isAlphanum || c = '_' || c = '-' || c = '$'

/-- States of a path: start, in a segment, after a dot. -/
inductive PathState where
  | start
  | segment
  | dot

/-- One step of reading a path. -/
def pathStep : PathState → Char → Option PathState
  | .start, c => if c.isAlpha || c = '_' || c = '@' || c = '$' then some .segment else none
  | .segment, c => if pathChar c then some .segment else if c = '.' then some .dot else none
  | .dot, c => if pathChar c then some .segment else none

/-- Every kind of raw token with how it reaches. -/
def reaches (cs : List Char) : List (RawKind × Reach) :=
  [(.parenOpen, literalReach "(" cs), (.parenClose, literalReach ")" cs),
   (.comma, literalReach "," cs), (.question, literalReach "?" cs),
   (.colon, literalReach ":" cs), (.parent, literalReach "../" cs),
   (.doubleQuoted, quotedReach '"' cs), (.singleQuoted, quotedReach '\'' cs),
   (.number, runAutomaton numberStep (fun s => s matches .whole | .frac | .expDigits)
      cs NumberState.start 0 none),
   (.path, runAutomaton pathStep (fun s => s matches .segment) cs PathState.start 0 none)]

/-- The string token of a quoted slice. -/
def stringToken (slice : List Char) (delimiter : Char) : Option Token :=
  let inner := (slice.drop 1).dropLast
  if inner.contains '\\' then (unescape (String.ofList inner)).map (.str · delimiter)
  else some (.str (String.ofList inner) delimiter)

/-- The number token of a numeric slice. -/
def numberToken (slice : List Char) : Option Token :=
  if slice.any (fun c => c = '.' || c = 'e' || c = 'E') then
    (Decimal.readFloat? (String.ofList slice)).map .float
  else
    let (neg, ds) := match slice with
      | '-' :: r => (true, r)
      | r => (false, r)
    let v : Int := ds.foldl (fun a c => a * 10 + (c.toNat - 48)) 0
    let v := if neg then -v else v
    if -Nat.pow 2 63 ≤ v && v < Nat.pow 2 63 then some (.int v) else none

/-- The token of a raw slice, if it is valid. -/
def rawToken (k : RawKind) (slice : List Char) : Option Token :=
  match k with
  | .parenOpen => some .parenOpen
  | .parenClose => some .parenClose
  | .comma => some .comma
  | .question => some .question
  | .colon => some .colon
  | .parent => some .parent
  | .doubleQuoted => stringToken slice '"'
  | .singleQuoted => stringToken slice '\''
  | .number => numberToken slice
  | .path =>
    let p := String.ofList slice
    some (if p = "true" then .bool true else if p = "false" then .bool false
      else if p = "null" || p = "undefined" then .null else .path p)

/-- Blanks between tokens. -/
def isGap (c : Char) : Bool := c = ' ' || c = '\t' || c = '\r' || c = '\n'

/-- The byte length of characters. -/
def byteLength (cs : List Char) : Nat := cs.foldl (fun n c => n + c.utf8Size) 0

/-- Tokenizes from a byte offset, or fails with the offset of the bad token. -/
def tokenizeFrom : Nat → List Char → Nat → Except Nat (List Spanned)
  | 0, _, _ => .ok []
  | fuel + 1, cs, off =>
    let gap := cs.takeWhile isGap
    let off := off + byteLength gap
    match cs.drop gap.length with
    | [] => .ok []
    | rest =>
      match longest (reaches rest) with
      | (some k, n) =>
        let slice := rest.take n
        match rawToken k slice with
        | some t =>
          let stop := off + byteLength slice
          (tokenizeFrom fuel (rest.drop n) stop).map (⟨t, off, stop⟩ :: ·)
        | none => .error off
      | (none, _) => .error off

/-- Tokenizes the inside of an expression, or gives the byte offset where it stops. -/
def tokenizeExpression (source : String) : Except Nat (List Spanned) :=
  tokenizeFrom (source.length + 1) source.toList 0

end Covenant.Template
