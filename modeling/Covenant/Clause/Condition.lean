import Covenant.Value
import Covenant.Text.Blank
import Covenant.Text.Unescape
import Covenant.Text.Longest
/-!
# Clause conditions

A condition is a flat chain of *leaves* joined by `AND` and `OR` (also written `and`, `&&`,
`or`, `||`), read strictly from left to right with no precedence: `a OR b AND c` means
`(a OR b) AND c`. An empty condition always holds.

A leaf is either a field path, true when the field is truthy, or a comparison
`path = operand` / `path != operand` (`==` is `=`). An operand is a quoted text (single or
double quotes, with shell escapes when it holds a backslash), a number
(`-?digits(.digits)?`), `true`, `false`, `null`, or a bare word taken as text. Any other leaf
is *malformed* and false; malformed leaves do not spoil the rest of the chain.

## Reading the text

The text is cut into tokens by longest match: at each point every kind of token is tried,
the longest wins, and a keyword beats a word of the same length. Blanks (space, tab, line
breaks) separate tokens. Where no kind of token matches, the characters that some kind could
still have begun to match (at least one) form an unreadable piece, which makes its leaf
malformed: an unclosed quote swallows the rest of the text.

## Comparing

A missing field equals only `null`. `null` equals a null value; `true`/`false` equal that
boolean or its text; a number equals a number or a text that reads as one (after trimming)
when the two binary64 values are at most two units in the last place apart; a text equals
the display text of the value.
-/

namespace Covenant.Clause

open Covenant.Text

/-- The kinds of condition token. -/
inductive Token where
  | and
  | or
  | equals
  | notEquals
  | quoted
  | number
  | word
deriving DecidableEq, Repr

/-- States of a number: start, after the sign, in the whole part, after the point, in the
fraction. -/
inductive NumberState where
  | start
  | sign
  | whole
  | point
  | frac

/-- A number: `-?[0-9]+(\.[0-9]+)?`. -/
def numberReach (cs : List Char) : Reach :=
  runAutomaton (fun (s : NumberState) c => match s with
      | .start => if c = '-' then some .sign else if c.isDigit then some .whole else none
      | .sign => if c.isDigit then some .whole else none
      | .whole => if c.isDigit then some .whole else if c = '.' then some .point else none
      | .point | .frac => if c.isDigit then some .frac else none)
    (fun (s : NumberState) => s matches .whole | .frac) cs NumberState.start 0 none

/-- Characters that may start a word. -/
def wordStart (c : Char) : Bool := c.isAlpha || c = '_' || c = '@'

/-- Characters of a word segment. -/
def wordChar (c : Char) : Bool := c.isAlphanum || c = '_' || c = '-'

/-- States of a word: start, in a segment, after a dot. -/
inductive WordState where
  | start
  | segment
  | dot

/-- A word: `[A-Za-z_@][A-Za-z0-9_-]*(\.[A-Za-z0-9_-]+)*`. -/
def wordReach (cs : List Char) : Reach :=
  runAutomaton (fun (s : WordState) c => match s with
      | .start => if wordStart c then some .segment else none
      | .segment => if wordChar c then some .segment else if c = '.' then some .dot else none
      | .dot => if wordChar c then some .segment else none)
    (fun (s : WordState) => s matches .segment) cs WordState.start 0 none

/-- Every kind of token with how it reaches, keywords before words so that they win ties. -/
def reaches (cs : List Char) : List (Token × Reach) :=
  [(.and, literalReach "AND" cs), (.and, literalReach "and" cs), (.and, literalReach "&&" cs),
   (.or, literalReach "OR" cs), (.or, literalReach "or" cs), (.or, literalReach "||" cs),
   (.equals, literalReach "==" cs), (.equals, literalReach "=" cs),
   (.notEquals, literalReach "!=" cs),
   (.quoted, quotedReach '"' cs), (.quoted, quotedReach '\'' cs),
   (.number, numberReach cs), (.word, wordReach cs)]

/-- The token at the start of the input and its length, or `none` and the length of the
unreadable piece there. -/
def nextToken (cs : List Char) : Option Token × Nat :=
  longest (reaches cs)

/-- Blanks between condition tokens. -/
def isGap (c : Char) : Bool := c = ' ' || c = '\t' || c = '\r' || c = '\n'

/-- The tokens of a condition with their text; `none` marks an unreadable piece. -/
def tokenize (src : String) : List (Option Token × String) :=
  go src.length src.toList
where
  go : Nat → List Char → List (Option Token × String)
    | 0, _ => []
    | fuel + 1, cs =>
      match cs.dropWhile isGap with
      | [] => []
      | rest =>
        let (t, n) := nextToken rest
        (t, String.ofList (rest.take n)) :: go fuel (rest.drop n)

/-- The right-hand side of a comparison. -/
inductive Operand where
  | text (s : String)
  | number (f : Float)
  | bool (b : Bool)
  | null

/-- `=` or `!=`. -/
inductive Comparison where
  | equal
  | notEqual
deriving DecidableEq

/-- One leaf of a condition. -/
inductive Leaf where
  | field (path : String)
  | compare (path : String) (cmp : Comparison) (operand : Operand)
  | malformed (text : String)

/-- `AND` or `OR`. -/
inductive Connective where
  | and
  | or
deriving DecidableEq

/-- A condition: its first leaf (none when empty) and the connectives and leaves after it. -/
structure Condition where
  first : Option Leaf
  rest : List (Connective × Leaf)

/-- The operand a token stands for. -/
def operandOf (t : Token) (text : String) : Option Operand :=
  match t with
  | .quoted =>
    let inner := String.ofList ((text.toList.drop 1).dropLast)
    if inner.toList.contains '\\' then (Text.unescape inner).map .text else some (.text inner)
  | .number => (Decimal.readFloat? text).map .number
  | .word =>
    some (if text = "true" then .bool true
      else if text = "false" then .bool false
      else if text = "null" then .null
      else .text text)
  | _ => none

/-- A leaf from its tokens. -/
def leafOf (toks : List (Token × String)) : Leaf :=
  let describe := " ".intercalate (toks.map (·.2))
  match toks with
  | [(.word, f)] => .field f
  | [(.word, f), (op, _), (ot, o)] =>
    if op = .equals || op = .notEquals then
      match operandOf ot o with
      | some operand => .compare f (if op = .equals then .equal else .notEqual) operand
      | none => .malformed describe
    else .malformed describe
  | _ => .malformed describe

/-- The leaf of a run of tokens between connectives; an unreadable piece makes it malformed. -/
def finishRun (run : List (Option Token × String)) : Leaf :=
  match run.mapM (fun (t, s) => t.map (·, s)) with
  | some toks => leafOf toks
  | none => .malformed (" ".intercalate (run.map (·.2)))

/-- Splits tokens at connectives into leaves. -/
def splitRuns : List (Option Token × String) → List (Option Token × String) →
    List Leaf × List Connective
  | [], run => ([finishRun run.reverse], [])
  | (t, s) :: ts, run =>
    match t with
    | some .and =>
      let (ls, cs) := splitRuns ts []
      (finishRun run.reverse :: ls, .and :: cs)
    | some .or =>
      let (ls, cs) := splitRuns ts []
      (finishRun run.reverse :: ls, .or :: cs)
    | _ => splitRuns ts ((t, s) :: run)

/-- Reads a condition. -/
def Condition.parse (src : String) : Condition :=
  match tokenize src with
  | [] => ⟨none, []⟩
  | toks =>
    let (leaves, conns) := splitRuns toks []
    ⟨leaves.head?, conns.zip leaves.tail⟩

/-- The bits of a binary64 value as a signed 64-bit integer. -/
def signedBits (x : Float) : Int :=
  let b := x.toBits.toNat
  if b ≥ Nat.pow 2 63 then (b : Int) - Nat.pow 2 64 else b

/-- How many units in the last place two binary64 values are apart, saturating. -/
def ulpsApart (a b : Float) : Nat :=
  let w := (signedBits a - signedBits b + Nat.pow 2 63) % Nat.pow 2 64 - Nat.pow 2 63
  if w = -Nat.pow 2 63 then Nat.pow 2 63 - 1 else w.natAbs

/-- Equal, or at most two units in the last place apart. -/
def nearlyEqual (a b : Float) : Bool :=
  a == b || (a - b).abs ≤ 0.0 || ulpsApart a b ≤ 2

/-- Whether a field's value loosely equals an operand. -/
def looselyEqual (value : Option Value) (op : Operand) : Bool :=
  match value, op with
  | none, .null => true
  | none, _ => false
  | some .null, .null => true
  | some _, .null => false
  | some (.bool b), .bool e => b == e
  | some (.str s), .bool e => s == (if e then "true" else "false")
  | some _, .bool _ => false
  | some (.num n), .number e => nearlyEqual n.toFloat e
  | some (.str s), .number e =>
    match Decimal.readFloat? (Text.trim s) with
    | some a => nearlyEqual a e
    | none => false
  | some _, .number _ => false
  | some v, .text e => v.display == some e

/-- Whether a leaf holds for the metadata. -/
def Leaf.holds (m : Metadata) : Leaf → Bool
  | .field path => Value.truthy (Metadata.lookup? m path)
  | .compare path cmp op =>
    let eq := looselyEqual (Metadata.lookup? m path) op
    if cmp = .equal then eq else !eq
  | .malformed _ => false

/-- Whether a condition holds, folding left to right. -/
def Condition.holds (c : Condition) (m : Metadata) : Bool :=
  match c.first with
  | none => true
  | some l =>
    c.rest.foldl (fun acc (conn, leaf) =>
      match conn with
      | .and => acc && leaf.holds m
      | .or => acc || leaf.holds m) (l.holds m)

end Covenant.Clause
