import Covenant.Template.Token
import Covenant.Value
/-!
# Template expressions

The grammar of the inside of a tag:

```
expression := call ( "?" expression ":" expression )?
call       := NAME "(" ( expression ( "," expression )* )? ")"     -- legacy notation
            | NAME atom+                                            -- modern notation
            | atom
atom       := literal | "../"* PATH | "(" expression ")"
```

Only the names of known helpers start a call. A legacy call needs its `(` right after the
name, with no blank between; after a blank the parenthesis opens a sub-expression, which as
the first argument makes a modern call. The parser records which notations it met, so that a
document can be held to one of them.
-/

namespace Covenant.Template

/-- Every helper the engine knows, by the name used in templates. -/
def helperNames : List String :=
  ["addYears", "addMonths", "addDays", "formatDate", "formatCurrency", "formatInteger",
   "formatPercent", "round", "numberToWords", "upper", "lower", "capitalize",
   "capitalizeWords", "titleCase", "kebabCase", "snakeCase", "camelCase", "pascalCase", "trim",
   "truncate", "initials", "concat", "replace", "join", "pluralize", "default", "add",
   "subtract", "multiply", "divide", "eq", "not", "today"]

/-- Whether a name is a helper's. -/
def isHelper (name : String) : Bool := helperNames.contains name

/-- A reference to a value: a field path or loop variable, looked up `parents` loop scopes
out. -/
structure PathRef where
  parents : Nat
  segments : List String

/-- A reference from its dotted text; empty segments are dropped. -/
def PathRef.ofText (path : String) (parents : Nat) : PathRef :=
  ⟨parents, Value.pathSegments path⟩

/-- `../` for each scope out, then the dotted path. -/
def PathRef.render (p : PathRef) : String :=
  String.join (List.replicate p.parents "../") ++ ".".intercalate p.segments

/-- A template expression. -/
inductive Expr where
  | literal (v : Value)
  | path (p : PathRef)
  | call (name : String) (args : List Expr)
  | ternary (condition thenBranch elseBranch : Expr)

instance : Inhabited Expr := ⟨.literal .null⟩

/-- The helper-call notations an expression uses. -/
structure CallStyles where
  legacy : Bool := false
  modern : Bool := false

/-- Why an expression could not be read. -/
inductive ExpressionError where
  | lex (offset : Nat)
  | unexpected (token : String)
  | endedEarly
  | empty

/-- The message of an expression error. -/
def ExpressionError.message : ExpressionError → String
  | .lex off => "unexpected character at offset " ++ toString off
  | .unexpected t => "unexpected `" ++ t ++ "`"
  | .endedEarly => "expression ended early"
  | .empty => "the expression is empty"

/-- A parsed expression with the notations it used. -/
structure Parsed where
  expr : Expr
  styles : CallStyles

/-- The parser's state: the tokens, the position, and the notations met. -/
structure ExprState where
  tokens : Array Spanned
  cursor : Nat := 0
  styles : CallStyles := {}

/-- Parsing steps. -/
abbrev ExprM := StateT ExprState (Except ExpressionError)

namespace ExprParse

/-- The token `k` places ahead. -/
def peekAt (k : Nat) : ExprM (Option Spanned) := do
  let s ← get
  pure s.tokens[s.cursor + k]?

/-- The next token. -/
def peek : ExprM (Option Token) := do
  pure ((← peekAt 0).map (·.token))

/-- Takes the next token. -/
def next : ExprM Token := do
  match ← peekAt 0 with
  | some t =>
    modify fun s => { s with cursor := s.cursor + 1 }
    pure t.token
  | none => throw .endedEarly

/-- Takes the next token if it is `t`. -/
def eat (t : Token) : ExprM Bool := do
  match ← peek with
  | some u => if u.beq t then do modify fun s => { s with cursor := s.cursor + 1 }; pure true else pure false
  | none => pure false

/-- Takes the next token, which must be `t`. -/
def expect (t : Token) : ExprM Unit := do
  let u ← next
  if u.beq t then pure () else throw (.unexpected u.display)

/-- Whether a token can start an atom. -/
def startsAtom : Token → Bool
  | .str .. | .int _ | .float _ | .bool _ | .null | .path _ | .parent | .parenOpen => true
  | _ => false

/-- The literal value of a token. -/
def literalOf : Token → Option Value
  | .str v _ => some (.str v)
  | .int i => some (.num (.int i))
  | .float f => some (if f.isFinite then .num (.float f) else .null)
  | .bool b => some (.bool b)
  | .null => some .null
  | _ => none

mutual

/-- `expression`: a call, optionally the condition of a ternary. -/
def ternary : Nat → ExprM Expr
  | 0 => throw .endedEarly
  | fuel + 1 => do
    let c ← call fuel
    if !(← eat .question) then return c
    let t ← ternary fuel
    expect .colon
    let e ← ternary fuel
    pure (.ternary c t e)

/-- `call`: a helper call in either notation, or an atom. -/
def call : Nat → ExprM Expr
  | 0 => throw .endedEarly
  | fuel + 1 => do
    match ← peekAt 0 with
    | some ⟨.path name, _, nameEnd⟩ =>
      if !isHelper name then return ← atom fuel
      match ← peekAt 1 with
      | some ⟨.parenOpen, start, _⟩ =>
        if start = nameEnd then
          modify fun s => { s with cursor := s.cursor + 2, styles := { s.styles with legacy := true } }
          let args ← legacyArgs fuel []
          return .call name args
        else
          modify fun s => { s with cursor := s.cursor + 1, styles := { s.styles with modern := true } }
          let args ← modernArgs fuel []
          return .call name args
      | some t =>
        if startsAtom t.token then
          modify fun s => { s with cursor := s.cursor + 1, styles := { s.styles with modern := true } }
          let args ← modernArgs fuel []
          return .call name args
        else atom fuel
      | none => atom fuel
    | _ => atom fuel

/-- Arguments of a legacy call after its `(`, through the closing `)`. -/
def legacyArgs : Nat → List Expr → ExprM (List Expr)
  | 0, _ => throw .endedEarly
  | fuel + 1, acc => do
    if acc.isEmpty then
      if ← eat .parenClose then return []
    let a ← ternary fuel
    match ← next with
    | .comma => legacyArgs fuel (a :: acc)
    | .parenClose => pure (a :: acc).reverse
    | t => throw (.unexpected t.display)

/-- Arguments of a modern call: atoms for as long as they follow. -/
def modernArgs : Nat → List Expr → ExprM (List Expr)
  | 0, _ => throw .endedEarly
  | fuel + 1, acc => do
    match ← peek with
    | some t =>
      if startsAtom t then
        let a ← atom fuel
        modernArgs fuel (a :: acc)
      else pure acc.reverse
    | none => pure acc.reverse

/-- `atom`: a literal, a path with its `../` prefixes, or a parenthesized expression. -/
def atom : Nat → ExprM Expr
  | 0 => throw .endedEarly
  | fuel + 1 => do
    let t ← next
    match literalOf t with
    | some v => pure (.literal v)
    | none =>
      match t with
      | .path p => pure (.path (PathRef.ofText p 0))
      | .parent => parentPath fuel 1
      | .parenOpen =>
        let inner ← ternary fuel
        expect .parenClose
        pure inner
      | t => throw (.unexpected t.display)

/-- A path after `parents` `../` prefixes. -/
def parentPath : Nat → Nat → ExprM Expr
  | 0, _ => throw .endedEarly
  | fuel + 1, parents => do
    if ← eat .parent then parentPath fuel (parents + 1)
    else
      match ← next with
      | .path p => pure (.path (PathRef.ofText p parents))
      | t => throw (.unexpected t.display)

end

end ExprParse

/-- Parses the inside of a tag. -/
def parseExpression (source : String) : Except ExpressionError Parsed :=
  match tokenizeExpression source with
  | .error off => .error (.lex off)
  | .ok [] => .error .empty
  | .ok toks =>
    let fuel := 4 * toks.length + 8
    match (ExprParse.ternary fuel).run { tokens := toks.toArray } with
    | .error e => .error e
    | .ok (e, s) =>
      match s.tokens[s.cursor]? with
      | some extra => .error (.unexpected extra.token.display)
      | none => .ok ⟨e, s.styles⟩

end Covenant.Template
