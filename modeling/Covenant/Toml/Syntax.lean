import Covenant.Toml.Scalar
/-!
# The shape of a TOML document

The second pass reads the tokens into statements: assignments `key = value`, table headers
`[key]` and array-of-tables headers `[[key]]`. It judges only the order of the tokens and the
layout around them; keys and values stay as written, to be decoded by the third pass.

What the shape requires, and the complaint when it is missing:

* a key part where one is due (after a dot, at the start of a header, or before a lone
  `=`): an empty key part is recorded there, and decoding it will complain;
* `=` after a key ("key with no value");
* a value after `=`: where none stands, an empty bare value is recorded;
* a line break or the end of the text after a statement, with only blanks and a comment
  between ("unexpected key or value");
* commas between the items of an array and between the entries of an inline table, and no
  comma where an item or an entry is due ("extra comma", "missing comma");
* closing brackets and braces ("unclosed array", "unclosed inline table", "unclosed table").

A bare value may run over dots and over blanks followed by another bare word, so that
`1.5`, `1979-05-27 07:32` and even `1 b` each reach the decoder as one value. Comments are
checked for printable characters and line breaks for a lone carriage return as they are
passed.
-/

namespace Covenant.Toml

/-- One part of a key as written: the kind of token and its text (empty where a part is
missing). -/
structure KeyPiece where
  kind : TokenKind
  piece : Piece

/-- A value as written. -/
inductive RawValue where
  /-- A string token, or a bare value with the tokens merged into it. -/
  | scalar (kind : TokenKind) (piece : Piece)
  | array (items : List RawValue) (span : Span)
  | inline (entries : List (List KeyPiece × RawValue)) (span : Span)

/-- A statement of a document. -/
inductive Statement where
  | assign (key : List KeyPiece) (value : RawValue)
  | table (key : List KeyPiece) (span : Span)
  | arrayTable (key : List KeyPiece) (span : Span)

/-- Reading the shape: the state is the tokens still to read, which end with the end of the
text; a failure is a complaint. -/
abbrev ShapeM := StateT (List Token) (Except TomlError)

/-- The next token, without taking it. -/
def peekToken : ShapeM Token := do
  match ← get with
  | t :: _ => pure t
  | [] => pure ⟨.eof, [], 0⟩

/-- The token after the next one, if any. -/
def peekSecond : ShapeM (Option Token) := do
  match ← get with
  | _ :: t :: _ => pure (some t)
  | _ => pure none

/-- Takes the next token; the end of the text is never taken. -/
def takeToken : ShapeM Token := do
  let t ← peekToken
  if t.kind ≠ .eof then modify List.tail
  pure t

/-- Fails with a complaint. -/
def complain (e : TomlError) : ShapeM α := throw e

/-- Fails with the complaint of a check, if any. -/
def liftCheck (r : Except TomlError Unit) : ShapeM Unit :=
  match r with
  | .ok () => pure ()
  | .error e => complain e

/-- Checks a layout token as it is passed. -/
def checkLayout (t : Token) : ShapeM Unit :=
  match t.kind with
  | .comment => liftCheck (checkComment t)
  | .newline => liftCheck (checkNewline t)
  | _ => pure ()

/-- Steps over blanks. -/
def skipBlanks : Nat → ShapeM Unit
  | 0 => pure ()
  | fuel + 1 => do
    if (← peekToken).kind = .blank then
      let _ ← takeToken
      skipBlanks fuel

/-- The empty key part at a token that is not a key. -/
def missingKey (t : Token) : KeyPiece := ⟨.bare, ⟨[], t.start⟩⟩

/-- The key part at the next token: the token itself if it may start a key, or an empty
part before it. -/
def keyPiece : ShapeM KeyPiece := do
  let t ← peekToken
  if t.kind.startsKey then
    let _ ← takeToken
    pure ⟨t.kind, t.piece⟩
  else pure (missingKey t)

/-- The parts after the first of a dotted key, with the blanks around the dots. -/
def dottedRest : Nat → ShapeM (List KeyPiece)
  | 0 => pure []
  | fuel + 1 => do
    skipBlanks fuel
    if (← peekToken).kind = .dot then
      let _ ← takeToken
      skipBlanks fuel
      let part ← keyPiece
      let rest ← dottedRest fuel
      pure (part :: rest)
    else pure []

/-- A whole key from the next token. -/
def keyAt (fuel : Nat) : ShapeM (List KeyPiece) := do
  let first ← keyPiece
  let rest ← dottedRest fuel
  pure (first :: rest)

/-- Takes the `=` after a key. -/
def equalsSign : ShapeM Unit := do
  let t ← peekToken
  if t.kind = .equals then let _ ← takeToken
  else complain (.expecting "key with no value" [ticked "="] (Span.at t.start))

/-- Extends a bare value over the dots, bare words, and blanks followed by a bare word that
come next. -/
def mergeBare : Nat → List Char → ShapeM (List Char)
  | 0, acc => pure acc
  | fuel + 1, acc => do
    let t ← peekToken
    if t.kind = .bare || t.kind = .dot then
      let _ ← takeToken
      mergeBare fuel (acc ++ t.text)
    else if t.kind = .blank then
      match ← peekSecond with
      | some n =>
        if n.kind = .bare then
          let _ ← takeToken
          let _ ← takeToken
          mergeBare fuel (acc ++ t.text ++ n.text)
        else pure acc
      | none => pure acc
    else pure acc

/-- Steps over blanks, comments and line breaks, checking them. -/
def skipLayout : Nat → ShapeM Unit
  | 0 => pure ()
  | fuel + 1 => do
    let t ← peekToken
    if t.kind = .blank || t.kind = .comment || t.kind = .newline then
      checkLayout t
      let _ ← takeToken
      skipLayout fuel

mutual

/-- Reads a value. -/
def value : Nat → ShapeM RawValue
  | 0 => do pure (.scalar .bare ⟨[], (← peekToken).start⟩)
  | fuel + 1 => do
    let t ← peekToken
    match t.kind with
    | .openBrace => do
      let _ ← takeToken
      inlineTable fuel t []
    | .openBracket => do
      let _ ← takeToken
      array fuel t [] true
    | .literal | .basic | .multiLiteral | .multiBasic => do
      let _ ← takeToken
      pure (.scalar t.kind t.piece)
    | .bare | .dot => do
      let _ ← takeToken
      let text ← mergeBare fuel t.text
      pure (.scalar .bare ⟨text, t.start⟩)
    | _ => pure (.scalar .bare ⟨[], t.start⟩)

/-- Reads the items of an array after its opening bracket; `wantItem` says an item (rather
than a comma) is due. -/
def array : Nat → Token → List RawValue → Bool → ShapeM RawValue
  | 0, t, _, _ => complain (.expecting "unclosed array" [ticked "]"] (Span.at t.stop))
  | fuel + 1, open_, items, wantItem => do
    skipLayout fuel
    let t ← peekToken
    match t.kind with
    | .eof => complain (.expecting "unclosed array" [ticked "]"] (Span.at t.start))
    | .closeBracket => do
      let _ ← takeToken
      pure (.array items.reverse ⟨open_.start, t.stop⟩)
    | .comma => do
      let _ ← takeToken
      if wantItem then complain (.expecting "extra comma in array" ["value"] t.span)
      array fuel open_ items true
    | .closeBrace | .equals =>
      complain (.expecting "unclosed array" [ticked "]"] (Span.at t.start))
    | _ => do
      if !wantItem then
        complain (.expecting "missing comma between array elements" [ticked ","] (Span.at t.start))
      let v ← value fuel
      array fuel open_ (v :: items) false

/-- Reads the entries of an inline table after its opening brace. -/
def inlineTable : Nat → Token → List (List KeyPiece × RawValue) → ShapeM RawValue
  | 0, t, _ => complain (.expecting "unclosed inline table" [ticked "\x7d"] (Span.at t.stop))
  | fuel + 1, open_, entries => do
    skipLayout fuel
    let t ← peekToken
    match t.kind with
    | .eof => complain (.expecting "unclosed inline table" [ticked "\x7d"] (Span.at t.start))
    | .closeBrace => do
      let _ ← takeToken
      pure (.inline entries.reverse ⟨open_.start, t.stop⟩)
    | .comma => do
      let _ ← takeToken
      if entries.isEmpty then complain (.expecting "extra comma in inline table" ["key"] t.span)
      inlineRest fuel open_ entries
    | _ => do
      if !entries.isEmpty then
        complain (.expecting "missing comma between key-value pairs" [ticked ","]
          (Span.at t.start))
      let k ← keyAt fuel
      equalsSign
      skipBlanks fuel
      let v ← value fuel
      inlineTable fuel open_ ((k, v) :: entries)

/-- Reads the entries of an inline table after a comma: an entry or the closing brace is
due. -/
def inlineRest : Nat → Token → List (List KeyPiece × RawValue) → ShapeM RawValue
  | 0, t, _ => complain (.expecting "unclosed inline table" [ticked "\x7d"] (Span.at t.stop))
  | fuel + 1, open_, entries => do
    skipLayout fuel
    let t ← peekToken
    match t.kind with
    | .eof => complain (.expecting "unclosed inline table" [ticked "\x7d"] (Span.at t.start))
    | .closeBrace => do
      let _ ← takeToken
      pure (.inline entries.reverse ⟨open_.start, t.stop⟩)
    | .comma => do
      let _ ← takeToken
      complain (.expecting "extra comma in inline table" ["key"] t.span)
    | _ => do
      let k ← keyAt fuel
      equalsSign
      skipBlanks fuel
      let v ← value fuel
      inlineTable fuel open_ ((k, v) :: entries)

end

/-- Ends a statement: blanks and a comment, then a line break or the end of the text. -/
def lineEnd : Nat → ShapeM Unit
  | 0 => pure ()
  | fuel + 1 => do
    let t ← peekToken
    match t.kind with
    | .blank | .comment => do
      checkLayout t
      let _ ← takeToken
      lineEnd fuel
    | .newline => do
      checkLayout t
      let _ ← takeToken
    | .eof => pure ()
    | _ => complain (.expecting "unexpected key or value" ["newline", ticked "#"] t.span)

/-- The offset right after the last part of a key. -/
def keyEnd (key : List KeyPiece) (fallback : Nat) : Nat :=
  match key.getLast? with
  | some k => k.piece.whole.stop
  | none => fallback

/-- Reads a header after its first bracket. -/
def header (fuel : Nat) (open_ : Token) : ShapeM Statement := do
  let isArray := (← peekToken).kind = .openBracket
  if isArray then let _ ← takeToken
  skipBlanks fuel
  let k ← keyAt fuel
  skipBlanks fuel
  let t ← peekToken
  if t.kind = .closeBracket then
    let _ ← takeToken
    if isArray then
      let t2 ← peekToken
      if t2.kind = .closeBracket then
        let _ ← takeToken
        lineEnd fuel
        pure (.arrayTable k ⟨open_.start, t2.stop⟩)
      else complain (.expecting "unclosed array table" [ticked "]]"] (Span.at t.stop))
    else
      lineEnd fuel
      pure (.table k ⟨open_.start, t.stop⟩)
  else if isArray then
    complain (.expecting "unclosed array table" [ticked "]]"] (Span.at (keyEnd k t.start)))
  else complain (.expecting "unclosed table" [ticked "]"] (Span.at (keyEnd k t.start)))

/-- Reads the statements of a document. -/
def statements : Nat → List Statement → ShapeM (List Statement)
  | 0, acc => pure acc.reverse
  | fuel + 1, acc => do
    let t ← peekToken
    match t.kind with
    | .eof => pure acc.reverse
    | .blank | .comment | .newline => do
      checkLayout t
      let _ ← takeToken
      statements fuel acc
    | .openBracket => do
      let _ ← takeToken
      let s ← header fuel t
      statements fuel (s :: acc)
    | .closeBracket => complain (.expecting "missing table open" [ticked "["] (Span.at t.start))
    | .comma | .openBrace | .closeBrace =>
      complain (.expecting "invalid key" bareKeyExpected t.span)
    | _ => do
      let k ← keyAt fuel
      equalsSign
      skipBlanks fuel
      let v ← value fuel
      lineEnd fuel
      statements fuel (.assign k v :: acc)

/-- Reads the shape of a document from its tokens. -/
def readShape (tokens : List Token) : Except TomlError (List Statement) :=
  (statements (tokens.length + 1) []).run' tokens

end Covenant.Toml
