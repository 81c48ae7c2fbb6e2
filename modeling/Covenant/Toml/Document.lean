import Covenant.Toml.Syntax
/-!
# TOML documents as tables

The third pass decodes the keys and values of the statements, in order, and builds the
document's tables. Every value remembers the bytes that spell it, so that a reader can
point at it: a table named by a header is spelled by the whole header (brackets included),
a table made on the way to a deeper key by that key's part, an array of tables by its first
header, and any other value by its own text.

The table rules are TOML's:

1. a key is given once in its table;
2. a header names a table at most once; a table made only as the parent of a deeper header
   may still be named later, one made by a dotted key may not;
3. dotted keys may extend only tables that dotted keys made, and never a table named by a
   header or written inline;
4. an array-of-tables header adds a table to its array, and the keys after it, and deeper
   headers, go to that newest table;
5. arrays and inline tables are closed once written.

Any breach is "duplicate key", pointing at the key part concerned. As the statements are
read, the table of the latest header is kept aside and put into the document when the next
header starts or the text ends.
-/

namespace Covenant.Toml

/-- How a table came to exist, which decides what may extend it. -/
inductive TableKind where
  /-- Named by a header, or the document's root. -/
  | header
  /-- Made as the parent of a deeper header, and not named itself. -/
  | implicit
  /-- Made by a dotted key. -/
  | dotted
  /-- Written inline, and closed. -/
  | inline
deriving Repr, DecidableEq

/-- A value of a document, with the bytes that spell it. Integers keep their digits and
radix, floats their text: their size is for the reader to judge. -/
inductive TomlValue where
  | string (text : String) (span : Span)
  | integer (digits : String) (radix : Nat) (span : Span)
  | float (text : String) (span : Span)
  | boolean (value : Bool) (span : Span)
  | datetime (text : String) (span : Span)
  /-- An array; `ofTables` marks an array of tables, which headers may extend. -/
  | array (items : List TomlValue) (ofTables : Bool) (span : Span)
  | table (entries : List (String × TomlValue)) (kind : TableKind) (span : Span)

/-- The entries of a table, in the order their keys were first given. -/
abbrev TomlTable := List (String × TomlValue)

/-- The bytes that spell a value. -/
def TomlValue.span : TomlValue → Span
  | .string _ s | .integer _ _ s | .float _ s | .boolean _ s | .datetime _ s
  | .array _ _ s | .table _ _ s => s

/-- One decoded part of a key, with its bytes. -/
abbrev KeyPart := String × Span

/-- The value under a key of a table. -/
def lookupKey (k : String) (t : TomlTable) : Option TomlValue :=
  (t.find? (·.1 == k)).map (·.2)

/-- Replaces the value under a key of a table, keeping its place. -/
def setKey (k : String) (v : TomlValue) (t : TomlTable) : TomlTable :=
  t.map fun e => if e.1 == k then (k, v) else e

/-- Removes a key from a table. -/
def removeKey (k : String) (t : TomlTable) : TomlTable :=
  t.filter (·.1 != k)

/-- The complaint about a key that breaks the table rules. -/
def duplicateKey (sp : Span) : TomlError := ⟨"duplicate key", sp⟩

/-- A table with its kind, as the table rules see it. -/
abbrev KindedTable := TomlTable × TableKind

/-- Applies `f` to the table reached from `t` along `path`. Missing tables on the way are
made with kind `made`, spelled by their key part; an array of tables is entered at its
newest table. With `dotted`, tables named by headers may not be passed through. -/
def descend (dotted : Bool) (made : TableKind) :
    List KeyPart → (KindedTable → Except TomlError (KindedTable × α)) → KindedTable →
      Except TomlError (KindedTable × α)
  | [], f, t => f t
  | (k, sp) :: rest, f, (es, kind) =>
    match lookupKey k es with
    | none => do
      let ((inner, ik), a) ← descend dotted made rest f ([], made)
      pure ((es ++ [(k, .table inner ik sp)], kind), a)
    | some (.table inner tk tsp) =>
      if tk = .inline || (dotted && tk = .header) then throw (duplicateKey sp)
      else do
        let ((inner, ik), a) ← descend dotted made rest f (inner, tk)
        pure ((setKey k (.table inner ik tsp) es, kind), a)
    | some (.array items true asp) =>
      match items.getLast? with
      | some (.table inner tk tsp) => do
        let ((inner, ik), a) ← descend dotted made rest f (inner, tk)
        pure ((setKey k (.array (items.dropLast ++ [.table inner ik tsp]) true asp) es, kind), a)
      | _ => throw (duplicateKey sp)
    | some _ => throw (duplicateKey sp)

/-- Puts a value under a dotted key of a table: the parts before the last go through (or
make) dotted tables, and the last must be new there. -/
def assignKey (path : List KeyPart) (key : KeyPart) (v : TomlValue) (t : KindedTable) :
    Except TomlError KindedTable := do
  let (t, ()) ← descend true .dotted path (fun (es, kind) =>
    if (kind = .dotted) = path.isEmpty then throw (duplicateKey key.2)
    else if (lookupKey key.1 es).isSome then throw (duplicateKey key.2)
    else pure ((es ++ [(key.1, v)], kind), ())) t
  pure t

/-- Decodes the parts of a key. -/
def decodeKeyParts (key : List KeyPiece) : Except TomlError (List KeyPart) :=
  key.mapM fun k => do
    let name ← decodeKey k.kind k.piece
    pure (name, k.piece.whole)

/-- A decoded scalar with its bytes. -/
def TomlValue.ofScalar (sp : Span) : Scalar → TomlValue
  | .string s => .string s sp
  | .integer d r => .integer d r sp
  | .float t => .float t sp
  | .boolean b => .boolean b sp
  | .datetime t => .datetime t sp

mutual

/-- Decodes a value as written. -/
def decodeValue : RawValue → Except TomlError TomlValue
  | .scalar kind p => TomlValue.ofScalar p.whole <$> decodeScalar kind p
  | .array items sp => do
    let vs ← decodeItems items
    pure (.array vs false sp)
  | .inline entries sp => do
    let (es, _) ← decodeEntries entries ([], .inline)
    pure (.table es .inline sp)

/-- Decodes the items of an array. -/
def decodeItems : List RawValue → Except TomlError (List TomlValue)
  | [] => pure []
  | v :: vs => do
    let v ← decodeValue v
    let vs ← decodeItems vs
    pure (v :: vs)

/-- Decodes the entries of an inline table into a table. -/
def decodeEntries : List (List KeyPiece × RawValue) → KindedTable →
    Except TomlError KindedTable
  | [], t => pure t
  | (key, v) :: rest, t => do
    let parts ← decodeKeyParts key
    let v ← decodeValue v
    match parts.getLast? with
    | some last => decodeEntries rest (← assignKey parts.dropLast last v t)
    | none => decodeEntries rest t

end

/-- The state of building a document: the root, and the table of the latest header kept
aside with its key, its bytes, and whether it belongs to an array of tables. -/
structure Builder where
  root : TomlTable := []
  current : TomlTable := []
  currentKind : TableKind := .header
  currentSpan : Span := default
  path : List KeyPart := []
  inArray : Bool := false

/-- Puts the table kept aside into the document. -/
def Builder.finish (b : Builder) : Except TomlError Builder := do
  match b.path.getLast? with
  | none => pure { b with root := b.current }
  | some (k, ksp) =>
    let table := TomlValue.table b.current .header b.currentSpan
    let (root, ()) ← descend false .implicit b.path.dropLast (fun (es, kind) =>
      match lookupKey k es with
      | none =>
        if b.inArray then pure ((es ++ [(k, .array [table] true b.currentSpan)], kind), ())
        else pure ((es ++ [(k, table)], kind), ())
      | some (.array items true asp) =>
        if b.inArray then pure ((setKey k (.array (items ++ [table]) true asp) es, kind), ())
        else throw (duplicateKey ksp)
      | some (.table inner .implicit _) =>
        if b.inArray then throw (duplicateKey ksp)
        else pure ((setKey k (.table (b.current ++ inner) .header b.currentSpan) es, kind), ())
      | some _ => throw (duplicateKey ksp)) (b.root, .header)
    pure { b with root := root.1, current := [], path := [] }

/-- Applies one statement. -/
def Builder.apply (b : Builder) : Statement → Except TomlError Builder
  | .assign key v => do
    let parts ← decodeKeyParts key
    let v ← decodeValue v
    match parts.getLast? with
    | none => pure b
    | some last =>
      let (current, kind) ← assignKey parts.dropLast last v (b.current, b.currentKind)
      pure { b with current := current, currentKind := kind }
  | .table key sp => do
    let parts ← decodeKeyParts key
    let b ← b.finish
    match parts.getLast? with
    | none => pure b
    | some (k, ksp) =>
      let (root, taken) ← descend false .implicit parts.dropLast (fun (es, kind) =>
        match lookupKey k es with
        | none => pure ((es, kind), [])
        | some (.table inner .implicit _) => pure ((removeKey k es, kind), inner)
        | some _ => throw (duplicateKey ksp)) (b.root, .header)
      pure { root := root.1, current := taken, currentKind := .header, currentSpan := sp,
             path := parts, inArray := false }
  | .arrayTable key sp => do
    let parts ← decodeKeyParts key
    let b ← b.finish
    match parts.getLast? with
    | none => pure b
    | some (k, ksp) =>
      let (root, ()) ← descend false .implicit parts.dropLast (fun (es, kind) =>
        match lookupKey k es with
        | none => pure ((es ++ [(k, .array [] true sp)], kind), ())
        | some (.array _ true _) => pure ((es, kind), ())
        | some _ => throw (duplicateKey ksp)) (b.root, .header)
      pure { root := root.1, current := [], currentKind := .header, currentSpan := sp,
             path := parts, inArray := true }

/-- Reads a document into its root table. Complaints about the shape (and about comments
and line breaks) come first; then keys and values are decoded and the tables built in the
order of the text. -/
def readDocument (text : String) : Except TomlError TomlTable := do
  let statements ← readShape (tokenize text)
  let b ← statements.foldlM Builder.apply {}
  let b ← b.finish
  pure b.root

end Covenant.Toml
