/-!
# TOML documents: places and complaints

A complaint about a settings document names what is wrong and, where the reader knows it,
what would have been right, and it points at a range of bytes of the document. This module
holds those two notions and lays a complaint out as a report:

1. a header with the line and the column of the first byte concerned;
2. the offending line behind a gutter wide enough for the line number;
3. a row of carets under the bytes concerned, at least one and never past the line's end;
4. the message.

Columns count characters; an offset inside a character counts bytes from the line's start,
and an offset at the end of the text is placed right after its last character.
-/

namespace Covenant.Toml

/-- A range of bytes of the source text, `start` included and `stop` excluded. -/
structure Span where
  start : Nat
  stop : Nat
deriving Repr, DecidableEq, Inhabited

/-- The empty range at an offset. -/
def Span.at (offset : Nat) : Span := ⟨offset, offset⟩

/-- The number of bytes of some characters. -/
def byteCount (cs : List Char) : Nat := cs.foldl (fun n c => n + c.utf8Size) 0

/-- The range of bytes that some characters take when they start at `start`. -/
def Span.ofChars (start : Nat) (cs : List Char) : Span := ⟨start, start + byteCount cs⟩

/-- A complaint about a document, with the bytes it concerns. -/
structure TomlError where
  message : String
  span : Span
deriving Repr

/-- A complaint that says what was wrong and what was expected instead; an empty list of
expectations reads "expected nothing". -/
def TomlError.expecting (what : String) (expected : List String) (span : Span) : TomlError :=
  let wanted := if expected.isEmpty then "nothing" else ", ".intercalate expected
  ⟨what ++ ", expected " ++ wanted, span⟩

/-- A literal text in a list of expectations, between backticks. -/
def ticked (s : String) : String := "`" ++ s ++ "`"

/-- The expectations of a bare key. -/
def bareKeyExpected : List String := ["letters", "numbers", ticked "-", ticked "_"]

/-! ## Reporting -/

/-- The zero-based line and column of a byte offset. The column counts characters, or bytes
when the offset falls inside a character; an offset at or past the end of the text is placed
after its last character. -/
def position (text : String) (index : Nat) : Nat × Nat :=
  let size := text.utf8ByteSize
  if size = 0 then (0, index)
  else
    let safe := min index (size - 1)
    let (line, column) := go safe text.toList 0 0 0 0
    (line, column + (index - safe))
where
  go (safe : Nat) : List Char → (pos line lineStart column : Nat) → Nat × Nat
    | [], _, line, _, column => (line, column)
    | c :: cs, pos, line, lineStart, column =>
      let w := c.utf8Size
      if safe < pos + w then
        (line, if safe + 1 = pos + w then column else safe - lineStart)
      else if c = '\n' then go safe cs (pos + w) (line + 1) (pos + w) 0
      else go safe cs (pos + w) line lineStart (column + 1)

/-- `n` copies of a character. -/
def repeated (n : Nat) (c : Char) : String := String.ofList (List.replicate n c)

/-- The report of a complaint against the text it is about: where it is, the line with a
gutter, carets under the bytes concerned (at least one, and no further than the line's
end), and the message. -/
def TomlError.render (e : TomlError) (text : String) : String :=
  let (line, column) := position text e.span.start
  let number := toString (line + 1)
  let content := (text.splitOn "\n").getD line ""
  let width := min (e.span.stop - e.span.start) (content.utf8ByteSize - column)
  let pad := repeated (number.length + 1) ' '
  "TOML parse error at line " ++ number ++ ", column " ++ toString (column + 1) ++ "\n" ++
    pad ++ "|\n" ++
    number ++ " | " ++ content ++ "\n" ++
    pad ++ "|" ++ repeated (column + 1) ' ' ++ "^" ++ repeated (width - 1) '^' ++ "\n" ++
    e.message ++ "\n"

end Covenant.Toml
