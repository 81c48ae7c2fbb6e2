import Covenant.Text.Blank
/-!
# Lines and code fences

A document is read line by line, each line keeping its ending (`\n`, `\r\n`, or none on the
last line), so that a line-wise edit that changes nothing gives the text back.

Lines between code fences are never changed. A fence opens at a line that, after leading
blanks, starts with three backticks or three tildes, and closes at the next line that, after
leading blanks, starts with the same three characters.
-/

namespace Covenant.Text

/-- A line of a document: its text and the line-ending characters after it. -/
structure Line where
  text : String
  ending : String
deriving Repr, DecidableEq

/-- The whole line, ending included. -/
def Line.full (l : Line) : String := l.text ++ l.ending

/-- Splits a line's characters into text and its trailing run of `\r` and `\n`. -/
def Line.ofChars (cs : List Char) : Line :=
  let rev := cs.reverse
  let ending := rev.takeWhile (fun c => c = '\n' ∨ c = '\r')
  ⟨String.ofList (rev.drop ending.length).reverse, String.ofList ending.reverse⟩

/-- The lines of a text, each with its `\n`; the last may lack one, and an empty text has no
lines. -/
def lines (s : String) : List Line :=
  go s.toList []
where
  go : List Char → List Char → List Line
    | [], [] => []
    | [], cur => [Line.ofChars cur.reverse]
    | c :: cs, cur => if c = '\n' then Line.ofChars (c :: cur).reverse :: go cs [] else go cs (c :: cur)

/-- The lines of a text without their endings: the text is cut after each `\n`, and each
piece loses its `\n` and then one `\r` before it. An empty text has no lines, and a final
`\n` does not start another. -/
def plainLines (s : String) : List String :=
  go s.toList []
where
  go : List Char → List Char → List String
    | [], [] => []
    | [], cur => [String.ofList cur.reverse]
    | c :: cs, cur =>
      if c = '\n' then
        String.ofList (match cur with
          | '\r' :: r => r.reverse
          | r => r.reverse) :: go cs []
      else go cs (c :: cur)

/-- The fence marker a line opens with, if any. -/
def fenceOpener? (l : Line) : Option String :=
  let t := trimStart l.text
  if t.startsWith "```" then some "```" else if t.startsWith "~~~" then some "~~~" else none

/-- One step of fence tracking: whether the line is kept verbatim as part of a fence, and the
fence open after it. -/
def fenceStep (fence : Option String) (l : Line) : Bool × Option String :=
  match fence with
  | some marker => (true, if (trimStart l.text).startsWith marker then none else some marker)
  | none => match fenceOpener? l with
    | some marker => (true, some marker)
    | none => (false, none)

end Covenant.Text
