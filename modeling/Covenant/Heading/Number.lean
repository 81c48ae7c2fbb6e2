import Covenant.Heading.Counter
import Covenant.Heading.Style
import Covenant.Text.Lines
/-!
# Numbering header lines

A header line is a level marker (`l` … `lllll` or `l1` … `l5`) after optional spaces and
tabs, then a `.`, then optionally spaces or tabs and a title; trailing spaces and tabs are
not part of the title. Each header line becomes its indentation, its label (the level's
format rendered with the counters after counting this header), a space if both label and
title are non-empty, the title and the line's ending. Other lines, and all lines inside code
fences, stay as they are.
-/

namespace Covenant.Heading

open Covenant.Text

/-- Whether a character is a space or a tab. -/
def isSpaceTab (c : Char) : Bool := c = ' ' || c = '\t'

/-- The level and title of a header line, if it is one. -/
def headerLine? (text : String) : Option (Nat × String) :=
  let cs := text.toList.dropWhile isSpaceTab
  let ls := cs.takeWhile (· = 'l')
  let rest := cs.drop ls.length
  -- The marker is a run of one to five `l`, or one `l` and a digit from 1 to 5.
  let marker : Option (Nat × List Char) :=
    if 1 ≤ ls.length ∧ ls.length ≤ 5 ∧ rest.head? = some '.' then some (ls.length, rest.drop 1)
    else match ls, rest with
      | ['l'], d :: '.' :: r => if '1' ≤ d ∧ d ≤ '5' then some (d.toNat - '0'.toNat, r) else none
      | _, _ => none
  marker.bind fun (level, after) =>
    let body := (after.reverse.dropWhile isSpaceTab).reverse
    match after with
    | [] => some (level, "")
    | c :: _ =>
      if isSpaceTab c then some (level, String.ofList (body.dropWhile isSpaceTab))
      else if body.isEmpty then some (level, "")
      else none

/-- The number of spaces before a header at a level: the step once per level below the
first, counted in 64 bits (a product past the largest 64-bit value wraps around). -/
def indentWidth (level step : Nat) : Nat :=
  (level - 1) * step % Nat.pow 2 64

/-- What a header line at a level becomes, with the counters after counting it: its
indentation, its label (the level's format rendered), a space if both label and title are
non-empty, and the title. -/
def headerText (style : Style) (counters : Counters) (level : Nat) (title : String) : String :=
  let label := counters.render ((style.formats[level - 1]?).getD "") level
  let indented := !style.noIndent && !(style.indentExempt[level - 1]?).getD false
  let indent :=
    if indented then String.ofList (List.replicate (indentWidth level style.indentStep) ' ') else ""
  let sep := if !title.isEmpty && !label.isEmpty then " " else ""
  indent ++ label ++ sep ++ title

/-- Numbers the header lines of a text in a style. -/
def numberHeaders (content : String) (style : Style) : String :=
  String.join (go (lines content) none {})
where
  go : List Line → Option String → Counters → List String
    | [], _, _ => []
    | l :: ls, fence, counters =>
      let (fenced, fence') := fenceStep fence l
      if fenced then l.full :: go ls fence' counters
      else match headerLine? l.text with
        | none => l.full :: go ls fence' counters
        | some (level, title) =>
          let counters := counters.advance level (!style.noReset) style.resetExempt
          (headerText style counters level title ++ l.ending) :: go ls fence' counters

end Covenant.Heading
