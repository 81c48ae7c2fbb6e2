/-!
# Blank characters

A character is blank when it has the Unicode `White_Space` property: the ASCII tab, line
feed, vertical tab, form feed, carriage return and space, the next-line control `U+0085`,
the no-break space `U+00A0`, the Ogham space mark, the typographic spaces
`U+2000`–`U+200A`, the line and paragraph separators, the narrow no-break space, the medium
mathematical space and the ideographic space `U+3000`. Trimming and splitting at blanks use
this class throughout the library.
-/

namespace Covenant.Text

/-- Whether a character has the Unicode `White_Space` property. -/
def isBlank (c : Char) : Bool :=
  let n := c.toNat
  (0x09 ≤ n && n ≤ 0x0D) || n == 0x20 || n == 0x85 || n == 0xA0 || n == 0x1680 ||
  (0x2000 ≤ n && n ≤ 0x200A) || n == 0x2028 || n == 0x2029 || n == 0x202F ||
  n == 0x205F || n == 0x3000

/-- Drops blank characters from the start. -/
def trimStart (s : String) : String :=
  String.ofList (s.toList.dropWhile isBlank)

/-- Drops blank characters from the end. -/
def trimEnd (s : String) : String :=
  String.ofList (s.toList.reverse.dropWhile isBlank).reverse

/-- Drops blank characters from both ends. -/
def trim (s : String) : String :=
  trimEnd (trimStart s)

/-- Whether a text has only blank characters (or none). -/
def isBlankText (s : String) : Bool :=
  s.toList.all isBlank

/-- The maximal runs of non-blank characters, in order. -/
def words (s : String) : List String :=
  go s.toList [] []
where
  go : List Char → List Char → List String → List String
    | [], cur, acc => (if cur.isEmpty then acc else String.ofList cur.reverse :: acc).reverse
    | c :: cs, cur, acc =>
      if isBlank c then go cs [] (if cur.isEmpty then acc else String.ofList cur.reverse :: acc)
      else go cs (c :: cur) acc

end Covenant.Text
