/-!
# YAML tokens and syntax errors

Positions in YAML text count characters: `index` from the start, `line` and `column` from
zero (a `\r\n` pair is two characters of one line break); `offset` counts the UTF-8 bytes
from the start, which is how far back a simple key may begin. A syntax error names its problem
and where it was found, and usually what was being read when it happened and where that
started; its message gives positions counted from one and leaves out a position that is
the very start of the text.
-/

namespace Covenant.Yaml

/-- A position in YAML text. -/
structure Mark where
  index : Nat := 0
  line : Nat := 0
  column : Nat := 0
  offset : Nat := 0
deriving Repr, DecidableEq, Inhabited

/-- `line L column C`, counted from one. -/
def Mark.describe (m : Mark) : String :=
  "line " ++ toString (m.line + 1) ++ " column " ++ toString (m.column + 1)

/-- Whether a mark is the very start of the text (line and column zero). -/
def Mark.isOrigin (m : Mark) : Bool := m.line = 0 && m.column = 0

/-- How a scalar was written. -/
inductive ScalarStyle where
  | plain
  | singleQuoted
  | doubleQuoted
  | literal
  | folded
deriving Repr, DecidableEq, Inhabited

/-- The kinds of YAML token. -/
inductive TokenKind where
  | streamStart
  | streamEnd
  | versionDirective (major minor : Nat)
  | tagDirective (handle pfx : String)
  | documentStart
  | documentEnd
  | blockSequenceStart
  | blockMappingStart
  | blockEnd
  | flowSequenceStart
  | flowSequenceEnd
  | flowMappingStart
  | flowMappingEnd
  | blockEntry
  | flowEntry
  | key
  | value
  | alias (name : String)
  | anchor (name : String)
  | tag (handle suffix : String)
  | scalar (text : String) (style : ScalarStyle)
deriving Repr, DecidableEq, Inhabited

/-- A token with the marks of its first character and of the character after it. -/
structure Token where
  kind : TokenKind
  start : Mark
  stop : Mark
deriving Repr, DecidableEq, Inhabited

/-- A syntax error of YAML text. -/
structure SyntaxError where
  problem : String
  problemMark : Mark
  context : Option (String × Mark) := none
deriving Repr, DecidableEq, Inhabited

/-- `problem at line L column C, context at line L column C`, where a position is left out
when it is the start of the text, and the context's position also when it equals the
problem's. -/
def SyntaxError.message (e : SyntaxError) : String :=
  let head := e.problem ++ (if e.problemMark.isOrigin then "" else " at " ++ e.problemMark.describe)
  match e.context with
  | none => head
  | some (ctx, m) =>
    let sameSpot := m.line = e.problemMark.line && m.column = e.problemMark.column
    head ++ ", " ++ ctx ++ (if m.isOrigin || sameSpot then "" else " at " ++ m.describe)

end Covenant.Yaml
