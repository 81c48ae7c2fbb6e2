import Covenant.Error
import Covenant.Template.Split
import Covenant.Text.Blank
/-!
# Template blocks

A tag is one of:

* a comment `{{! … }}`, which is dropped;
* `{{else}}`, which switches the innermost open block to its alternative;
* a closing tag `{{/name}}`;
* an opening tag `{{#each …}}`, `{{#if …}}` or `{{#unless …}}`, whose argument is the text
  after the first blank;
* otherwise an expression, the trimmed text between the braces.

The block tree of a text nests each opening tag with the nodes up to its closing tag. A
closing tag or `{{else}}` with no open block to apply to stays as text. A closing tag whose
name is not the innermost open block's, and an opening tag never closed, are errors.
-/

namespace Covenant.Template

/-- The kinds of block. -/
inductive BlockKind where
  | each
  | cond
  | unless
deriving DecidableEq, Repr

/-- The name of a block kind in tags. -/
def BlockKind.name : BlockKind → String
  | .each => "each"
  | .cond => "if"
  | .unless => "unless"

/-- The kind a tag name opens. -/
def BlockKind.ofName? : String → Option BlockKind
  | "each" => some .each
  | "if" => some .cond
  | "unless" => some .unless
  | _ => none

/-- What one tag does. -/
inductive Tag where
  | opening (kind : BlockKind) (argument : String)
  | otherwise
  | closing (name : String)
  | comment
  | expression (source : String)

/-- The text between `{{` and `}}`, or the whole text when it is not so enclosed. -/
def tagInner (raw : String) : String :=
  let cs := raw.toList
  match cs with
  | '{' :: '{' :: rest =>
    if rest.length ≥ 2 && rest.drop (rest.length - 2) = ['}', '}'] then
      String.ofList (rest.take (rest.length - 2))
    else raw
  | _ => raw

/-- Classifies a tag from its full text. -/
def classifyTag (raw : String) : Tag :=
  let inner := Text.trim (tagInner raw)
  match inner.toList with
  | '!' :: _ => .comment
  | '/' :: name => .closing (Text.trim (String.ofList name))
  | '#' :: opening =>
    let name := opening.takeWhile (fun c => !Text.isBlank c)
    let argument := match opening.drop name.length with
      | _ :: rest => String.ofList rest
      | [] => ""
    match BlockKind.ofName? (String.ofList name) with
    | some kind => .opening kind (Text.trim argument)
    | none => .expression inner
  | _ => if inner = "else" then .otherwise else .expression inner

mutual

/-- A node of a template. -/
inductive Node where
  | text (s : String)
  | expression (raw source : String)
  | block (b : Block)

/-- A block: its kind and argument, its opening tag, its body, and the nodes after its
`{{else}}`. -/
inductive Block where
  | mk (kind : BlockKind) (argument opening : String) (body otherwise : List Node)

end

/-- The kind of a block. -/
def Block.kind : Block → BlockKind
  | .mk k .. => k

/-- The argument of a block. -/
def Block.argument : Block → String
  | .mk _ a .. => a

/-- The opening tag of a block. -/
def Block.opening : Block → String
  | .mk _ _ o .. => o

/-- The body of a block. -/
def Block.body : Block → List Node
  | .mk _ _ _ b _ => b

/-- The nodes after a block's `{{else}}`. -/
def Block.otherwise : Block → List Node
  | .mk _ _ _ _ o => o

/-- A block still open while the tree is built: its parts so far (in reverse) and whether
its `{{else}}` has been seen. -/
structure OpenBlock where
  kind : BlockKind
  argument : String
  opening : String
  body : List Node := []
  otherwise : List Node := []
  inElse : Bool := false

/-- Adds a node to the open block's current branch. -/
def OpenBlock.add (b : OpenBlock) (n : Node) : OpenBlock :=
  if b.inElse then { b with otherwise := n :: b.otherwise } else { b with body := n :: b.body }

/-- The finished block. -/
def OpenBlock.close (b : OpenBlock) : Block :=
  .mk b.kind b.argument b.opening b.body.reverse b.otherwise.reverse

/-- The tree being built: the finished top-level nodes (in reverse) and the open blocks,
innermost first. -/
structure Building where
  root : List Node := []
  stack : List OpenBlock := []

/-- Adds a node where it belongs: to the innermost open block, or to the top level. -/
def Building.add (st : Building) (n : Node) : Building :=
  match st.stack with
  | b :: bs => { st with stack := b.add n :: bs }
  | [] => { st with root := n :: st.root }

/-- Takes one segment of the text into the tree. -/
def Building.step (st : Building) (seg : String × Bool) : Except DocError Building :=
  let (text, isTag) := seg
  if !isTag then .ok (st.add (.text text))
  else match classifyTag text with
    | .comment => .ok st
    | .expression source => .ok (st.add (.expression text source))
    | .opening kind argument => .ok { st with stack := { kind, argument, opening := text } :: st.stack }
    | .otherwise =>
      match st.stack with
      | b :: bs => if !b.inElse then .ok { st with stack := { b with inElse := true } :: bs }
        else .ok (st.add (.text text))
      | [] => .ok (st.add (.text text))
    | .closing name =>
      match st.stack with
      | [] => .ok { st with root := .text text :: st.root }
      | b :: bs =>
        if b.kind.name ≠ name then .error (.mismatchedBlock b.kind.name text)
        else .ok ({ st with stack := bs }.add (.block b.close))

/-- The block tree of a text. -/
def parseTemplate (content : String) : Except DocError (List Node) := do
  let st ← (splitExpressions content).foldlM Building.step {}
  match st.stack with
  | b :: _ => throw (.unclosedBlock b.kind.name b.opening)
  | [] => pure st.root.reverse

end Covenant.Template
