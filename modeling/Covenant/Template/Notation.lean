import Covenant.Template.Block
import Covenant.Template.Expr
/-!
# Helper-call notation

A document calls helpers either as `helper(a, b)` (the legacy notation) or as `helper a b`,
and must stick to one. The notation of a document is found from its expression tags and the
arguments of its opening block tags; tags that do not parse are ignored. Using both is an
error that quotes the first tag of each kind.
-/

namespace Covenant.Template

/-- The helper-call notation a document uses. -/
inductive HelperSyntax where
  | none
  | legacy
  | modern
deriving DecidableEq, Repr

/-- The notation's name. -/
def HelperSyntax.name : HelperSyntax → String
  | .none => "none"
  | .legacy => "legacy"
  | .modern => "modern"

/-- The expression a tag holds, if it holds one: an expression tag's text or an opening
block tag's argument. -/
def tagSource? (raw : String) : Option String :=
  match classifyTag raw with
  | .expression s => some s
  | .opening _ argument => some argument
  | _ => none

/-- Finds the helper-call notation of a text. -/
def detectHelperSyntax (content : String) : Except DocError HelperSyntax :=
  let found := (splitExpressions content).foldl (fun (acc : Option String × Option String) (seg, isTag) =>
    if !isTag then acc
    else match (tagSource? seg).map parseExpression with
      | some (.ok p) =>
        let (legacy, modern) := acc
        ((if p.styles.legacy then legacy.orElse fun _ => some seg else legacy),
         (if p.styles.modern then modern.orElse fun _ => some seg else modern))
      | _ => acc) (none, none)
  match found with
  | (some l, some m) => .error (.mixedHelperSyntax l m)
  | (some _, none) => .ok .legacy
  | (none, some _) => .ok .modern
  | (none, none) => .ok .none

end Covenant.Template
