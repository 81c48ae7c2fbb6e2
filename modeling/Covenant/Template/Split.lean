/-!
# Template tags in text

Template tags are written `{{ … }}`. A text splits into plain stretches and tags: a tag runs
from a `{{` to the first `}}` after it, and a `{{` with no `}}` after it is plain text, as is
everything after it.
-/

namespace Covenant.Template

/-- The text before the first occurrence of the pair `a b` and the text after it. -/
def splitAtPair (a b : Char) : List Char → Option (List Char × List Char)
  | [] => none
  | [_] => none
  | c :: d :: rest =>
    if c = a && d = b then some ([], rest)
    else (splitAtPair a b (d :: rest)).map fun (pre, post) => (c :: pre, post)

/-- Splits characters into plain stretches (`false`) and tags (`true`). -/
def splitChars : Nat → List Char → List (List Char × Bool)
  | 0, cs => if cs.isEmpty then [] else [(cs, false)]
  | fuel + 1, cs =>
    match splitAtPair '{' '{' cs with
    | none => if cs.isEmpty then [] else [(cs, false)]
    | some (pre, afterOpen) =>
      match splitAtPair '}' '}' afterOpen with
      | none => [(cs, false)]
      | some (inner, rest) =>
        (if pre.isEmpty then [] else [(pre, false)]) ++
          (['{', '{'] ++ inner ++ ['}', '}'], true) :: splitChars fuel rest

/-- Splits a text into plain stretches (`false`) and `{{ … }}` tags (`true`), in order. -/
def splitExpressions (s : String) : List (String × Bool) :=
  (splitChars s.length s.toList).map fun (cs, tag) => (String.ofList cs, tag)

end Covenant.Template
