/-!
# Resource names

Resources are named by `/`-separated paths. A name is resolved against the directory of the
resource that mentions it (or from the root when it starts with `/`): empty and `.` segments
vanish, and `..` removes the segment before it, if any.

Names are taken apart as character lists, cut at every `/`.
-/

namespace Covenant.Resource

/-- The directory part of a name: everything before its last `/`, or nothing. -/
def directory (name : String) : String :=
  String.ofList ((name.toList.reverse.dropWhile (· ≠ '/')).drop 1).reverse

/-- Applies one segment to a stack of segments (kept last-first): empty and `.` segments
change nothing, and `..` removes the last segment, if there is one. -/
def pushSegment (acc : List (List Char)) (seg : List Char) : List (List Char) :=
  if seg = [] ∨ seg = ['.'] then acc
  else if seg = ['.', '.'] then acc.drop 1
  else seg :: acc

/-- Resolves a name against the resource that mentions it. -/
def resolveName (importer : Option String) (name : String) : String :=
  let base := if name.toList.head? = some '/' then "" else (importer.map directory).getD ""
  let segs := (base.toList.splitOn '/' ++ name.toList.splitOn '/').foldl pushSegment []
  String.ofList (['/'].intercalate segs.reverse)

end Covenant.Resource
