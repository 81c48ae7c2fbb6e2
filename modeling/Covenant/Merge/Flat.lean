import Covenant.Value
import Covenant.Error
/-!
# Flat metadata

Flattening turns nested metadata into a list of leaf paths: the keys along the way joined by
`.`, where a literal `.` in a key is written `\.` and a literal `\` is written `\\`. Every
non-empty mapping is walked into; sequences, empty mappings and scalars are leaves. Nesting
deeper than 64 levels is refused.

Unflattening rebuilds the tree path by path; the first leaf written at a place wins, and a
leaf whose way passes through a non-mapping is dropped.
-/

namespace Covenant.Merge

/-- The deepest nesting that flattening accepts. -/
def maxDepth : Nat := 64

/-- A key as one segment of a path: `\` and `.` are escaped with a backslash. -/
def escapeSegment (key : String) : String :=
  String.join (key.toList.map fun c =>
    if c = '\\' then "\\\\" else if c = '.' then "\\." else String.singleton c)

/-- The keys along a path: an unescaped `.` separates them and a backslash takes the next
character literally (a backslash at the end vanishes). -/
def splitPath (path : String) : List String :=
  go path.toList [] []
where
  go : List Char → List Char → List String → List String
    | [], cur, acc => (String.ofList cur.reverse :: acc).reverse
    | '\\' :: c :: rest, cur, acc => go rest (c :: cur) acc
    | ['\\'], cur, acc => go [] cur acc
    | '.' :: rest, cur, acc => go rest [] (String.ofList cur.reverse :: acc)
    | c :: rest, cur, acc => go rest (c :: cur) acc

/-- The proper prefixes of a path, ending before each unescaped `.`. -/
def properPrefixes (path : String) : List String :=
  go path.toList [] false []
where
  -- `seen` is the part read so far (reversed), `escaped` whether the last backslash run is odd.
  go : List Char → List Char → Bool → List String → List String
    | [], _, _, acc => acc.reverse
    | c :: rest, seen, escaped, acc =>
      if c = '.' ∧ !escaped then go rest (c :: seen) false (String.ofList seen.reverse :: acc)
      else if c = '\\' then go rest (c :: seen) (!escaped) acc
      else go rest (c :: seen) false acc

mutual

/-- Adds the leaves of a value at a path; checks the budget, then the depth. -/
def flattenValue (budget : Budget) (path : String) (depth : Nat) (v : Value) (flat : Entries) :
    Except DocError Entries :=
  if budget.spent then .error (.mergeTimeout path budget.ms)
  else if depth > maxDepth then .error (.metadataTooDeep path maxDepth)
  else match v with
    | .obj (e :: es) => flattenEntries budget path (depth + 1) (e :: es) flat
    | _ => .ok (Entries.insert flat path v)

/-- Adds the leaves of each entry of a mapping at `path`. -/
def flattenEntries (budget : Budget) (path : String) (depth : Nat) :
    List (String × Value) → Entries → Except DocError Entries
  | [], flat => .ok flat
  | (k, v) :: rest, flat => do
    let flat ← flattenValue budget (path ++ "." ++ escapeSegment k) depth v flat
    flattenEntries budget path depth rest flat

end

/-- The leaves of metadata by path, in order. -/
def flattenWith (budget : Budget) (m : Metadata) : Except DocError Entries :=
  m.foldlM (fun flat (k, v) => flattenValue budget (escapeSegment k) 1 v flat) []

/-- The leaves of metadata by path, with no time limit. -/
def flatten (m : Metadata) : Except DocError Entries :=
  flattenWith ⟨5000⟩ m

/-- Writes a value at a list of keys, creating mappings on the way; returns `none` when the
way passes through a non-mapping. An existing key at the end is kept. -/
def place (es : Entries) (v : Value) : List String → Option Entries
  | [] => some es
  | [k] => some (if Entries.contains es k then es else Entries.insert es k v)
  | k :: rest =>
    match Entries.get? es k with
    | none => (place [] v rest).map fun inner => Entries.insert es k (.obj inner)
    | some (.obj inner) => (place inner v rest).map fun inner' => Entries.insert es k (.obj inner')
    | some _ => none

/-- Rebuilds nested metadata from leaf paths; the first writer wins. -/
def unflatten (flat : Entries) : Metadata :=
  flat.foldl (fun root (path, v) => (place root v (splitPath path)).getD root) []

end Covenant.Merge
