import Covenant.Merge.Flat
/-!
# Merging imported metadata

Metadata of an imported resource is merged into the importer's, and the importer always
wins. Both sides are flattened to leaf paths. A source leaf is added only if the destination
has no leaf at the same path, no leaf below it, and no leaf above it; otherwise it is a
conflict. Same-path collisions of incompatible kinds are also recorded as type conflicts.

Reserved keys, which steer structure, output or security, are never imported: they are
removed from the top level of the source first (matching ignores ASCII case).
-/

namespace Covenant.Merge

/-- Keys that imported resources may not set, in lower case. -/
def reservedFields : List String :=
  ["level-one", "level-two", "level-three", "level-four", "level-five", "level-indent",
   "no-reset", "no-indent", "meta-yaml-output", "meta-json-output", "meta-output-path",
   "meta-include-fields", "output-path", "force_commands", "force-commands", "forcecommands",
   "commands", "locale", "timezone", "pipeline", "pipeline-config", "pipeline_config"]

/-- ASCII lower case of a text. -/
def asciiLower (s : String) : String := String.ofList (s.toList.map Char.toLower)

/-- Whether a key is reserved, ignoring ASCII case. -/
def isReserved (key : String) : Bool :=
  reservedFields.contains (asciiLower key)

/-- How a merge treats its source. -/
structure Options where
  filterReserved : Bool := true
  validateTypes : Bool := true
  budget : Budget := ⟨5000⟩

/-- A same-path collision of incompatible kinds. -/
structure TypeConflict where
  path : String
  existing : ValueKind
  incoming : ValueKind
deriving Repr, DecidableEq

/-- What one merge did, each list in the order of the source's leaves. -/
structure Stats where
  added : List String := []
  conflicts : List String := []
  filtered : List String := []
  typeConflicts : List TypeConflict := []
deriving Repr, DecidableEq

/-- Kinds that may meet at one path: equal kinds, `null` with anything, and a string with a
number or a boolean. -/
def compatible (existing incoming : ValueKind) : Bool :=
  existing == incoming || existing == .null || incoming == .null ||
  (existing == .string && (incoming == .number || incoming == .boolean)) ||
  (incoming == .string && (existing == .number || existing == .boolean))

/-- Merges `source` into `destination`; the destination keeps every leaf it has. -/
def merge (destination source : Metadata) (opts : Options) :
    Except DocError (Metadata × Stats) := do
  let filtered := if opts.filterReserved then (source.filter (isReserved ·.1)).map (·.1) else []
  let source := if opts.filterReserved then source.filter (!isReserved ·.1) else source
  let destFlat ← flattenWith opts.budget destination
  let sourceFlat ← flattenWith opts.budget source
  let interior := destFlat.flatMap (properPrefixes ·.1)
  let step (acc : Entries × Stats) (leaf : String × Value) : Except DocError (Entries × Stats) :=
    let (merged, stats) := acc
    let (path, v) := leaf
    if opts.budget.spent then .error (.mergeTimeout path opts.budget.ms)
    else match Entries.get? destFlat path with
      | some existing =>
        let stats :=
          if opts.validateTypes && !compatible existing.kind v.kind then
            { stats with typeConflicts := stats.typeConflicts ++ [⟨path, existing.kind, v.kind⟩] }
          else stats
        .ok (merged, { stats with conflicts := stats.conflicts ++ [path] })
      | none =>
        if interior.contains path || (properPrefixes path).any (Entries.contains destFlat) then
          .ok (merged, { stats with conflicts := stats.conflicts ++ [path] })
        else
          .ok (Entries.insert merged path v, { stats with added := stats.added ++ [path] })
  let (merged, stats) ← sourceFlat.foldlM step (destFlat, { filtered })
  pure (unflatten merged, stats)

end Covenant.Merge
