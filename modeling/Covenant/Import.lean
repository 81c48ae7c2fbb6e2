import Covenant.FrontMatter
import Covenant.Merge.Policy
import Covenant.Resource.Name
/-!
# Imports

An import directive is a line of its own naming another resource:

```
@import clauses/confidentiality.md
@import "shared/signature block.md"
```

The name may be bare (no blanks), or in double or single quotes; only spaces and tabs may
surround the directive. Lines inside code fences are never directives.

The directive line is replaced by the imported resource's body, itself with its imports
expanded (a body not ending in a line break gets the directive line's ending). The imported
front matter is merged into the importer's metadata, the importer winning conflicts. Names
resolve against the importer's directory. Importing a resource that is already being
expanded is a cycle, and imports nest at most `maxDepth` deep; both are errors, as are a
missing or unreadable resource and, when strict, malformed imported front matter. Warnings
from imported front matter are kept, prefixed with the resource's name.

Every import is reported with its merge statistics, nested imports before their importer.
The library never reads files: resources come from a store the host fills.

Resolution always ends: an import refuses to go deeper once the chain is `maxDepth` long, so
the room left below that limit shrinks with every resource opened.
-/

namespace Covenant

/-- Why a resource could not be read. -/
inductive ResourceError where
  | notFound
  | failed (reason : String)

/-- What a store holds under a name: a text, or the reason reading it fails. -/
inductive Resource where
  | text (s : String)
  | unreadable (reason : String)

/-- Resources by normalized name. -/
structure ResourceStore where
  entries : List (String × Resource) := []

/-- Stores a resource under its normalized name, replacing one stored there before. -/
def ResourceStore.insert (st : ResourceStore) (name : String) (r : Resource) : ResourceStore :=
  let key := Resource.resolveName none name
  { entries := (st.entries.filter (·.1 ≠ key)) ++ [(key, r)] }

/-- Reads a resource by its normalized name. -/
def ResourceStore.read (st : ResourceStore) (name : String) : Except ResourceError String :=
  match st.entries.lookup name with
  | some (.text s) => .ok s
  | some (.unreadable r) => .error (.failed r)
  | none => .error .notFound

/-- How imports are resolved. -/
structure ImportOptions where
  mergeMetadata : Bool := true
  maxDepth : Nat := 10
  merge : Merge.Options := {}
  strictMetadata : Bool := false

/-- What happened to one imported resource. -/
structure ImportReport where
  path : String
  importer : Option String
  stats : Merge.Stats

/-- The reports and warnings gathered while resolving. -/
structure ImportLog where
  reports : List ImportReport := []
  warnings : List String := []

/-- Resolving steps. -/
abbrev ImportM := StateT ImportLog (Except DocError)

/-- Spaces and tabs. -/
def isSpaceTab (c : Char) : Bool := c = ' ' || c = '\t'

/-- The name in quotes `q` at the start, if only spaces and tabs follow the closing quote. -/
def quotedName? (q : Char) : List Char → Option (List Char)
  | c :: body =>
    if c ≠ q then none
    else
      let name := body.takeWhile (· ≠ q)
      match body.drop name.length with
      | _ :: after => if !name.isEmpty && after.all isSpaceTab then some name else none
      | [] => none
  | [] => none

/-- The resource an import line names, if the line is a directive. -/
def importName? (line : String) : Option String :=
  match line.toList.dropWhile isSpaceTab with
  | '@' :: 'i' :: 'm' :: 'p' :: 'o' :: 'r' :: 't' :: rest =>
    let gap := rest.takeWhile isSpaceTab
    if gap.isEmpty then none
    else
      let r := rest.drop gap.length
      let bare := r.takeWhile (fun c => !Text.isBlank c)
      let name := (quotedName? '"' r).orElse fun _ => (quotedName? '\'' r).orElse fun _ =>
        if !bare.isEmpty && (r.drop bare.length).all isSpaceTab then some bare else none
      name.map String.ofList
  | _ => none

/-- A line of a body as the resolver reads it: copied as it is, or a directive naming a
resource, with the directive line's ending. -/
inductive Piece where
  | verbatim (s : String)
  | directive (name ending : String)

/-- The pieces of a body, line by line; lines inside code fences are copied. -/
def pieces (content : String) : List Piece :=
  go (Text.lines content) none
where
  go : List Text.Line → Option String → List Piece
    | [], _ => []
    | l :: ls, fence =>
      let (verbatim, fence') := Text.fenceStep fence l
      if verbatim then .verbatim l.full :: go ls fence'
      else match importName? l.text with
        | none => .verbatim l.full :: go ls fence'
        | some name => .directive name l.ending :: go ls fence'

/-- The metadata after one import: merged with the imported metadata, when merging is on. -/
def ImportOptions.mergeInto (opts : ImportOptions) (m child : Metadata) :
    Except DocError (Metadata × Merge.Stats) :=
  if opts.mergeMetadata then Merge.merge m child opts.merge else pure (m, {})

mutual

/-- Expands the directives of one resource's body; `importer` is the resource's name
(none for the document itself) and `chain` the resources being expanded, outermost first. -/
def expandImports (store : ResourceStore) (opts : ImportOptions) (content : String)
    (m : Metadata) (importer : Option String) (chain : List String) :
    ImportM (String × Metadata) :=
  expandPieces store opts (pieces content) "" m importer chain
termination_by (opts.maxDepth - chain.length, 2, 0)

/-- Expands pieces in order, appending to the output `out` and merging into `m`. -/
def expandPieces (store : ResourceStore) (opts : ImportOptions) :
    List Piece → String → Metadata → Option String → List String → ImportM (String × Metadata)
  | [], out, m, _, _ => pure (out, m)
  | .verbatim s :: ps, out, m, importer, chain =>
    expandPieces store opts ps (out ++ s) m importer chain
  | .directive name ending :: ps, out, m, importer, chain => do
    let path := Resource.resolveName importer name
    let (body, child) ← importResource store opts path chain
    let (m, stats) ← opts.mergeInto m child
    modify fun log => { log with reports := log.reports ++ [⟨path, importer, stats⟩] }
    let tail := if !body.isEmpty && !body.endsWith "\n" then ending else ""
    expandPieces store opts ps (out ++ body ++ tail) m importer chain
termination_by ps _ _ _ chain => (opts.maxDepth - chain.length, 1, ps.length)

/-- Reads, parses and expands one imported resource. -/
def importResource (store : ResourceStore) (opts : ImportOptions) (path : String)
    (chain : List String) : ImportM (String × Metadata) :=
  if chain.contains path then throw (.importCycle path (" -> ".intercalate (chain ++ [path])))
  else if _h : opts.maxDepth ≤ chain.length then throw (.importDepthExceeded path opts.maxDepth)
  else do
    let text ← match store.read path with
      | .ok t => pure t
      | .error .notFound => throw (.importNotFound path)
      | .error (.failed r) => throw (.importRead path r)
    let parsed ← parseFrontMatter text opts.strictMetadata
    modify fun log => { log with warnings := log.warnings ++ parsed.warnings.map (path ++ ": " ++ ·) }
    expandImports store opts parsed.body parsed.metadata (some path) (chain ++ [path])
termination_by (opts.maxDepth - chain.length, 0, 0)
decreasing_by
  rw [List.length_append, List.length_singleton]
  exact Prod.Lex.left _ _ (Nat.sub_lt_sub_left (Nat.lt_of_not_le _h) (Nat.lt_succ_self _))

end

/-- The result of resolving imports. -/
structure ResolvedImports where
  content : String
  metadata : Metadata
  reports : List ImportReport
  warnings : List String

/-- Inlines every import of a document and merges the imported metadata into its own. -/
def resolveImports (content : String) (m : Metadata) (store : ResourceStore) (opts : ImportOptions) :
    Except DocError ResolvedImports := do
  let ((out, m), log) ← (expandImports store opts content m none []).run {}
  pure ⟨out, m, log.reports, log.warnings⟩

end Covenant
