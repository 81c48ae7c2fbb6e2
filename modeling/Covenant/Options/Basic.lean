import Covenant.Calendar.Date
/-!
# Processing options

What the host decides about processing one document: which stages to skip, the header
switches, field tracking, strict front matter, how imported metadata is merged, the import
depth limit, the time budgets, and the date that `@today` stands for.
-/

namespace Covenant

/-- Stages the host can switch off; metadata and field tracking always run. -/
structure SkipStages where
  imports : Bool := false
  clauses : Bool := false
  crossReferences : Bool := false
  loops : Bool := false
  expressions : Bool := false
  headers : Bool := false
deriving Repr, DecidableEq

/-- Host options for processing one document. -/
structure ProcessOptions where
  skip : SkipStages := {}
  noReset : Bool := false
  noIndent : Bool := false
  fieldTracking : Bool := false
  strictMetadata : Bool := false
  mergeImportMetadata : Bool := true
  validateImportTypes : Bool := true
  maxImportDepth : Nat := 10
  mergeTimeoutMs : Nat := 5000
  templateTimeoutMs : Nat := 5000
  today : Option Calendar.Date := none
deriving Repr, DecidableEq

/-- A switch a document may force through its force directive. -/
inductive ForcedFlag where
  | noReset
  | noIndent
  | fieldTracking
  | strictMetadata
deriving Repr, DecidableEq

namespace ForcedFlag

/-- The flag's name in reports. -/
def name : ForcedFlag → String
  | noReset => "no-reset"
  | noIndent => "no-indent"
  | fieldTracking => "field-tracking"
  | strictMetadata => "strict-metadata"

/-- The flag a name stands for: leading dashes are dropped, ASCII case is ignored and `_`
counts as `-`; `highlight` and `strict` are other names of two flags. -/
def ofName? (raw : String) : Option ForcedFlag :=
  let n := String.ofList ((raw.toList.dropWhile (· = '-')).map fun c =>
    if c = '_' then '-' else c.toLower)
  match n with
  | "no-reset" => some noReset
  | "no-indent" => some noIndent
  | "highlight" | "enable-field-tracking" => some fieldTracking
  | "strict" | "strict-metadata" => some strictMetadata
  | _ => none

end ForcedFlag

/-- Sets one forced switch in the options. -/
def ProcessOptions.force (o : ProcessOptions) : ForcedFlag → Bool → ProcessOptions
  | .noReset, b => { o with noReset := b }
  | .noIndent, b => { o with noIndent := b }
  | .fieldTracking, b => { o with fieldTracking := b }
  | .strictMetadata, b => { o with strictMetadata := b }

end Covenant
