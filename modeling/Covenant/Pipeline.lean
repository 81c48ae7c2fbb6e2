import Covenant.Clause.Resolve
import Covenant.Heading.Number
import Covenant.Import
import Covenant.Options.Force
import Covenant.Reference
import Covenant.Template.Notation
import Covenant.Template.Render
/-!
# The document pipeline

A document runs through the stages in order:

1. **metadata** — the front matter is read (strictly if the host asks);
2. **force commands** — a force directive in the metadata overrides host switches, and each
   rejected flag becomes a warning;
3. **imports** — directives are inlined and imported metadata merged;
4. **clauses** — optional clauses are kept or dropped;
5. **cross-references** — `@today` and `|key|` references are replaced;
6. **loops** — the helper notation is checked, then blocks are rendered;
7. **expressions** — the remaining tags are rendered;
8. **headers** — numbered headers are numbered;
9. **field tracking** — markers become spans and a report, when tracking is on.

The host can skip stages 3 to 8 (the notation check runs regardless). The first failing stage
ends the run, its error wrapped with the stage's name.
-/

namespace Covenant

/-- The result of processing a document. -/
structure ProcessedDocument where
  content : String
  metadata : Metadata
  warnings : List String
  imports : List ImportReport
  fields : FieldReport
  helperSyntax : Template.HelperSyntax

/-- The import settings of processing options. -/
def ProcessOptions.importOptions (o : ProcessOptions) : ImportOptions :=
  { mergeMetadata := o.mergeImportMetadata
    maxDepth := o.maxImportDepth
    merge := { filterReserved := true, validateTypes := o.validateImportTypes, budget := ⟨o.mergeTimeoutMs⟩ }
    strictMetadata := o.strictMetadata }

/-- Runs a stage, wrapping its error with the stage. -/
def inStage (s : Stage) (r : Except DocError α) : Except DocError α :=
  r.mapError (·.inStage s)

/-- Processes a document. `today` is the date `@today` stands for when the options fix none. -/
def processDocument (text : String) (host : ProcessOptions) (store : ResourceStore)
    (today : Calendar.Date) : Except DocError ProcessedDocument := do
  let parsed ← inStage .metadata (parseFrontMatter text host.strictMetadata)
  let metadata := parsed.metadata
  let (opts, forceWarnings) := match ForceDirective.ofMetadata? metadata with
    | some d => (d.apply host, d.rejected.map fun f => "force directive flag `" ++ f ++ "` is not allowed")
    | none => (host, [])
  let warnings := parsed.warnings ++ forceWarnings
  let (content, metadata, imports, warnings) ←
    if opts.skip.imports then pure (parsed.body, metadata, [], warnings)
    else do
      let r ← inStage .imports (resolveImports parsed.body metadata store opts.importOptions)
      pure (r.content, r.metadata, r.reports, warnings ++ r.warnings)
  let content := if opts.skip.clauses then content else Clause.resolveClauses content metadata
  let today := opts.today.getD today
  let refs := ReferenceContext.ofMetadata metadata today opts.fieldTracking
  let content := if opts.skip.crossReferences then content else processReferences content metadata refs
  let helperSyntax ← inStage .loops (Template.detectHelperSyntax content)
  let ctx : Template.TemplateContext :=
    { today, locale := refs.locale, dateFormat := refs.dateFormat,
      trackFields := opts.fieldTracking, timeout := ⟨opts.templateTimeoutMs⟩ }
  let content ← if opts.skip.loops then pure content
    else inStage .loops (Template.expandBlocks content metadata ctx)
  let content ← if opts.skip.expressions then pure content
    else inStage .expressions (Template.renderExpressions content metadata ctx)
  let content := if opts.skip.headers then content
    else Heading.numberHeaders content (Heading.Style.ofMetadata metadata opts.noReset opts.noIndent)
  let (content, fields) := if opts.fieldTracking then annotateFields content else (content, {})
  pure { content, metadata, warnings, imports, fields, helperSyntax }

end Covenant
