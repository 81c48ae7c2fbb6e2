/-!
# Document errors

Everything that can stop the processing of a document, by cause. `DocError.message` gives
the one-line text of each, and `DocError.excerpt` the offending path, key or expression.
A failure inside the pipeline is wrapped once with the stage it happened in; wrapping an
error that already names its stage changes nothing.
-/

namespace Covenant

/-- The stages of the document pipeline, in the order they run. -/
inductive Stage where
  | metadata
  | forceCommands
  | imports
  | clauses
  | crossReferences
  | loops
  | expressions
  | headers
  | fieldTracking
deriving Repr, DecidableEq

/-- The stage's name in messages. -/
def Stage.name : Stage → String
  | .metadata => "metadata"
  | .forceCommands => "force-commands"
  | .imports => "imports"
  | .clauses => "clauses"
  | .crossReferences => "cross-references"
  | .loops => "loops"
  | .expressions => "expressions"
  | .headers => "headers"
  | .fieldTracking => "field-tracking"

/-- Why a document could not be processed. -/
inductive DocError where
  /-- A failure inside a pipeline stage, with the shortened excerpt of its cause. -/
  | stage (s : Stage) (excerpt : String) (source : DocError)
  /-- Front matter that is not a readable mapping. -/
  | metadataParse (reason snippet : String)
  /-- Host options that cannot be read. -/
  | configParse (reason : String)
  | importNotFound (path : String)
  | importRead (path reason : String)
  /-- An import of a resource that is being expanded already; `chain` lists the cycle. -/
  | importCycle (path chain : String)
  | importDepthExceeded (path : String) (limit : Nat)
  | mergeTimeout (path : String) (budgetMs : Nat)
  | metadataTooDeep (path : String) (limit : Nat)
  | templateTimeout (expression : String) (budgetMs : Nat)
  /-- Both helper-call notations in one document: the first of each. -/
  | mixedHelperSyntax (legacy modern : String)
  | unclosedBlock (kind opening : String)
  | mismatchedBlock (expected found : String)
deriving Repr, DecidableEq, Inhabited

namespace DocError

/-- The error's own kind name. -/
def kind : DocError → String
  | stage .. => "Stage"
  | metadataParse .. => "MetadataParse"
  | configParse .. => "ConfigParse"
  | importNotFound .. => "ImportNotFound"
  | importRead .. => "ImportRead"
  | importCycle .. => "ImportCycle"
  | importDepthExceeded .. => "ImportDepthExceeded"
  | mergeTimeout .. => "MergeTimeout"
  | metadataTooDeep .. => "MetadataTooDeep"
  | templateTimeout .. => "TemplateTimeout"
  | mixedHelperSyntax .. => "MixedHelperSyntax"
  | unclosedBlock .. => "UnclosedBlock"
  | mismatchedBlock .. => "MismatchedBlock"

/-- The offending path, key or expression. -/
def excerpt : DocError → String
  | stage _ e _ => e
  | metadataParse _ snippet => snippet
  | configParse reason => reason
  | importNotFound path | importRead path _ | importCycle path _
  | importDepthExceeded path _ | mergeTimeout path _ | metadataTooDeep path _ => path
  | templateTimeout expression _ => expression
  | mixedHelperSyntax legacy _ => legacy
  | unclosedBlock _ opening => opening
  | mismatchedBlock _ found => found

/-- The one-line description of an error. -/
def message : DocError → String
  | stage s e source => s.name ++ " stage failed at `" ++ e ++ "`: " ++ source.message
  | metadataParse reason _ => "failed to parse front matter: " ++ reason
  | configParse reason => "failed to parse options: " ++ reason
  | importNotFound path => "imported resource `" ++ path ++ "` was not found"
  | importRead path reason => "failed to read imported resource `" ++ path ++ "`: " ++ reason
  | importCycle _ chain => "circular import: " ++ chain
  | importDepthExceeded path limit =>
    "imports nested deeper than " ++ toString limit ++ " levels at `" ++ path ++ "`"
  | mergeTimeout path ms =>
    "metadata merge exceeded its " ++ toString ms ++ "ms budget at `" ++ path ++ "`"
  | metadataTooDeep path limit =>
    "metadata nested deeper than " ++ toString limit ++ " levels at `" ++ path ++ "`"
  | templateTimeout expression ms =>
    "template evaluation exceeded its " ++ toString ms ++ "ms budget at `" ++ expression ++ "`"
  | mixedHelperSyntax legacy modern =>
    "document mixes legacy helper calls (`" ++ legacy ++ "`) with space-separated calls (`" ++
      modern ++ "`)"
  | unclosedBlock kind opening => "missing closing tag for `#" ++ kind ++ "` block: `" ++ opening ++ "`"
  | mismatchedBlock expected found => "`" ++ found ++ "` closes a `#" ++ expected ++ "` block"

/-- An excerpt shortened to 80 characters, with `…` after a cut. -/
def shorten (s : String) : String :=
  if s.length ≤ 80 then s else String.ofList (s.toList.take 80) ++ "…"

/-- Wraps an error with the stage it happened in, unless it names a stage already. -/
def inStage (s : Stage) : DocError → DocError
  | e@(stage ..) => e
  | e => stage s (shorten e.excerpt) e

end DocError

/-- A time budget in milliseconds. The library reads no clock: a zero budget counts as spent
at its first check, and any other budget is never spent. -/
structure Budget where
  ms : Nat
deriving Repr, DecidableEq

/-- Whether the budget is spent. -/
def Budget.spent (b : Budget) : Bool := b.ms = 0

end Covenant
