import Covenant.Decimal.Binary
import Covenant.Decimal.Layout
import Covenant.Decimal.Read
import Covenant.Value
import Covenant.Calendar.Format
import Covenant.Calendar.Offset
import Covenant.Heading.Number
import Covenant.Merge.Policy
import Covenant.Value.Json
import Covenant.Text.NumberWords
import Covenant.Resource.Name
import Covenant.Options.Force
import Covenant.Yaml.Scanner
import Covenant.Yaml.Event
import Covenant.FrontMatter
import Covenant.Clause.Resolve
import Covenant.Reference
import Covenant.Template.Render
import Covenant.Template.Notation
import Covenant.Import
import Covenant.Pipeline
import Covenant.Options.Load
import Covenant.Proofs.Heading.Counting
import Covenant.Proofs.Merge.DestinationWins
import Covenant.Proofs.Template.Termination
import Covenant.Proofs.Merge.Result
import Covenant.Proofs.Merge.Idempotent
import Covenant.Proofs.FrontMatter.WellFormed
import Covenant.Proofs.Import.Graph
import Covenant.Proofs.Import.Steps
import Covenant.Proofs.Import.Acyclic
import Covenant.Proofs.Import.Metadata
import Covenant.Proofs.Template.Tags
import Covenant.Proofs.Template.TrueBlock
import Covenant.Proofs.Template.Independence
import Covenant.Proofs.Template.Cycles
import Covenant.Proofs.Pipeline.Rerun
import Covenant.Proofs.Tracking.Spans
import Covenant.Proofs.Tracking.ReadBack
import Covenant.Proofs.Clause.Chain
import Covenant.Proofs.Template.Tree
import Covenant.Proofs.Template.Loop
import Covenant.Proofs.Clause.Resolution
import Covenant.Proofs.Heading.Frame
import Covenant.Proofs.Heading.Idempotent
import Covenant.Proofs.Template.Lexing
import Covenant.Proofs.Template.Replay
import Covenant.Proofs.Template.Notations
import Covenant.Proofs.Heading.Numerals
import Covenant.Proofs.Text.NumberWords
import Covenant.Proofs.Calendar.Iso
import Covenant.Proofs.Calendar.FormatScan
import Covenant.Proofs.Decimal.Bits
import Covenant.Proofs.Decimal.Whole
import Covenant.Proofs.Template.Amounts
import Covenant.Proofs.Template.References
import Covenant.Proofs.Resource.Names
import Covenant.Proofs.Options.Directive
import Covenant.Proofs.Reference.Passes
import Covenant.Proofs.Heading.Indent
import Covenant.Proofs.Template.Segments
