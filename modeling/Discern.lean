import Discern.Configuration.Builder
import Discern.Detection.Description
import Discern.Main
import Discern.Signature.Cursor
import Discern.Proofs.Signature.Row
import Discern.Proofs.Library.Preparation
import Discern.Proofs.Signature.Placement
import Discern.Proofs.Signature.Occurrence
import Discern.Proofs.Classification.Resolution
import Discern.Proofs.Classification.Verdict
import Discern.Proofs.Classification.Priority
import Discern.Proofs.Detection.Layers
import Discern.Proofs.Detection.Outcome
import Discern.Proofs.Stream.Buffer
import Discern.Proofs.Stream.Restoration
import Discern.Proofs.Detection.Content
import Discern.Proofs.Decoder.Output
import Discern.Proofs.Decoder.Base64
import Discern.Proofs.Stream.Budget
import Discern.Proofs.Stream.Overflow
import Discern.Proofs.Detection.ReadLimit
import Discern.Proofs.Engine.ReadLimit
import Discern.Proofs.Detection.LimitedLook
import Discern.Proofs.Stream.History
import Discern.Proofs.Glob.Reach
import Discern.Proofs.Glob.Below
import Discern.Proofs.Exclusion.Pruning
import Discern.Proofs.Glob.Inside
import Discern.Proofs.Exclusion.DirectoryRule
import Discern.Proofs.Text.Numeral
import Discern.Proofs.Text.Utf8
import Discern.Proofs.Pattern.Token
import Discern.Proofs.Pattern.Grammar
import Discern.Proofs.Pattern.Rendering
import Discern.Proofs.Pattern.LoneGap
import Discern.Proofs.Pattern.Spacing
import Discern.Proofs.Pattern.Cursor
import Discern.Proofs.Pattern.GapError
import Discern.Proofs.Library.Validation
import Discern.Proofs.Classification.Rearrangement
import Discern.Proofs.Detection.Truncation
import Discern.Proofs.Detection.Heedlessness
import Discern.Proofs.Stream.LimitedView
import Discern.Proofs.Detection.Chunking
import Discern.Proofs.Detection.Agreement
import Discern.Proofs.Library.Document
import Discern.Proofs.Document.Record
import Discern.Proofs.Rule.LiteralGrammar
import Discern.Proofs.Rule.Literal
import Discern.Proofs.Rule.TableLine
import Discern.Proofs.Rule.Table
import Discern.Proofs.Source.Contents
import Discern.Proofs.Classification.Merging
import Discern.Proofs.Rule.SharedRead
import Discern.Proofs.Stream.Twins
import Discern.Proofs.Detection.Observation
import Discern.Proofs.Detection.Isolation
import Discern.Proofs.Rule.Base64
import Discern.Proofs.Decoder.LineLength
import Discern.Proofs.Stream.CutFault
import Discern.Proofs.Detection.Builder
import Discern.Proofs.Files.PathOrder
import Discern.Proofs.Report.Arrival
import Discern.Signature.Indexed
import Discern.Proofs.Signature.Indices
import Discern.Proofs.Signature.DeadEnds
