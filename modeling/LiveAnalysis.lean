import LiveAnalysis.Analysis.Analyzer
import LiveAnalysis.Analysis.Channel
import LiveAnalysis.Analysis.Slot
import LiveAnalysis.Batch
import LiveAnalysis.Command.Help
import LiveAnalysis.Command.Invocation
import LiveAnalysis.Command.Item
import LiveAnalysis.Command.Output
import LiveAnalysis.Config
import LiveAnalysis.Document.Id
import LiveAnalysis.Document.Store
import LiveAnalysis.Document.Version
import LiveAnalysis.Editor.Answer
import LiveAnalysis.Editor.Message
import LiveAnalysis.Editor.Session
import LiveAnalysis.Engine.Activity
import LiveAnalysis.Engine.Basic
import LiveAnalysis.Engine.Turn
import LiveAnalysis.Engine.Waiting
import LiveAnalysis.Engine.Working
import LiveAnalysis.Event
import LiveAnalysis.Json.Printer
import LiveAnalysis.Json.Reader
import LiveAnalysis.Json.Value
import LiveAnalysis.Main
import LiveAnalysis.Refusal
import LiveAnalysis.Report
import LiveAnalysis.Service
import LiveAnalysis.Source.Bracket
import LiveAnalysis.Source.Cursor
import LiveAnalysis.Source.Declaration
import LiveAnalysis.Source.Literal
import LiveAnalysis.Source.Name
import LiveAnalysis.Source.Summary
import LiveAnalysis.Text.Alphanumeric
import LiveAnalysis.Text.Blank
import LiveAnalysis.Text.Block
import LiveAnalysis.Text.Combining
import LiveAnalysis.Text.CombiningClass
import LiveAnalysis.Text.Composed
import LiveAnalysis.Text.Composite
import LiveAnalysis.Text.Decimal
import LiveAnalysis.Text.Digits
import LiveAnalysis.Text.Direction
import LiveAnalysis.Text.Joining
import LiveAnalysis.Text.Lines
import LiveAnalysis.Text.Mark
import LiveAnalysis.Text.Printable
import LiveAnalysis.Text.Quoted
import LiveAnalysis.Text.Ranges
import LiveAnalysis.Text.Split
import LiveAnalysis.Time.Instant
import LiveAnalysis.Time.Span
import LiveAnalysis.Uri.Address
import LiveAnalysis.Uri.Fault
import LiveAnalysis.Uri.Folding
import LiveAnalysis.Uri.Host
import LiveAnalysis.Uri.Label
import LiveAnalysis.Uri.Parser
import LiveAnalysis.Uri.Path
import LiveAnalysis.Uri.Percent
import LiveAnalysis.Uri.Punycode
import LiveAnalysis.Work.Bell
import LiveAnalysis.Work.Gate
import LiveAnalysis.Work.Queue
import LiveAnalysis.Proofs.Queueing
import LiveAnalysis.Proofs.Frames
import LiveAnalysis.Proofs.Turns
import LiveAnalysis.Proofs.Runs
import LiveAnalysis.Proofs.Moves
import LiveAnalysis.Proofs.Provenance
import LiveAnalysis.Proofs.Waits
import LiveAnalysis.Proofs.Work
import LiveAnalysis.Proofs.Updates
import LiveAnalysis.Proofs.Queries
import LiveAnalysis.Proofs.Writes
import LiveAnalysis.Proofs.Analyses
import LiveAnalysis.Proofs.Wakes
import LiveAnalysis.Proofs.Shutdown
import LiveAnalysis.Proofs.Settling
import LiveAnalysis.Proofs.Reference
import LiveAnalysis.Proofs.Mirror
import LiveAnalysis.Proofs.Refinement
import LiveAnalysis.Proofs.Histories
import LiveAnalysis.Proofs.Notices
import LiveAnalysis.Proofs.EventLog
import LiveAnalysis.Proofs.Outlines
import LiveAnalysis.Proofs.Likeness
import LiveAnalysis.Proofs.Parallel
import LiveAnalysis.Proofs.Isolation
import LiveAnalysis.Proofs.Omissions
import LiveAnalysis.Proofs.Abridged
import LiveAnalysis.Proofs.Gates
import LiveAnalysis.Proofs.Observers
import LiveAnalysis.Proofs.Noninterference
import LiveAnalysis.Proofs.Arrivals
import LiveAnalysis.Proofs.Bells
import LiveAnalysis.Proofs.Consumers
import LiveAnalysis.Proofs.Deliveries
import LiveAnalysis.Proofs.Crews
import LiveAnalysis.Proofs.Releases
import LiveAnalysis.Proofs.Quiet
import LiveAnalysis.Proofs.Energy
import LiveAnalysis.Proofs.Batches
import LiveAnalysis.Proofs.Marks
import LiveAnalysis.Proofs.Blanks
import LiveAnalysis.Proofs.Names
import LiveAnalysis.Proofs.Summaries
import LiveAnalysis.Proofs.Occurrences
import LiveAnalysis.Proofs.Cursors
import LiveAnalysis.Proofs.Parameters
import LiveAnalysis.Proofs.Nesting
import LiveAnalysis.Proofs.Definitions
import LiveAnalysis.Proofs.Depths
import LiveAnalysis.Proofs.Calls
import LiveAnalysis.Proofs.Enclosing
import LiveAnalysis.Proofs.Locations
import LiveAnalysis.Proofs.Seams
import LiveAnalysis.Proofs.Publications
import LiveAnalysis.Proofs.Rejections
import LiveAnalysis.Proofs.Settings
