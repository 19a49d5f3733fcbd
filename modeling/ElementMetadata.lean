import ElementMetadata.Command.Arguments
import ElementMetadata.Command.Disk
import ElementMetadata.Command.Failure
import ElementMetadata.Command.Notice
import ElementMetadata.Command.Run
import ElementMetadata.Command.Settings
import ElementMetadata.Decimal.Layout
import ElementMetadata.Decimal.Shortest
import ElementMetadata.Document
import ElementMetadata.Event
import ElementMetadata.Json.Basic
import ElementMetadata.Json.Fault
import ElementMetadata.Json.Number
import ElementMetadata.Json.Parser
import ElementMetadata.Json.Printer
import ElementMetadata.Json.Skip
import ElementMetadata.Json.Token
import ElementMetadata.Log.Directive
import ElementMetadata.Log.FieldTest
import ElementMetadata.Log.Filter
import ElementMetadata.Log.Subject
import ElementMetadata.Metadata
import ElementMetadata.Pattern.Modes
import ElementMetadata.Pattern.Reader
import ElementMetadata.Pattern.Set
import ElementMetadata.Pattern.Sign
import ElementMetadata.Process.DecisionInstance
import ElementMetadata.Process.ElementInstance
import ElementMetadata.Process.Job
import ElementMetadata.Process.ProcessInstance
import ElementMetadata.Process.SearchPage
import ElementMetadata.Process.UserTask
import ElementMetadata.Record.Fault
import ElementMetadata.Record.Form
import ElementMetadata.Record.Table
import ElementMetadata.Resolution
import ElementMetadata.Summary
import ElementMetadata.Text.Alphanumeric
import ElementMetadata.Text.Digits
import ElementMetadata.Text.Literal
import ElementMetadata.Text.Numeral
import ElementMetadata.Text.Runs
import ElementMetadata.Text.Shapeless
import ElementMetadata.Text.Space
import ElementMetadata.Text.Split
import ElementMetadata.Time.Calendar
import ElementMetadata.Time.Distance
import ElementMetadata.Time.OffsetColon
import ElementMetadata.Time.Precision
import ElementMetadata.Time.Timestamp
import ElementMetadata.Toml.Basic
import ElementMetadata.Toml.Parser
import ElementMetadata.Toml.Quoted
import ElementMetadata.Toml.Scalar
import ElementMetadata.Vocabulary
import ElementMetadata.Wire
import ElementMetadata.Proofs.Record.Form
import ElementMetadata.Proofs.Json.Members
import ElementMetadata.Proofs.Record.Reading
import ElementMetadata.Proofs.Record.Cell
import ElementMetadata.Proofs.Record.Tabular
import ElementMetadata.Proofs.Record.Plain
import ElementMetadata.Proofs.Record.Kind
import ElementMetadata.Proofs.Record.Shape
import ElementMetadata.Proofs.Process.Shapes
import ElementMetadata.Proofs.Process.Records
import ElementMetadata.Proofs.Process.SearchPage
import ElementMetadata.Proofs.Process.RoundTrip
import ElementMetadata.Proofs.Process.UserTask
import ElementMetadata.Proofs.Document
import ElementMetadata.Proofs.Metadata.SourcesDocument
import ElementMetadata.Proofs.Resolution
import ElementMetadata.Proofs.Metadata.PagesDocument
import ElementMetadata.Proofs.Document.Faults
import ElementMetadata.Proofs.Resolution.Selection
import ElementMetadata.Proofs.Document.Growth
import ElementMetadata.Proofs.Time.Calendar
import ElementMetadata.Proofs.Time.Decimal
import ElementMetadata.Proofs.Time.Spelling
import ElementMetadata.Proofs.Time.Timestamp
import ElementMetadata.Proofs.Text.Split
import ElementMetadata.Proofs.Summary
import ElementMetadata.Proofs.Summary.Text
import ElementMetadata.Proofs.Metadata.Changes
import ElementMetadata.Proofs.Metadata.Gating
import ElementMetadata.Proofs.Command.Stages
import ElementMetadata.Proofs.Json.Quoted
import ElementMetadata.Proofs.Toml.JsonObject
import ElementMetadata.Proofs.Command.Arguments
import ElementMetadata.Proofs.Command.Settings
import ElementMetadata.Proofs.Command.Logging
import ElementMetadata.Proofs.Time.Precision
import ElementMetadata.Proofs.Time.Quotients
import ElementMetadata.Proofs.Time.Instant
import ElementMetadata.Proofs.Time.Distance
import ElementMetadata.Proofs.Time.Offset
import ElementMetadata.Proofs.Time.Execution
import ElementMetadata.Proofs.Time.Shown
import ElementMetadata.Proofs.Summary.Duration
import ElementMetadata.Proofs.Summary.Links
import ElementMetadata.Proofs.Resolution.Paging
import ElementMetadata.Proofs.Metadata.Injective
import ElementMetadata.Proofs.Process.InOrder
import ElementMetadata.Proofs.Vocabulary
import ElementMetadata.Proofs.Command.Printed
import ElementMetadata.Proofs.Time.OffsetColon
