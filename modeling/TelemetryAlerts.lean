import TelemetryAlerts.Alert.Basic
import TelemetryAlerts.Alert.Reader
import TelemetryAlerts.Catalog.Devices
import TelemetryAlerts.Catalog.Rules
import TelemetryAlerts.Config.Basic
import TelemetryAlerts.Config.Example
import TelemetryAlerts.Config.File
import TelemetryAlerts.Config.Reader
import TelemetryAlerts.Config.Settings
import TelemetryAlerts.Document.Checked
import TelemetryAlerts.Document.Complaint
import TelemetryAlerts.Document.Layer
import TelemetryAlerts.Document.Scalar
import TelemetryAlerts.Document.Text
import TelemetryAlerts.Evaluation.Condition
import TelemetryAlerts.Evaluation.Lifecycle
import TelemetryAlerts.Failure
import TelemetryAlerts.Json.Basic
import TelemetryAlerts.Json.Bytes
import TelemetryAlerts.Json.Display
import TelemetryAlerts.Json.Reader
import TelemetryAlerts.Json.Writer
import TelemetryAlerts.Main
import TelemetryAlerts.Notification.Delivery
import TelemetryAlerts.Notification.Mail
import TelemetryAlerts.Notification.Message
import TelemetryAlerts.Notification.Plan
import TelemetryAlerts.Notification.Recipients
import TelemetryAlerts.Notification.Report
import TelemetryAlerts.Notification.Transport
import TelemetryAlerts.Number.Decimal
import TelemetryAlerts.Number.Layout
import TelemetryAlerts.Number.Numeral
import TelemetryAlerts.Number.Rounding
import TelemetryAlerts.Program
import TelemetryAlerts.Proofs.Alert.Document
import TelemetryAlerts.Proofs.Catalog.Applicable
import TelemetryAlerts.Proofs.Catalog.Directory
import TelemetryAlerts.Proofs.Catalog.Entries
import TelemetryAlerts.Proofs.Evaluation.Figures
import TelemetryAlerts.Proofs.Evaluation.Firing
import TelemetryAlerts.Proofs.Evaluation.Lifecycle
import TelemetryAlerts.Proofs.Evaluation.Normalized
import TelemetryAlerts.Proofs.Evaluation.Operators
import TelemetryAlerts.Proofs.Evaluation.Spans
import TelemetryAlerts.Proofs.Json.Numeral
import TelemetryAlerts.Proofs.Json.Prefix
import TelemetryAlerts.Proofs.Json.Quoted
import TelemetryAlerts.Proofs.Json.RoundTrip
import TelemetryAlerts.Proofs.Json.Settled
import TelemetryAlerts.Proofs.Notification.Dispatching
import TelemetryAlerts.Proofs.Notification.Lettering
import TelemetryAlerts.Proofs.Notification.Planning
import TelemetryAlerts.Proofs.Notification.Posting
import TelemetryAlerts.Proofs.Notification.Reaching
import TelemetryAlerts.Proofs.Notification.Reporting
import TelemetryAlerts.Proofs.Notification.Retrying
import TelemetryAlerts.Proofs.Number.Decimal
import TelemetryAlerts.Proofs.Number.Order
import TelemetryAlerts.Proofs.Number.Rounding
import TelemetryAlerts.Proofs.Number.Undefined
import TelemetryAlerts.Proofs.Outcome
import TelemetryAlerts.Proofs.Program.Apart
import TelemetryAlerts.Proofs.Program.Behind
import TelemetryAlerts.Proofs.Program.Pool
import TelemetryAlerts.Proofs.Program.Replied
import TelemetryAlerts.Proofs.Rule.Document
import TelemetryAlerts.Proofs.Service.Confinement
import TelemetryAlerts.Proofs.Service.Moving
import TelemetryAlerts.Proofs.Store.Action
import TelemetryAlerts.Proofs.Store.Answer
import TelemetryAlerts.Proofs.Store.Calls
import TelemetryAlerts.Proofs.Store.Change
import TelemetryAlerts.Proofs.Store.Claiming
import TelemetryAlerts.Proofs.Store.Claims
import TelemetryAlerts.Proofs.Store.Counting
import TelemetryAlerts.Proofs.Store.Creation
import TelemetryAlerts.Proofs.Store.Descent
import TelemetryAlerts.Proofs.Store.Exact
import TelemetryAlerts.Proofs.Store.Faults
import TelemetryAlerts.Proofs.Store.Filed
import TelemetryAlerts.Proofs.Store.Holding
import TelemetryAlerts.Proofs.Store.Interleaving
import TelemetryAlerts.Proofs.Store.Keeping
import TelemetryAlerts.Proofs.Store.Kept
import TelemetryAlerts.Proofs.Store.Keys
import TelemetryAlerts.Proofs.Store.Lasting
import TelemetryAlerts.Proofs.Store.Ledger
import TelemetryAlerts.Proofs.Store.Listing
import TelemetryAlerts.Proofs.Store.Loading
import TelemetryAlerts.Proofs.Store.Memory
import TelemetryAlerts.Proofs.Store.Mirror
import TelemetryAlerts.Proofs.Store.Naming
import TelemetryAlerts.Proofs.Store.Newest
import TelemetryAlerts.Proofs.Store.Reading
import TelemetryAlerts.Proofs.Store.Refinement
import TelemetryAlerts.Proofs.Store.Serial
import TelemetryAlerts.Proofs.Store.Server
import TelemetryAlerts.Proofs.Store.Serving
import TelemetryAlerts.Proofs.Store.Tally
import TelemetryAlerts.Proofs.Telemetry.Asking
import TelemetryAlerts.Proofs.Telemetry.Fetching
import TelemetryAlerts.Proofs.Text.Digits
import TelemetryAlerts.Proofs.Text.Markup
import TelemetryAlerts.Proofs.Text.Utf8
import TelemetryAlerts.Proofs.Time.Stored
import TelemetryAlerts.Proofs.Web.Escapes
import TelemetryAlerts.Proofs.Web.Normal
import TelemetryAlerts.Proofs.Web.Segments
import TelemetryAlerts.Proofs.Worker.Accounts
import TelemetryAlerts.Proofs.Worker.Agreement
import TelemetryAlerts.Proofs.Worker.Bookkeeping
import TelemetryAlerts.Proofs.Worker.Clocked
import TelemetryAlerts.Proofs.Worker.Cooldown
import TelemetryAlerts.Proofs.Worker.Course
import TelemetryAlerts.Proofs.Worker.Coverage
import TelemetryAlerts.Proofs.Worker.Cycle
import TelemetryAlerts.Proofs.Worker.Errors
import TelemetryAlerts.Proofs.Worker.Escalating
import TelemetryAlerts.Proofs.Worker.Exclusion
import TelemetryAlerts.Proofs.Worker.Guard
import TelemetryAlerts.Proofs.Worker.InLine
import TelemetryAlerts.Proofs.Worker.Isolation
import TelemetryAlerts.Proofs.Worker.Journal
import TelemetryAlerts.Proofs.Worker.Lifetime
import TelemetryAlerts.Proofs.Worker.Likeness
import TelemetryAlerts.Proofs.Worker.Looping
import TelemetryAlerts.Proofs.Worker.Order
import TelemetryAlerts.Proofs.Worker.Outlook
import TelemetryAlerts.Proofs.Worker.Scene
import TelemetryAlerts.Proofs.Worker.Settling
import TelemetryAlerts.Proofs.Worker.Sharing
import TelemetryAlerts.Proofs.Worker.Standstill
import TelemetryAlerts.Proofs.Worker.Tenancy
import TelemetryAlerts.Proofs.Yaml.Keys
import TelemetryAlerts.Rehearsal.Brief
import TelemetryAlerts.Rehearsal.Effect
import TelemetryAlerts.Rehearsal.Installation
import TelemetryAlerts.Rehearsal.Schedule
import TelemetryAlerts.Rehearsal.Script
import TelemetryAlerts.Rehearsal.SideBySide
import TelemetryAlerts.Rehearsal.World
import TelemetryAlerts.Rule.Basic
import TelemetryAlerts.Rule.Reader
import TelemetryAlerts.Service.AlertTask
import TelemetryAlerts.Service.Answer
import TelemetryAlerts.Service.Inquiry
import TelemetryAlerts.Service.Page
import TelemetryAlerts.Store.Connection
import TelemetryAlerts.Store.Indexed
import TelemetryAlerts.Store.Memory
import TelemetryAlerts.Store.Request
import TelemetryAlerts.Store.Server
import TelemetryAlerts.Telemetry.Query
import TelemetryAlerts.Telemetry.Reading
import TelemetryAlerts.Telemetry.Simulated
import TelemetryAlerts.Text.Base64
import TelemetryAlerts.Text.Blank
import TelemetryAlerts.Text.Case
import TelemetryAlerts.Text.Digit
import TelemetryAlerts.Text.Markup
import TelemetryAlerts.Text.Printable
import TelemetryAlerts.Text.Quoted
import TelemetryAlerts.Text.Utf8
import TelemetryAlerts.Time.Moment
import TelemetryAlerts.Time.Reader
import TelemetryAlerts.Time.Span
import TelemetryAlerts.Web.Address
import TelemetryAlerts.Web.Exchange
import TelemetryAlerts.Web.Form
import TelemetryAlerts.Web.Host
import TelemetryAlerts.Web.Punycode
import TelemetryAlerts.Worker.Call
import TelemetryAlerts.Worker.Evaluation
import TelemetryAlerts.Worker.Locks
import TelemetryAlerts.Yaml.Cursor
import TelemetryAlerts.Yaml.Kind
import TelemetryAlerts.Yaml.Node
import TelemetryAlerts.Yaml.Scalar
import TelemetryAlerts.Yaml.Token
import TelemetryAlerts.Yaml.Value
