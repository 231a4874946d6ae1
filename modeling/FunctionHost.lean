import FunctionHost.Base64
import FunctionHost.Bootstrap.Basic
import FunctionHost.Bootstrap.Exit
import FunctionHost.Bootstrap.Launch
import FunctionHost.Bootstrap.Problem
import FunctionHost.CommandLine.LogFilter
import FunctionHost.CommandLine.Options
import FunctionHost.CommandLine.Run
import FunctionHost.Dictionary
import FunctionHost.Disposition
import FunctionHost.Draft
import FunctionHost.Endpoint.Basic
import FunctionHost.Endpoint.Route
import FunctionHost.Endpoint.Serving
import FunctionHost.Environment
import FunctionHost.Exchange.Api
import FunctionHost.Exchange.Basic
import FunctionHost.Exchange.Doorbell
import FunctionHost.Exchange.Operation
import FunctionHost.Exchange.Traffic
import FunctionHost.Http.Headers
import FunctionHost.Http.Message
import FunctionHost.Http.Status
import FunctionHost.Http.Token
import FunctionHost.Http.Uri
import FunctionHost.Invocation
import FunctionHost.Json.Basic
import FunctionHost.Json.Parse
import FunctionHost.Json.Print
import FunctionHost.Log
import FunctionHost.Main
import FunctionHost.Net.Address
import FunctionHost.Net.Isolated
import FunctionHost.Net.SocketAddress
import FunctionHost.Number.Binary64
import FunctionHost.Number.Fixed
import FunctionHost.Number.Rounding
import FunctionHost.Outcome
import FunctionHost.Proofs.Base64
import FunctionHost.Proofs.Dictionary
import FunctionHost.Proofs.Endpoint.Answer
import FunctionHost.Proofs.Endpoint.Gate
import FunctionHost.Proofs.Endpoint.Handed
import FunctionHost.Proofs.Endpoint.Journal
import FunctionHost.Proofs.Endpoint.Labels
import FunctionHost.Proofs.Endpoint.Metadata
import FunctionHost.Proofs.Endpoint.Payload
import FunctionHost.Proofs.Endpoint.Rejection
import FunctionHost.Proofs.Endpoint.Restart
import FunctionHost.Proofs.Endpoint.Routing
import FunctionHost.Proofs.Endpoint.Service
import FunctionHost.Proofs.Endpoint.Start
import FunctionHost.Proofs.Endpoint.Step
import FunctionHost.Proofs.Endpoint.Telemetry
import FunctionHost.Proofs.Environment
import FunctionHost.Proofs.Exchange.Abandoned
import FunctionHost.Proofs.Exchange.Api
import FunctionHost.Proofs.Exchange.Bell
import FunctionHost.Proofs.Exchange.Delivery
import FunctionHost.Proofs.Exchange.Exit
import FunctionHost.Proofs.Exchange.Fate
import FunctionHost.Proofs.Exchange.Ledger
import FunctionHost.Proofs.Exchange.Line
import FunctionHost.Proofs.Exchange.Order
import FunctionHost.Proofs.Exchange.Queue
import FunctionHost.Proofs.Exchange.Run
import FunctionHost.Proofs.Exchange.Sight
import FunctionHost.Proofs.Exchange.Start
import FunctionHost.Proofs.Exchange.Verdict
import FunctionHost.Proofs.Exchange.Waiting
import FunctionHost.Proofs.Http.HeaderText
import FunctionHost.Proofs.Http.Uri
import FunctionHost.Proofs.Json.Reading
import FunctionHost.Proofs.Number.Decimal
import FunctionHost.Proofs.Number.Fixed
import FunctionHost.Proofs.Number.Rounding
import FunctionHost.Proofs.Sandbox.Course
import FunctionHost.Proofs.Sandbox.Document
import FunctionHost.Proofs.Sandbox.Dropped
import FunctionHost.Proofs.Sandbox.Exit
import FunctionHost.Proofs.Sandbox.LateReply
import FunctionHost.Proofs.Sandbox.Limit
import FunctionHost.Proofs.Sandbox.Mailed
import FunctionHost.Proofs.Sandbox.Reply
import FunctionHost.Proofs.Sandbox.Reservation
import FunctionHost.Proofs.Sandbox.SingleFlight
import FunctionHost.Proofs.Sandbox.Start
import FunctionHost.Proofs.Sandbox.Step
import FunctionHost.Proofs.Sandbox.Verdict
import FunctionHost.Proofs.Schedule
import FunctionHost.Proofs.Settings.Document
import FunctionHost.Proofs.Settings.Layers
import FunctionHost.Proofs.Settings.Load
import FunctionHost.Proofs.Settings.Timeout
import FunctionHost.Proofs.Startup.Descriptor
import FunctionHost.Proofs.Telemetry.Report
import FunctionHost.Proofs.Telemetry.Reporter
import FunctionHost.Proofs.Telemetry.Sink
import FunctionHost.Proofs.Text.Lines
import FunctionHost.Proofs.Text.Percent
import FunctionHost.Proofs.Text.Spelling
import FunctionHost.Proofs.Text.Utf8
import FunctionHost.Proofs.Time.Deadline
import FunctionHost.Proofs.Time.Span
import FunctionHost.Proofs.UrlEvent.Body
import FunctionHost.Proofs.UrlEvent.Document
import FunctionHost.Proofs.UrlEvent.Headers
import FunctionHost.Proofs.UrlEvent.Joined
import FunctionHost.Proofs.UrlEvent.Query
import FunctionHost.Rehearsal.Endpoint
import FunctionHost.Rehearsal.Exchange
import FunctionHost.Rehearsal.Gate
import FunctionHost.Rehearsal.Host.Fault
import FunctionHost.Rehearsal.Host.Search
import FunctionHost.Rehearsal.Host.Standard
import FunctionHost.Rehearsal.Host.Tree
import FunctionHost.Rehearsal.Launch
import FunctionHost.Rehearsal.Player
import FunctionHost.Rehearsal.Sandbox
import FunctionHost.Rehearsal.Script
import FunctionHost.Rehearsal.Shell.Arithmetic
import FunctionHost.Rehearsal.Shell.Braces
import FunctionHost.Rehearsal.Shell.Builtin
import FunctionHost.Rehearsal.Shell.Condition
import FunctionHost.Rehearsal.Shell.Expand
import FunctionHost.Rehearsal.Shell.Field
import FunctionHost.Rehearsal.Shell.Format
import FunctionHost.Rehearsal.Shell.Fraction
import FunctionHost.Rehearsal.Shell.Glob
import FunctionHost.Rehearsal.Shell.Machine
import FunctionHost.Rehearsal.Shell.Numeral
import FunctionHost.Rehearsal.Shell.Pattern
import FunctionHost.Rehearsal.Shell.Program
import FunctionHost.Rehearsal.Shell.Reader
import FunctionHost.Rehearsal.Shell.Redirect
import FunctionHost.Rehearsal.Shell.Regex
import FunctionHost.Rehearsal.Shell.Run
import FunctionHost.Rehearsal.Shell.Script
import FunctionHost.Rehearsal.Shell.Signal
import FunctionHost.Rehearsal.Shell.Test
import FunctionHost.Rehearsal.Shell.Utility
import FunctionHost.Rehearsal.Shell.Utility.Editor
import FunctionHost.Rehearsal.Shell.Utility.Expression
import FunctionHost.Rehearsal.Shell.Utility.Files
import FunctionHost.Rehearsal.Shell.Utility.Manner
import FunctionHost.Rehearsal.Shell.Utility.Request
import FunctionHost.Rehearsal.Shell.Utility.Search
import FunctionHost.Rehearsal.Shell.Utility.Survey
import FunctionHost.Rehearsal.Shell.Utility.Switch
import FunctionHost.Rehearsal.Shell.Utility.System
import FunctionHost.Rehearsal.Shell.Utility.Texts
import FunctionHost.Sandbox.Basic
import FunctionHost.Sandbox.Document
import FunctionHost.Settings.Basic
import FunctionHost.Settings.Document
import FunctionHost.Settings.Layers
import FunctionHost.Settings.Load
import FunctionHost.Settings.Timeout
import FunctionHost.Startup.Descriptor
import FunctionHost.Startup.Gate
import FunctionHost.Startup.Plan
import FunctionHost.Telemetry.Line
import FunctionHost.Telemetry.Reporter
import FunctionHost.Telemetry.Sink
import FunctionHost.Text.Alphanumeric
import FunctionHost.Text.Blank
import FunctionHost.Text.Lines
import FunctionHost.Text.Percent
import FunctionHost.Text.Printable
import FunctionHost.Text.Quoted
import FunctionHost.Text.Utf8
import FunctionHost.Time.Calendar
import FunctionHost.Time.Deadline
import FunctionHost.Time.Span
import FunctionHost.UrlEvent.Basic
import FunctionHost.UrlEvent.Headers
import FunctionHost.UrlEvent.Query
