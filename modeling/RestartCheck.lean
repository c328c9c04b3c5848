import RestartCheck.Capability
import RestartCheck.Client.Address
import RestartCheck.Client.Charset
import RestartCheck.Client.Connection
import RestartCheck.Client.Relay
import RestartCheck.Client.Reply
import RestartCheck.CommandLine.Arguments
import RestartCheck.CommandLine.Program
import RestartCheck.Decimal.Numeral
import RestartCheck.Decimal.Rounding
import RestartCheck.Decimal.Shortest
import RestartCheck.Effect.Action
import RestartCheck.Effect.Procedure
import RestartCheck.Failure
import RestartCheck.Files.Path
import RestartCheck.Files.Tree
import RestartCheck.Harness
import RestartCheck.Health
import RestartCheck.Host.Label
import RestartCheck.Host.Letter
import RestartCheck.Host.Mark
import RestartCheck.Host.Numeric
import RestartCheck.Host.Punycode
import RestartCheck.Job.Observation
import RestartCheck.Json.Basic
import RestartCheck.Json.Decoding
import RestartCheck.Json.Encoding
import RestartCheck.Json.Literal
import RestartCheck.Json.Path
import RestartCheck.Json.Shape
import RestartCheck.Log.Call
import RestartCheck.Log.Entry
import RestartCheck.Log.Redaction
import RestartCheck.Log.Rendering
import RestartCheck.Main
import RestartCheck.Migration.Cycle
import RestartCheck.Migration.Detection
import RestartCheck.Migration.Status
import RestartCheck.Migration.Trigger
import RestartCheck.OrderedMap
import RestartCheck.Poll.Convergence
import RestartCheck.Poll.Loop
import RestartCheck.Poll.Outcome
import RestartCheck.Resource
import RestartCheck.Run.Config
import RestartCheck.Run.Coordinator
import RestartCheck.Run.Phase
import RestartCheck.Run.Report
import RestartCheck.Scenario.BackgroundJob
import RestartCheck.Scenario.Basic
import RestartCheck.Scenario.Catalog
import RestartCheck.Scenario.IncompatibleIndex
import RestartCheck.Scenario.SecurityStore
import RestartCheck.Scenario.SingleRecord
import RestartCheck.Scenario.Watcher
import RestartCheck.Service.Rehearsal
import RestartCheck.Service.Response
import RestartCheck.Service.Transcript
import RestartCheck.Settings.Environment
import RestartCheck.Settings.Loading
import RestartCheck.Settings.Model
import RestartCheck.Settings.Node
import RestartCheck.Settings.Number
import RestartCheck.Settings.Rendering
import RestartCheck.Settings.Shape
import RestartCheck.Settings.Validation
import RestartCheck.Text.Base64
import RestartCheck.Text.Blank
import RestartCheck.Text.CharRange
import RestartCheck.Text.DecimalDigit
import RestartCheck.Text.Lines
import RestartCheck.Text.LowerCase
import RestartCheck.Text.Order
import RestartCheck.Text.Parts
import RestartCheck.Text.Printable
import RestartCheck.Text.Quoted
import RestartCheck.Text.Search
import RestartCheck.Text.Slashes
import RestartCheck.Text.Utf8
import RestartCheck.Toml.Document
import RestartCheck.Toml.Scalar
import RestartCheck.Toml.Scanner
import RestartCheck.Version.Basic
import RestartCheck.Version.Parser
import RestartCheck.Proofs.Capability.Gates
import RestartCheck.Proofs.Capability.Lookup
import RestartCheck.Proofs.Capability.Support
import RestartCheck.Proofs.CommandLine.Arguments
import RestartCheck.Proofs.CommandLine.Inputs
import RestartCheck.Proofs.CommandLine.Program
import RestartCheck.Proofs.Decimal.Writing
import RestartCheck.Proofs.Effect.Conduct
import RestartCheck.Proofs.Effect.Context
import RestartCheck.Proofs.Effect.Failures
import RestartCheck.Proofs.Effect.Outage
import RestartCheck.Proofs.Effect.Permits
import RestartCheck.Proofs.Effect.Rehearsed
import RestartCheck.Proofs.Effect.Runs
import RestartCheck.Proofs.Effect.Served
import RestartCheck.Proofs.Effect.Trace
import RestartCheck.Proofs.Job.Conduct
import RestartCheck.Proofs.Job.Convergence
import RestartCheck.Proofs.Job.Order
import RestartCheck.Proofs.Job.Round
import RestartCheck.Proofs.Job.Tasks
import RestartCheck.Proofs.Job.Verdict
import RestartCheck.Proofs.Json.Crash
import RestartCheck.Proofs.Json.Decoded
import RestartCheck.Proofs.Json.Display
import RestartCheck.Proofs.Json.Distinct
import RestartCheck.Proofs.Json.Fragment
import RestartCheck.Proofs.Json.Nesting
import RestartCheck.Proofs.Json.Order
import RestartCheck.Proofs.Json.Reading
import RestartCheck.Proofs.Json.Resolution
import RestartCheck.Proofs.Json.Spelling
import RestartCheck.Proofs.Json.Tokens
import RestartCheck.Proofs.Log.Addresses
import RestartCheck.Proofs.Log.Redaction
import RestartCheck.Proofs.Migration.Classification
import RestartCheck.Proofs.Migration.Conduct
import RestartCheck.Proofs.Migration.Detection
import RestartCheck.Proofs.Migration.Forward
import RestartCheck.Proofs.Migration.Memory
import RestartCheck.Proofs.Migration.Settlement
import RestartCheck.Proofs.Migration.Transience
import RestartCheck.Proofs.Migration.Triggering
import RestartCheck.Proofs.Migration.WorkCount
import RestartCheck.Proofs.Poll.Clock
import RestartCheck.Proofs.Poll.Conduct
import RestartCheck.Proofs.Poll.Crash
import RestartCheck.Proofs.Poll.Deadline
import RestartCheck.Proofs.Poll.Exchanges
import RestartCheck.Proofs.Poll.Outage
import RestartCheck.Proofs.Poll.Telling
import RestartCheck.Proofs.Poll.Timing
import RestartCheck.Proofs.Poll.Trials
import RestartCheck.Proofs.Run.Attribution
import RestartCheck.Proofs.Run.Inputs
import RestartCheck.Proofs.Run.Outage
import RestartCheck.Proofs.Run.Report
import RestartCheck.Proofs.Run.Skips
import RestartCheck.Proofs.Run.Visits
import RestartCheck.Proofs.Run.Writes
import RestartCheck.Proofs.Scenario.Answers
import RestartCheck.Proofs.Scenario.Conduct
import RestartCheck.Proofs.Scenario.Continuity
import RestartCheck.Proofs.Scenario.Crash
import RestartCheck.Proofs.Scenario.Outage
import RestartCheck.Proofs.Scenario.Shapes
import RestartCheck.Proofs.Scenario.Writes
import RestartCheck.Proofs.SecurityStore.Conduct
import RestartCheck.Proofs.SecurityStore.Protocol
import RestartCheck.Proofs.Service.Judging
import RestartCheck.Proofs.Settings.Layers
import RestartCheck.Proofs.Settings.Loading
import RestartCheck.Proofs.Settings.Sources
import RestartCheck.Proofs.SingleRecord.Survival
import RestartCheck.Proofs.Version.Grammar
import RestartCheck.Proofs.Version.Reading
import RestartCheck.Proofs.Version.Rejection
import RestartCheck.Proofs.Version.RoundTrip
import RestartCheck.Proofs.Version.Writing
import RestartCheck.Proofs.Watcher.Conduct
import RestartCheck.Proofs.Watcher.Ending
import RestartCheck.Proofs.Watcher.Evidence
import RestartCheck.Proofs.Watcher.HitCount
import RestartCheck.Proofs.Watcher.Hits
import RestartCheck.Proofs.Watcher.Outage
import RestartCheck.Proofs.Watcher.Settlement
import RestartCheck.Proofs.Watcher.Shutdown
import RestartCheck.Proofs.Watcher.Waits
