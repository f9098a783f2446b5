import ConnectorHub.Text.Blank
import ConnectorHub.Text.Split
import ConnectorHub.Text.Quoted
import ConnectorHub.Text.LetterCase
import ConnectorHub.Text.Utf8
import ConnectorHub.Text.Digit
import ConnectorHub.Number.Real
import ConnectorHub.Time.DateTime
import ConnectorHub.Json.Reader
import ConnectorHub.Json.Writer
import ConnectorHub.Url.Form
import ConnectorHub.Url.Reference
import ConnectorHub.Locale
import ConnectorHub.Document.Addressing
import ConnectorHub.Schedule.Opening
import ConnectorHub.Files.Path
import ConnectorHub.Files.Tree
import ConnectorHub.FeederGate
import ConnectorHub.Http.Exchange
import ConnectorHub.Failure.Kind
import ConnectorHub.Store.Table
import ConnectorHub.Store.Connectors
import ConnectorHub.Store.Runs
import ConnectorHub.Store.Schedules
import ConnectorHub.Store.States
import ConnectorHub.Failure.Basic
import ConnectorHub.Connector.Form
import ConnectorHub.Connector.Type
import ConnectorHub.Hub.Desk
import ConnectorHub.Hub.Administration
import ConnectorHub.Hub.Traversal
import ConnectorHub.Api.Payload
import ConnectorHub.Api.Resource
import ConnectorHub.Api.Service
import ConnectorHub.Scenario.Operation
import ConnectorHub.Scenario.Report
import ConnectorHub.Proofs.Calm
import ConnectorHub.Proofs.Reading
import ConnectorHub.Proofs.Actions
import ConnectorHub.Proofs.Changes
import ConnectorHub.Proofs.Operations
import ConnectorHub.Proofs.Interleaving
import ConnectorHub.Proofs.OneJob
import ConnectorHub.Proofs.Generations
import ConnectorHub.Proofs.Overtaking
import ConnectorHub.Proofs.Continuity
import ConnectorHub.Proofs.CheckpointGuard
import ConnectorHub.Proofs.Answers
import ConnectorHub.Proofs.Removal
import ConnectorHub.Proofs.Mirror
import ConnectorHub.Proofs.Transparency
import ConnectorHub.Proofs.Upkeep
import ConnectorHub.Proofs.Configuring
import ConnectorHub.Proofs.Addresses
import ConnectorHub.Proofs.Batches
import ConnectorHub.Proofs.TraversalOutcome
import ConnectorHub.Proofs.BadDocuments
import ConnectorHub.Proofs.UrlForm
import ConnectorHub.Proofs.Openings
import ConnectorHub.Proofs.DueTimes
import ConnectorHub.Proofs.ClockOffsets
import ConnectorHub.Proofs.LongDelays
import ConnectorHub.Proofs.DuePasses
import ConnectorHub.Proofs.StandingSchedules
import ConnectorHub.Proofs.FailedCalls
import ConnectorHub.Proofs.Consistency
import ConnectorHub.Proofs.Coherence
import ConnectorHub.Proofs.Independence
import ConnectorHub.Proofs.Leases
import ConnectorHub.Proofs.TruthfulAnswers
import ConnectorHub.Proofs.Precedence
import ConnectorHub.Proofs.Permissions
import ConnectorHub.Proofs.ScheduleGrammar
import ConnectorHub.Proofs.JsonText
import ConnectorHub.Proofs.FileTrees
import ConnectorHub.Proofs.GateFiles
import ConnectorHub.Proofs.DamagedFiles
import ConnectorHub.Proofs.FailingPasses
import ConnectorHub.Proofs.Exchanges
