import BranchGuard.Actor
import BranchGuard.Attempt
import BranchGuard.Config
import BranchGuard.Cycle
import BranchGuard.Desired.Basic
import BranchGuard.Desired.Encoding
import BranchGuard.Dialogue
import BranchGuard.Double
import BranchGuard.Drift.Basic
import BranchGuard.Drift.Overlay
import BranchGuard.Error
import BranchGuard.Event
import BranchGuard.Folder
import BranchGuard.GitHub.Client
import BranchGuard.GitHub.Delivery
import BranchGuard.GitHub.Document
import BranchGuard.GitHub.Envelope
import BranchGuard.GitHub.Payload
import BranchGuard.Hub
import BranchGuard.Json.Basic
import BranchGuard.Json.Numeral
import BranchGuard.Json.Parser
import BranchGuard.Json.Printer
import BranchGuard.Json.Record
import BranchGuard.Mutation.Basic
import BranchGuard.Mutation.Encoding
import BranchGuard.Observed
import BranchGuard.Policy
import BranchGuard.Remote
import BranchGuard.Resolution
import BranchGuard.Rule.Basic
import BranchGuard.Rule.Encoding
import BranchGuard.RuleVerbs
import BranchGuard.Text.Blank
import BranchGuard.Text.Canonical
import BranchGuard.Text.Digit
import BranchGuard.Text.Invisible
import BranchGuard.Text.Quoted
import BranchGuard.Text.Ranges
import BranchGuard.Text.Segments
import BranchGuard.Toml.Parser
import BranchGuard.Toml.Scalar
import BranchGuard.Toml.Table
import BranchGuard.Toml.Token
import BranchGuard.Uri
import BranchGuard.Proofs.LateInitialization
import BranchGuard.Proofs.References
import BranchGuard.Proofs.Refusals
import BranchGuard.Proofs.Runs
import BranchGuard.Proofs.VerbRuns
import BranchGuard.Proofs.HubAnswers
import BranchGuard.Proofs.ActorIdentities
import BranchGuard.Proofs.StoredRules
import BranchGuard.Proofs.HubCycles
import BranchGuard.Proofs.Convergence
import BranchGuard.Proofs.Retry
import BranchGuard.Proofs.ImpliedSettings
import BranchGuard.Proofs.Calls
import BranchGuard.Proofs.CycleProtocol
import BranchGuard.Proofs.RecordValidity
import BranchGuard.Proofs.RepeatedObservation
import BranchGuard.Proofs.CoherentObservations
import BranchGuard.Proofs.ReportedChanges
import BranchGuard.Proofs.Exchanges
import BranchGuard.Proofs.Outages
import BranchGuard.Proofs.Sessions
import BranchGuard.Proofs.SentSettings
import BranchGuard.Proofs.StoredEffects
import BranchGuard.Proofs.PatternIsolation
import BranchGuard.Proofs.Paging
import BranchGuard.Proofs.RemainingDrift
import BranchGuard.Proofs.Scans
import BranchGuard.Proofs.WrittenJson
import BranchGuard.Proofs.WrittenRecords
import BranchGuard.Proofs.WireForms
import BranchGuard.Proofs.ReferenceGrammar
import BranchGuard.Proofs.ListsAsSets
import BranchGuard.Proofs.FailureKinds
import BranchGuard.Proofs.Payloads
import BranchGuard.Proofs.Confirmations
import BranchGuard.Proofs.Comparison
import BranchGuard.Proofs.FirstOpinions
