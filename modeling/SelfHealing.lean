import SelfHealing.Lib.RelyGuarantee
import SelfHealing.Lib.History
import SelfHealing.Lib.Interference
import SelfHealing.Lib.Canonical
import SelfHealing.Texts
import SelfHealing.Json
import SelfHealing.Policy
import SelfHealing.PolicyInputs
import SelfHealing.Proofs.PolicyOutcomes
import SelfHealing.Streams
import SelfHealing.Outbox
import SelfHealing.Proofs.StreamDelivery
import SelfHealing.Proofs.OutboxDelivery
import SelfHealing.Leases
import SelfHealing.Incidents
import SelfHealing.Automation
import SelfHealing.ResourceLocks
import SelfHealing.Executions
import SelfHealing.Triggers
import SelfHealing.Adapter
import SelfHealing.Workflow.State
import SelfHealing.Verification
import SelfHealing.Workflow.Execution
import SelfHealing.Lib.StateGraph
import SelfHealing.Workflow.Schedules
import SelfHealing.Workflow.Nodes
import SelfHealing.Workflow.Outcomes
import SelfHealing.Workflow.Runner
import SelfHealing.Workflow.Recovery
import SelfHealing.Proofs.LeaseFencing
import SelfHealing.Proofs.LeaseExclusion
import SelfHealing.Proofs.IncidentHistory
import SelfHealing.Proofs.EmergencyStop
import SelfHealing.Proofs.AdapterProtocol
import SelfHealing.Proofs.AtMostOnce
import SelfHealing.Proofs.RestartOutcomes
import SelfHealing.Proofs.MutationExclusion
import SelfHealing.Proofs.AdapterSteps
import SelfHealing.Proofs.WorkerSteps
import SelfHealing.Proofs.Authorisation
import SelfHealing.Proofs.PlannedRestarts
import SelfHealing.Proofs.StrandedIncidents
import SelfHealing.Proofs.VerificationLoop
import SelfHealing.Proofs.StabilisationTime
import SelfHealing.Proofs.GraphGate
import SelfHealing.Proofs.DemoCommands
import SelfHealing.Proofs.Reconciliation
import SelfHealing.FaultInjector
import SelfHealing.Proofs.FaultRegistry
import SelfHealing.Proofs.Quarantine
import SelfHealing.Proofs.LockReturn
import SelfHealing.Proofs.Repository
import SelfHealing.Proofs.Triggers
import SelfHealing.Lib.UniqueIndex
import SelfHealing.Ingestion
import SelfHealing.Webhooks
import SelfHealing.Proofs.SingleIncident
import SelfHealing.Proofs.Phantoms
import SelfHealing.Approvals
import SelfHealing.Proofs.SingleDecision
import SelfHealing.Proofs.ApprovalTimeout
import SelfHealing.Proofs.JsonTexts
import SelfHealing.Plans
import SelfHealing.Proofs.PlanHash
import SelfHealing.Proofs.PlanValidation
import SelfHealing.Proofs.RecordedRestarts
import SelfHealing.Proofs.ApprovalReplies
import SelfHealing.Proofs.MissingMethods
import SelfHealing.Proofs.RetryScheduling
import SelfHealing.Proofs.RetryAtomicity
import SelfHealing.Proofs.WorkflowRuns
import SelfHealing.Proofs.ApprovalWakeups
import SelfHealing.Proofs.StoredDiagnoses
import SelfHealing.StoredPlans
import SelfHealing.Proofs.StoredPlans
import SelfHealing.Lib.Floats
import SelfHealing.Telemetry
import SelfHealing.Proofs.NonFiniteTelemetry
import SelfHealing.ActiveAlerts
import SelfHealing.Proofs.AlertClearance
import SelfHealing.Proofs.StaleTelemetry
import SelfHealing.Formats
import SelfHealing.Proofs.RecoveryAttribution
import SelfHealing.Diagnosis
import SelfHealing.Proofs.RuleResolution
import SelfHealing.Proofs.DefaultDiagnoses
import SelfHealing.Lib.Masking
import SelfHealing.Lib.Regex
import SelfHealing.Redaction
import SelfHealing.Normalizer
import SelfHealing.Proofs.RedactionNoninterference
import SelfHealing.Proofs.RedactorAgreement
import SelfHealing.Evidence
import SelfHealing.Proofs.EvidenceOrder
import SelfHealing.Lib.FloatOrder
import SelfHealing.Proofs.CollectedObservation
import SelfHealing.Proofs.StaleEvidence
import SelfHealing.Lib.SlidingWindow
import SelfHealing.Proofs.RequestLimits
import SelfHealing.RateLimiter
import SelfHealing.CpuStress
import SelfHealing.Lib.CumulativeReadings
import SelfHealing.Proofs.CpuSeconds
import SelfHealing.Lib.Paging
import SelfHealing.Proofs.TimelinePaging
import SelfHealing.Timeline
import SelfHealing.Proofs.FailedClear
import SelfHealing.Lib.Fencing
import SelfHealing.Resources
import SelfHealing.Proofs.BindingGeneration
import SelfHealing.ResourceResolver
import SelfHealing.Lib.Base64
import SelfHealing.Lib.Listing
import SelfHealing.Lib.Upsert
import SelfHealing.Checkpoints
import SelfHealing.EventStore
import SelfHealing.Proofs.ResourceResolution
import SelfHealing.Proofs.CheckpointStore
import SelfHealing.Proofs.CheckpointWrites
import SelfHealing.Proofs.CheckpointListing
import SelfHealing.Proofs.ResolvedAlerts
import SelfHealing.Fingerprints
import SelfHealing.Proofs.SpacedJson
import SelfHealing.Proofs.FingerprintIdentity
import SelfHealing.Authentication
import SelfHealing.Console
import SelfHealing.Database
import SelfHealing.Lib.Hex
import SelfHealing.Lib.Priority
import SelfHealing.Lib.Process
import SelfHealing.Lib.ReadCommitted
import SelfHealing.Lib.Solo
import SelfHealing.Lib.SpacedTexts
import SelfHealing.Passwords
import SelfHealing.Payloads
import SelfHealing.Proofs.Passwords
import SelfHealing.Proofs.Rules
import SelfHealing.Proofs.Transactions
import SelfHealing.Records
import SelfHealing.Proofs.Sessions
import SelfHealing.Lib.Frames
import SelfHealing.Proofs.Admissions
import SelfHealing.Proofs.Logins
import SelfHealing.Proofs.SessionSafety
import SelfHealing.Proofs.ScheduleRows
import SelfHealing.Proofs.ScheduleDispatch
import SelfHealing.Proofs.ScheduleSafety
import SelfHealing.Lib.Ascending
import SelfHealing.Proofs.WorkflowOrder
import SelfHealing.Lib.Calls
import SelfHealing.Proofs.WorkerCalls
import SelfHealing.Proofs.Lifecycles
import SelfHealing.Audit
import SelfHealing.Lib.ChangeLog
import SelfHealing.Proofs.AuditTrail
import SelfHealing.Proofs.AuditAccounts
import SelfHealing.Proofs.FrozenPlans
import SelfHealing.Proofs.OutboxQueue
import SelfHealing.Proofs.PolicyRaises
import SelfHealing.ExecutedSteps
import SelfHealing.Proofs.StepBinding
import SelfHealing.Lib.Answers
