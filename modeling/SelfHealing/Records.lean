/-
The records of the control plane.

Rows carry the columns that some modelled function reads or writes.  Identifiers
that the database draws at random are natural numbers here, handed out in order, so
that two of them never coincide.  Times are integers, in microseconds, which is
what both the database and the interpreter keep.
-/

namespace SelfHealing

/-- A duration given in seconds. -/
def seconds (n : Int) : Int := n * 1000000

/-! ### Exceptions -/

/-- The classes of the exceptions that the modelled code raises or catches. -/
inductive ExcClass
  | valueError
  | conflictError
  | resourceLockedError
  | quarantinedResourceError
  | lockOwnershipError
  | lookupError
  | runtimeError
  | typeError
  | attributeError
  | overflowError
  | invalidOperation
  | integrityError
  | databaseError
  | providerAdapterError
  | precheckFailedError
  | targetRecreatedError
  | dockerDaemonUnreachableError
  | containerNotFoundError
  | dockerTimeoutError
  | planValidationError
  | graphRecursionError
  | redisError
  | httpException (status : Nat)
deriving DecidableEq, Repr

/-- An exception: its class and its text. -/
structure Err where
  exc : ExcClass
  message : String
deriving DecidableEq, Repr

/-- `ConflictError` and what derives from it. -/
def ExcClass.isConflictError : ExcClass → Bool
  | .conflictError | .resourceLockedError | .quarantinedResourceError | .lockOwnershipError => true
  | _ => false

/-- `ValueError` and what derives from it: the conflicts do. -/
def ExcClass.isValueError : ExcClass → Bool
  | .valueError | .planValidationError => true
  | e => e.isConflictError

/-- A call that raised one of these was rejected by the repository itself. -/
def Err.isRejection (e : Err) : Bool := e.exc.isValueError || e.exc = .lookupError

/-! ### Incidents -/

inductive IncidentState
  | detected
  | triaged
  | diagnosed
  | planned
  | pendingApproval
  | approved
  | executing
  | verifying
  | resolved
  | escalated
  | failed
  | rolledback
deriving DecidableEq, Repr

/-- The value stored in the database. -/
def IncidentState.value : IncidentState → String
  | .detected => "DETECTED"
  | .triaged => "TRIAGED"
  | .diagnosed => "DIAGNOSED"
  | .planned => "PLANNED"
  | .pendingApproval => "PENDING_APPROVAL"
  | .approved => "APPROVED"
  | .executing => "EXECUTING"
  | .verifying => "VERIFYING"
  | .resolved => "RESOLVED"
  | .escalated => "ESCALATED"
  | .failed => "FAILED"
  | .rolledback => "ROLLEDBACK"

/-- `RESOLVED`, `ESCALATED` and `ROLLEDBACK`: the incident is over. -/
def IncidentState.terminal : IncidentState → Bool
  | .resolved | .escalated | .rolledback => true
  | _ => false

inductive Severity
  | low
  | medium
  | high
  | critical
deriving DecidableEq, Repr

/-- The value stored in the database. -/
def Severity.value : Severity → String
  | .low => "LOW"
  | .medium => "MEDIUM"
  | .high => "HIGH"
  | .critical => "CRITICAL"

structure Incident where
  id : Nat
  resourceId : Nat
  correlationKey : String
  state : IncidentState := .detected
  severity : Severity := .medium
  version : Nat := 1
  attempts : Nat := 0
  retryLimit : Nat := 2
  approvalRequired : Bool := false
  updatedAt : Int
  resolvedAt : Option Int := none
deriving DecidableEq, Repr

/-- A message to be published, with the fields of its payload; only the one about a new incident
names events. -/
structure OutboxEvent where
  eventType : String
  aggregateType : String
  aggregateId : Nat
  aggregateVersion : Nat
  state : IncidentState
  severity : Severity
  correlationKey : String
  resourceId : Nat
  eventIds : Option (List Nat) := none
  status : String
  actor : String
deriving DecidableEq, Repr

/-! ### Events -/

inductive EventSource
  | alertmanager
  | generic
  | isolationForest
  | cloudwatch
deriving DecidableEq, Repr

/-- An event as the normaliser leaves it, without the documents that are stored with it. -/
structure NormalizedEventPayload where
  source : EventSource
  eventType : String
  severity : Severity
  resourceId : Nat
  occurredAt : Int
  fingerprint : String
  dedupWindow : Int
  status : String := "firing"
  scenarioId : Option String := none
deriving DecidableEq, Repr

/-- The columns of `uq_event_dedup`, by which an event is known. -/
structure EventKey where
  source : EventSource
  resourceId : Nat
  fingerprint : String
  dedupWindow : Int
deriving DecidableEq, Repr

/-- The other columns of an event. -/
structure EventRecord where
  id : Nat
  occurredAt : Int
  severity : Severity
  actor : String
deriving DecidableEq, Repr

/-- An event belongs to an incident. -/
structure IncidentEvent where
  incidentId : Nat
  eventId : Nat
deriving DecidableEq, Repr

/-! ### Redis -/

/-- What came of one `xadd`: whether the message is in the stream, and whether the call raised.
One that returns has added it; the answer of one that has added it may still be lost. -/
structure XaddAnswer where
  appended : Bool
  error : Option String
  returned : error = none → appended = true

/-- The message is added, or the call raises and it is not. -/
def XaddAnswer.added : XaddAnswer := ⟨true, none, fun _ => rfl⟩

def XaddAnswer.raised (text : String) : XaddAnswer := ⟨false, some text, by simp⟩

/-! ### Demo commands -/

/-- The scenarios that the console offers. -/
inductive DemoScenario
  | scn001
  | scn002
  | scn003
deriving DecidableEq, Repr

def DemoScenario.value : DemoScenario → String
  | .scn001 => "SCN-001"
  | .scn002 => "SCN-002"
  | .scn003 => "SCN-003"

inductive FaultAction
  | inject
  | clear
deriving DecidableEq, Repr

inductive DemoStatus
  | pending
  | succeeded
  | uncertain
deriving DecidableEq, Repr

/-- A JSON object: its members, each with the text of its value. -/
abbrev JsonObject := List (String × String)

/-- The text of a value that is a string. -/
def JsonObject.text (value : String) : String := "\"" ++ value ++ "\""

/-- `{**object, key: value}`. -/
def JsonObject.set (key value : String) (object : JsonObject) : JsonObject :=
  (key, value) :: object.filter fun member => member.1 ≠ key

/-- `object[key].astext`, which is null for a member that is null. -/
def JsonObject.astext (key : String) (object : JsonObject) : Option String :=
  (object.lookup key).filter fun value => value ≠ "null"

structure DemoCommand where
  id : Nat
  idempotencyKey : Nat
  scenarioId : DemoScenario
  action : FaultAction
  actor : String
  status : DemoStatus
  result : JsonObject
  createdAt : Int
deriving DecidableEq, Repr

/-- The command that has reconciled this one, as its result records it. -/
def DemoCommand.reconciledBy (command : DemoCommand) : Option String :=
  JsonObject.astext "reconciled_by" command.result

/-- What the fault injector answers: that it cannot be asked, or the faults that are active. -/
inductive FaultsAnswer
  | unavailable
  | active (faults : List String)

/-- What becomes of a command sent to the fault injector: it is answered, the answer being given
here as it is stored; the client raises `HTTPError` or `ValueError`; or something else is raised. -/
inductive CommandAnswer
  | succeeded (payload : JsonObject)
  | failed
  | raised (e : Err)

/-! ### Services

What the services that a workflow calls answer, as far as it is read.
-/

/-- A service raises, or answers. -/
inductive ServiceAnswer (α : Type)
  | raised (exc : ExcClass) (text : String)
  | answered (a : α)

/-- A container that Docker knows under the name of a service, and the resource of that name. -/
structure DiscoveredContainer where
  containerId : String
  composeService : String
  resourceId : Nat
deriving DecidableEq, Repr

/-- What the diagnosis engine concludes. -/
structure DiagnosisAnswer where
  rootCause : String
  confidence : Rat
  isActionable : Bool
  escalationReason : Option String := none
deriving DecidableEq, Repr

/-- What the planner's validator says of a plan: the hash of its contents, or its faults. -/
inductive ValidatorAnswer
  | valid (contentHash : String)
  | invalid (errors : String)
deriving DecidableEq, Repr

/-- To whom a recovery is due. -/
inductive RecoveryAttribution
  | agentHealed
  | externallyRecovered
  | inconclusive
deriving DecidableEq, Repr

/-- The verdict of a verifier. -/
structure VerdictAnswer where
  passed : Bool
  attribution : RecoveryAttribution := .agentHealed
  failureReason : Option String := none
deriving DecidableEq, Repr

/-! ### Leases and locks -/

structure WorkflowLease where
  owner : String
  token : Nat
  acquiredAt : Int
  expiresAt : Int
  incidentVersion : Nat
deriving DecidableEq, Repr

structure ResourceLock where
  owner : String
  token : Nat
  acquiredAt : Int
  expiresAt : Int
  quarantined : Bool
  quarantineReason : Option String
  quarantinedAt : Option Int
deriving DecidableEq, Repr

/-! ### Automation controls -/

inductive AutomationMode
  | disabled
  | approvalRequired
  | automatic
deriving DecidableEq, Repr

structure AutomationControl where
  mode : AutomationMode
  emergencyStoppedResources : List String
  updatedAt : Int
  updatedBy : String
  reason : String
deriving DecidableEq, Repr

/-! ### Containers and executions -/

structure ContainerSnapshot where
  containerId : String
  name : String := ""
  status : String
  createdAt : Option String := none
  startedAt : Option String := none
  finishedAt : Option String := none
  exitCode : Option Int := none
  restartCount : Nat := 0
  image : Option String := none
  health : Option String := none
  labels : List (String × String) := []
deriving DecidableEq, Repr

inductive ExecutionStatus
  | pending
  | running
  | succeeded
  | failed
  | rolledback
deriving DecidableEq, Repr

structure ExecutionIntent where
  incidentId : Nat
  planId : Nat
  planVersion : Nat
  stepId : Nat
  attemptNumber : Nat
  resourceId : Nat
  containerId : String
  bindingGeneration : Int
  serviceName : String := "demo-api"
  timeoutSeconds : Int := 30
  idempotencyKey : String
  preState : Option ContainerSnapshot := none
deriving DecidableEq, Repr

/-- The JSON documents stored as the result of an execution. -/
inductive ExecutionResult
  | empty
  | dispatchIntent (intent : ExecutionIntent)
  | snapshot (s : ContainerSnapshot)
  | error (text : String)
  | reconciled (reason : String) (postState : Option ContainerSnapshot)
  | uncertain (reason : String)
deriving DecidableEq, Repr

structure Execution where
  id : Nat
  incidentId : Nat
  planId : Option Nat
  stepId : Nat
  resourceId : Nat
  attemptNumber : Nat
  containerId : Option String
  bindingGeneration : Option Int
  lockToken : Option Nat
  actor : String
  preState : Option ContainerSnapshot
  status : ExecutionStatus
  version : Nat
  result : ExecutionResult
  uncertaintyReason : Option String
  startedAt : Option Int
  finishedAt : Option Int
deriving DecidableEq, Repr

inductive ExecutionOutcomeStatus
  | succeeded
  | failed
  | uncertain
deriving DecidableEq, Repr

structure ExecutionOutcome where
  status : ExecutionOutcomeStatus
  executionId : Option Nat := none
  idempotencyKey : String
  postState : ExecutionResult := .empty
  reconciled : Bool := false
  uncertaintyReason : Option String := none
  error : Option String := none
deriving DecidableEq, Repr

structure ReconciliationOutcome where
  reconciledSuccess : Bool
  uncertain : Bool
  reason : String
  postSnapshot : Option ContainerSnapshot := none
deriving DecidableEq, Repr

/-! ### Resources, plans and decisions -/

/-- A managed resource; of its labels, those that bind it to a container. -/
structure Resource where
  id : Nat
  name : String
  environment : String
  dockerContainerId : Option String
  containerId : Option String
  bindingGeneration : Option Int
  composeService : Option String
deriving DecidableEq, Repr

structure Diagnosis where
  id : Nat
  incidentId : Nat
  rootCause : String
  confidence : Rat
  escalationReason : Option String
deriving DecidableEq, Repr

structure RemediationPlan where
  id : Nat
  incidentId : Nat
  diagnosisId : Nat
  version : Nat
  risk : String
  approved : Bool
  contentHash : String
  containerId : Option String
  bindingGeneration : Option Int
  verificationProfile : Option String
deriving DecidableEq, Repr

/-- A step of a plan; of its parameters, those that the execution node reads. -/
structure RemediationStep where
  id : Nat
  planId : Nat
  resourceId : Nat
  position : Nat
  action : String
  containerId : Option String
  bindingGeneration : Option Int
  serviceName : Option String
  timeoutSeconds : Option Int
deriving DecidableEq, Repr

inductive PolicyDecisionOutcome
  | allow
  | deny
  | requireApproval
  | defer
deriving DecidableEq, Repr

structure PolicyDecision where
  id : Nat
  incidentId : Nat
  planId : Nat
  planVersion : Nat
  decision : PolicyDecisionOutcome
  reasonCodes : List String
deriving DecidableEq, Repr

inductive ApprovalDecision
  | approve
  | reject
deriving DecidableEq, Repr

structure Approval where
  id : Nat
  planId : Nat
  planVersion : Nat
  approver : String
  decision : ApprovalDecision
  rejectionReason : Option String
  createdAt : Int
  expiresAt : Int
deriving DecidableEq, Repr

inductive ScheduleStatus
  | pending
  | processed
  | cancelled
deriving DecidableEq, Repr

/-- Why a workflow waits to be woken up. -/
inductive WaitReason
  | awaitingApproval
  | cooldown
  | waitingForCooldown
  | waitingForLock
deriving DecidableEq, Repr

/-- What a wake-up puts into the state of the workflow; keys that the state has no place for are
left out. -/
structure ResumeMetadata where
  isResumedFromApproval : Option Bool := none
  nextEligibleAt : Option Int := none
deriving DecidableEq, Repr

structure WorkflowSchedule where
  id : Nat
  incidentId : Nat
  incidentVersion : Nat
  nextRunAt : Int
  waitReason : WaitReason
  status : ScheduleStatus := .pending
  resumeMetadata : ResumeMetadata := {}
deriving DecidableEq, Repr

/-- The record of an escalation. -/
structure EscalationRecord where
  id : Nat
  incidentId : Nat
  title : String
  summary : String
  rootCause : String
  escalationReason : Option String
deriving DecidableEq, Repr

/-- A row that is added, or a binding of a resource that is replaced. -/
inductive NewRow
  | diagnosis (row : Diagnosis)
  | plan (row : RemediationPlan)
  | step (row : RemediationStep)
  | decision (row : PolicyDecision)
  | approval (row : Approval)
  | escalation (row : EscalationRecord)
  | resource (row : Resource)
  | link (row : IncidentEvent)
deriving DecidableEq, Repr

namespace NewRow

def diagnosis? : NewRow → Option Diagnosis
  | .diagnosis row => some row
  | _ => none

def plan? : NewRow → Option RemediationPlan
  | .plan row => some row
  | _ => none

def step? : NewRow → Option RemediationStep
  | .step row => some row
  | _ => none

def decision? : NewRow → Option PolicyDecision
  | .decision row => some row
  | _ => none

def approval? : NewRow → Option Approval
  | .approval row => some row
  | _ => none

def escalation? : NewRow → Option EscalationRecord
  | .escalation row => some row
  | _ => none

def link? : NewRow → Option IncidentEvent
  | .link row => some row
  | _ => none

/-- The table of resources once the row is in it. -/
def bind (resources : Nat → Option Resource) : NewRow → Nat → Option Resource
  | .resource row, id => if id = row.id then some row else resources id
  | _, id => resources id

end NewRow

end SelfHealing
