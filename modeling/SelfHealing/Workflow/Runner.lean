/-
The workflow runner.

The nodes make a graph, which a runner walks for one incident under a lease.  It begins with what
the database says of the incident, put over the state that was saved last, and it ends where a
node says that there is something to wait for, or that nothing is left to do.

The heartbeat that renews the lease beside the graph is left out here: nothing in the graph looks
at the lease again.
-/
import SelfHealing.Leases
import SelfHealing.Lib.StateGraph
import SelfHealing.Workflow.Outcomes

namespace SelfHealing

open Interleaving ReadCommitted

/-! ### The graph -/

inductive WorkflowNode
  | collectEvidence
  | diagnose
  | plan
  | evaluatePolicy
  | waitForApproval
  | execute
  | verify
  | escalate
  | resolve
deriving DecidableEq, Repr

/-- `NODE_CLASSIFICATIONS`: whether a node is a safe read. -/
def WorkflowNode.safeRead : WorkflowNode → Bool
  | .collectEvidence | .verify => true
  | _ => false

/-- The edges of the graph. -/
def WorkflowNode.next (state : IncidentGraphState) : WorkflowNode → Option WorkflowNode
  | .collectEvidence => some .diagnose
  | .diagnose =>
      if state.status = .diagnosisEscalated ∨ state.isActionable = some false then some .escalate
      else some .plan
  | .plan =>
      if state.status = .planningEscalated then some .escalate else some .evaluatePolicy
  | .evaluatePolicy =>
      if state.status = .policyDenied ∨ state.status = .escalated ∨
          state.policyDecision = some .deny then
        some .escalate
      else if state.status = .policyDeferred ∨ state.policyDecision = some .defer then none
      else if state.approvalRequired = some true ∧ state.isApproved ≠ some true then
        some .waitForApproval
      else if state.policyDecision = some .allow ∨ state.isApproved = some true ∨
          state.status = .policyEvaluated then
        some .execute
      else some .escalate
  | .waitForApproval =>
      if state.waitReason = some .awaitingApproval then none
      else if state.isApproved = some true then some .execute
      else some .escalate
  | .execute => if state.status = .executed then some .verify else some .escalate
  | .verify =>
      if state.waitReason = some .cooldown then none
      else if state.verificationPassed = some true then some .resolve
      else if state.retryEligible = some true then some .diagnose
      else some .escalate
  | .escalate | .resolve => none

/-- Try a program so many times, until it does not raise. -/
def retried {α : Type} (x : Prog α) : Nat → Prog α
  | 0 | 1 => x
  | n + 2 => tryCatch x fun _ => retried x (n + 1)

/-- `NodeRetryPolicy.execute_with_policy`: safe reads are tried three times. -/
def executeWithPolicy {α : Type} (node : WorkflowNode) (x : Prog α) : Prog α :=
  if node.safeRead then retried x 3 else x

/-- What the nodes are given. -/
structure WorkflowServices where
  evaluate : EvaluationContext → Except Err PolicyEvaluationDecision
  adapter : ProviderAdapter

/-- What they are given by default, in process `p`. -/
def defaultServices (p : Nat) (workerId : String) : WorkflowServices where
  evaluate := defaultPolicy
  adapter := DockerExecutionAdapter.provider p { instanceId := p, actor := workerId }

/-- The program of a node, in process `p`. -/
def WorkflowNode.prog (p : Nat) (actor : String) (services : WorkflowServices)
    (state : IncidentGraphState) : WorkflowNode → Prog IncidentGraphState
  | .collectEvidence => collectEvidenceNode p actor state
  | .diagnose => diagnoseNode p actor state
  | .plan => planNode p actor state
  | .evaluatePolicy => evaluatePolicyNode p actor state services.evaluate
  | .waitForApproval => waitForApprovalNode state
  | .execute => executeNode p actor services.adapter state
  | .verify => verifyNode p actor state
  | .escalate => escalateNode p actor state
  | .resolve => resolveNode p actor state

/-- `build_incident_workflow`. -/
def incidentWorkflow (p : Nat) (actor : String) (services : WorkflowServices) :
    StateGraph World Db Err WorkflowNode IncidentGraphState where
  node := fun node state => executeWithPolicy node (node.prog p actor services state)
  next := fun node state => node.next state

/-- The number of nodes that one run may take. -/
def recursionLimit : Nat := 25

def graphRecursionError : Err :=
  ⟨.graphRecursionError, s!"Recursion limit of {recursionLimit} reached"⟩

/-! ### A run -/

/-- What the database says of an incident. -/
structure Reconstruction where
  incidentId : Nat
  incident : Incident
  plans : List RemediationPlan
  evidence : List Nat
  diagnoses : List Diagnosis
  approvals : List Approval

namespace Reconstruction

variable (r : Reconstruction)

def latestDiagnosis : Option Diagnosis := r.diagnoses.getLast?

def latestPlan : Option RemediationPlan := r.plans.getLast?

def isApproved : Bool :=
  decide (r.incident.state = .approved) || r.approvals.any fun a => a.decision = .approve

/-- The state that the graph begins with, put over the one that was saved. -/
def initialState (saved : Option IncidentGraphState) (metadata : ResumeMetadata) :
    IncidentGraphState :=
  let state := saved.getD { incidentId := r.incidentId, resourceId := r.incident.resourceId }
  let state :=
    { state with
      incidentId := r.incidentId
      version := r.incident.version
      correlationKey := r.incident.correlationKey
      resourceId := r.incident.resourceId
      currentDiagnosisId := r.latestDiagnosis.map Diagnosis.id
      currentPlanId := r.latestPlan.map RemediationPlan.id
      evidenceIds := r.evidence
      attempts := r.incident.attempts
      retryLimit := r.incident.retryLimit
      approvalRequired := some r.incident.approvalRequired
      isApproved := some r.isApproved
      rootCause := r.latestDiagnosis.map Diagnosis.rootCause
      waitReason := none
      status := .running }
  let state :=
    match r.latestPlan with
    | none => state
    | some plan =>
        { state with
          planVersion := some plan.version
          contentHash := some plan.contentHash
          containerId := plan.containerId
          targetContainerId := plan.containerId
          bindingGeneration := plan.bindingGeneration
          verificationProfile := plan.verificationProfile
          scenarioId := plan.verificationProfile
          risk := some plan.risk }
  { state with
    isResumedFromApproval := metadata.isResumedFromApproval.or state.isResumedFromApproval
    nextEligibleAt := metadata.nextEligibleAt.or state.nextEligibleAt }

end Reconstruction

/-- `reconstruct`, of what is read of it.  The query for the diagnoses does not say in which order they
are to be returned. -/
def reconstruct (incidentId : Nat) (incident : Incident)
    (arranged : List Diagnosis → List Diagnosis := id) : Prog Reconstruction := do
  let plans ← select fun db => db.plans.reverse.filter fun plan => plan.incidentId = incidentId
  let evidence ← select fun db => db.evidence incidentId
  let diagnoses ← select fun db =>
    arranged (db.diagnoses.reverse.filter fun diag => diag.incidentId = incidentId)
  let approvals ← select fun db =>
    db.approvals.reverse.filter fun approval => plans.any fun plan => plan.id = approval.planId
  pure
    { incidentId := incidentId, incident := incident, plans := plans, evidence := evidence,
      diagnoses := diagnoses, approvals := approvals }

section Run

variable (p : Nat) (workerId : String) (incidentId : Nat)

/-- The first part of `run_incident`: nothing is left to do, or this is where to begin. -/
def inspectIncident (expectedVersion : Option Nat)
    (arranged : List Diagnosis → List Diagnosis := id) : Prog (Option Reconstruction) :=
  unitOfWork ⟨p, 0⟩ workerId
    (do
      let found ← getIncident ⟨p, 0⟩ incidentId
      match found with
      | none => throw ⟨.lookupError, s!"Incident {incidentId} not found in database"⟩
      | some incident =>
          if incident.state.terminal then pure none
          else if expectedVersion.any fun v => v < incident.version then pure none
          else do
            let r ← reconstruct incidentId incident arranged
            pure (some r))
    (fun found => found.toList.map fun r =>
      .resumed p incidentId (r.latestDiagnosis.map Diagnosis.id) r.evidence)

/-- `async with lease_manager.hold`: the lease is released however the body ends. -/
def holding {α : Type} (expectedVersion : Option Nat) (body : Nat → Prog α) : Prog α := do
  let token ← unitOfWork ⟨p, 0⟩ workerId
    (acquireIncidentLease ⟨p, 0⟩ incidentId workerId 30 expectedVersion)
    (fun _ => [.entered p incidentId workerId])
  let release := do
    observe [.left p incidentId]
    tryCatch (unitOfWork ⟨p, 0⟩ workerId (releaseIncidentLease ⟨p, 0⟩ incidentId token))
      (fun _ => pure ())
  let a ← tryCatch (body token) fun e => do
    release
    throw e
  release
  pure a

/-- The graph paused for an approval: the incident is to be pending, and a wake-up is due in half
an hour. -/
def pauseForApproval (state : IncidentGraphState) : Prog IncidentGraphState := do
  let inc ← unitOfWork ⟨p, 0⟩ workerId
    (advanceIncident workerId ⟨p, 0⟩ incidentId [.planned] .pendingApproval)
  let state := state.at inc
  let _ ← scheduleWakeup ⟨p, 0⟩ workerId incidentId state.version 1800 .awaitingApproval
    { isResumedFromApproval := some true }
  pure state

/-- The part of `run_incident` under the lease. -/
def runGraph (services : WorkflowServices) (r : Reconstruction) (metadata : ResumeMetadata)
    (token : Nat) : Prog IncidentGraphState := do
  let held ← unitOfWork ⟨p, 0⟩ workerId
    (verifyIncidentLease ⟨p, 0⟩ incidentId token (some r.incident.version))
  if !held then throw ⟨.conflictError, "Lease ownership lost before graph execution"⟩
  let saved ← Interleaving.Prog.stmt fun w db => some (.ok w.checkpoint, db)
  let state ← (incidentWorkflow p workerId services).invoke graphRecursionError recursionLimit
    .collectEvidence (r.initialState saved metadata)
  if state.waitReason = some .awaitingApproval then pauseForApproval p workerId incidentId state
  else pure state

def runIncident (services : WorkflowServices) (expectedVersion : Option Nat)
    (metadata : ResumeMetadata) (arranged : List Diagnosis → List Diagnosis := id) :
    Prog (Option IncidentGraphState) := do
  let found ← inspectIncident p workerId incidentId expectedVersion arranged
  match found with
  | none => pure none
  | some r => do
      let state ← holding p workerId incidentId (some r.incident.version)
        (runGraph p workerId incidentId services r metadata)
      pure (some state)

end Run

end SelfHealing
