/-
The execution node.

The step of the plan is made into an intent, the adapter looks whether it may be carried
out, the incident is moved to `EXECUTING` and the adapter carries it out.  The node is
written for any adapter: it knows of one only that it prechecks and executes.
-/
import Mathlib.Data.List.Sort
import SelfHealing.Adapter
import SelfHealing.Incidents
import SelfHealing.Workflow.State

namespace SelfHealing

open Interleaving ReadCommitted

/-! ### Records -/

/-- The steps of a plan, by their positions. -/
def Db.stepsOf (db : Db) (planId : Nat) : List RemediationStep :=
  (db.steps.reverse.filter fun step => step.planId = planId).insertionSort
    fun a b => a.position ≤ b.position

def getPlanWithSteps (planId : Nat) :
    Prog (Option RemediationPlan × List RemediationStep) := do
  let plan ← select fun db => db.plans.find? fun plan => plan.id = planId
  match plan with
  | none => pure (none, [])
  | some plan =>
      let steps ← select fun db => db.stepsOf planId
      pure (some plan, steps)

/-! ### The node -/

/-- `BaseProviderAdapter`. -/
structure ProviderAdapter where
  precheck : ExecutionIntent → Prog ContainerSnapshot
  execute : ExecutionIntent → Prog ExecutionOutcome

/-- The Docker adapter, in process `p`. -/
def DockerExecutionAdapter.provider (p : Nat) (ad : DockerExecutionAdapter) : ProviderAdapter where
  precheck := SelfHealing.precheck p ad
  execute := SelfHealing.execute p ad

/-- The step that restarts the container, or else the first one. -/
def targetStep (steps : List RemediationStep) : Option RemediationStep :=
  (steps.find? fun step => step.action = "restart_container").or steps.head?

/-- The intent of an attempt at a step of a plan. -/
def IncidentGraphState.intent (state : IncidentGraphState) (plan : RemediationPlan)
    (step : RemediationStep) : ExecutionIntent :=
  let attempt := state.attempts + 1
  { incidentId := state.incidentId
    planId := plan.id
    planVersion := plan.version
    stepId := step.id
    attemptNumber := attempt
    resourceId := state.resourceId
    containerId := step.containerId.getD (state.targetContainerId.getD "")
    bindingGeneration := step.bindingGeneration.getD (state.bindingGeneration.getD 1)
    serviceName := step.serviceName.getD "demo-api"
    timeoutSeconds := step.timeoutSeconds.getD 30
    idempotencyKey := s!"exec:{state.incidentId}:{plan.version}:{step.id}:{attempt}" }

section Node

variable (p : Nat) (actor : String) (adapter : ProviderAdapter) (state : IncidentGraphState)

/-- The intent of the node, from the plan and its steps. -/
def retrieveIntent : Prog ExecutionIntent :=
  match state.currentPlanId with
  | none =>
      throw ⟨.valueError, s!"No current_plan_id in workflow state for incident {state.incidentId}"⟩
  | some planId =>
      unitOfWork ⟨p, 0⟩ actor do
        let (plan, steps) ← getPlanWithSteps planId
        match plan with
        | none => throw ⟨.lookupError, s!"Remediation plan {planId} not found"⟩
        | some plan =>
            match targetStep steps with
            | none => throw ⟨.valueError, s!"Plan {planId} has no steps to execute"⟩
            | some step => pure (state.intent plan step)

/-- Move the incident on, if it is in one of the given states. -/
def advanceIncident (t : TxId) (incidentId : Nat) (states : List IncidentState)
    (target : IncidentState) : Prog (Option Incident) := do
  let found ← getIncident t incidentId
  match found with
  | none => pure none
  | some inc =>
      if inc.state ∈ states then
        let inc ← transition t actor incidentId inc.version target
        pure (some inc)
      else pure none

/-- A precheck has failed: nothing was dispatched. -/
def escalatePrecheck (reason : String) : Prog IncidentGraphState := do
  unitOfWork ⟨p, 0⟩ actor do
    let _ ← advanceIncident actor ⟨p, 0⟩ state.incidentId [.approved, .planned] .escalated
    createEscalationRecord ⟨p, 0⟩ state.incidentId "Execution Precheck Failed"
      s!"Execution precheck failed prior to dispatch: {reason}" "PRECHECK_FAILED" (some reason)
    createAttentionItem ⟨p, 0⟩
  pure { state with status := .precheckEscalated, lastError := some reason }

/-- The dispatch has succeeded. -/
def recordSuccess (intent : ExecutionIntent) (outcome : ExecutionOutcome) :
    Prog IncidentGraphState := do
  let inc ← unitOfWork ⟨p, 0⟩ actor
    (advanceIncident actor ⟨p, 0⟩ state.incidentId [.executing] .verifying)
  pure
    { state with
      status := .executed
      version := (inc.map Incident.version).getD state.version
      attempts := intent.attemptNumber
      currentStepId := some intent.stepId
      executionId := outcome.executionId }

/-- What is reported of a dispatch that has not succeeded. -/
def ExecutionOutcome.failure (outcome : ExecutionOutcome) : String :=
  ((outcome.error.filter (· ≠ "")).or (outcome.uncertaintyReason.filter (· ≠ ""))).getD
    "Execution failed"

/-- The dispatch has failed, or nobody knows. -/
def recordFailure (outcome : ExecutionOutcome) : Prog IncidentGraphState := do
  let message := outcome.failure
  unitOfWork ⟨p, 0⟩ actor do
    let inc ← advanceIncident actor ⟨p, 0⟩ state.incidentId [.executing] .failed
    match inc with
    | some inc =>
        let _ ← transition ⟨p, 0⟩ actor state.incidentId inc.version .escalated
        pure ()
    | none => pure ()
    createEscalationRecord ⟨p, 0⟩ state.incidentId "Execution Failed or Uncertain"
      s!"Docker restart mutation failed or had uncertain outcome: {message}" "EXECUTION_FAILED"
      (some message)
    createAttentionItem ⟨p, 0⟩
  pure { state with status := .executionFailed, lastError := some message }

def executeNode : Prog IncidentGraphState := do
  let intent ← retrieveIntent p actor state
  let prechecked ← tryCatch
    (do
      let _ ← adapter.precheck intent
      pure none)
    (fun e => pure (some e.message))
  match prechecked with
  | some reason => escalatePrecheck p actor state reason
  | none =>
      let _ ← unitOfWork ⟨p, 0⟩ actor
        (advanceIncident actor ⟨p, 0⟩ state.incidentId [.approved, .planned] .executing)
      let outcome ← adapter.execute intent
      if outcome.status = .succeeded then recordSuccess p actor state intent outcome
      else recordFailure p actor state outcome

end Node

/-! ### Many calls -/

/-- A call of the node: its adapter acts for the worker that runs the node. -/
structure NodeCall where
  adapter : DockerExecutionAdapter
  state : IncidentGraphState

/-- What happens beside the calls: time passes, and operators set the controls, stop and release
resources, and decide on plans. -/
inductive OperatorEnv
  | tick (elapsed : Nat)
  | control (c : Cell TxId AutomationControl)
  | decided (approval : Approval) (incidentId : Nat) (incident : Cell TxId Incident)

def OperatorEnv.apply : OperatorEnv → Db → Option Db
  | .tick elapsed, db => some { db with now := db.now + elapsed }
  | .control c, db => some (db.setControl c)
  | .decided approval incidentId incident, db =>
      some { db.setIncident incidentId incident with approvals := approval :: db.approvals }

/-- Any number of calls of the execution node, among the requests of operators. -/
def nodeMachine : Machine World NodeCall OperatorEnv Db where
  prog := fun p call => do
    let _ ← (executeNode p call.adapter.actor (call.adapter.provider p) call.state).run
    pure ()
  ready := fun _ _ _ => True
  crash := Db.crash
  env := OperatorEnv.apply
  admits := fun _ _ => True

instance (p : Nat) (call : NodeCall) (db : Db) : Decidable (nodeMachine.ready p call db) :=
  .isTrue trivial

instance (s s' : Db) : Decidable (nodeMachine.admits s s') := .isTrue trivial

/-- The state authorises an intent, as the transaction of process `p` sees it: the resource is
bound to its container and generation, and the latest decision on its plan lets it pass, with an
approval of that version of the plan which has not expired if one is required. -/
def Authorises (p : Nat) (intent : ExecutionIntent) (db : Db) : Prop :=
  (∃ resource, db.resources intent.resourceId = some resource ∧
    resource.boundContainer = some intent.containerId ∧
    resource.generation = intent.bindingGeneration) ∧
  ∃ decision, db.latestPolicyDecision intent.incidentId intent.planId = some decision ∧
    decision.decision ≠ .deny ∧ decision.decision ≠ .defer ∧
    (decision.decision = .requireApproval ∨
        (db.control.visible ⟨p, 0⟩).map AutomationControl.mode = some .approvalRequired →
      ∃ grant ∈ db.grants intent.planId intent.planVersion, db.now < grant.expiresAt)

/-- The transaction sees automation enabled and the resource not stopped. -/
def SeesEnabled (p : Nat) (resourceId : Nat) (db : Db) : Prop :=
  ∀ control, db.control.visible ⟨p, 0⟩ = some control →
    control.mode ≠ .disabled ∧ toString resourceId ∉ control.emergencyStoppedResources

/-- The transaction sees the resource not quarantined. -/
def SeesUnquarantined (p : Nat) (resourceId : Nat) (db : Db) : Prop :=
  ∀ lock, (db.locks resourceId).visible ⟨p, 0⟩ = some lock → lock.quarantined = false

end SelfHealing
