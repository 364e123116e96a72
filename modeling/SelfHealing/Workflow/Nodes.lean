/-
The nodes of the incident workflow, but for the execution node.

A node looks at the state that it is handed and at the incident in the database, does its part
in one transaction or two, and hands on the state with what it has found put into it.  The
services behind the nodes are outside: the world answers for the collector, the diagnosis engine,
the validator of plans and the verifier.  The policy engine and the adapter are parameters.
-/
import SelfHealing.Adapter
import SelfHealing.Automation
import SelfHealing.Json
import SelfHealing.Policy
import SelfHealing.Workflow.Execution
import SelfHealing.Workflow.Schedules

namespace SelfHealing

open Interleaving ReadCommitted

/-- A call of a service: it raises, or answers, and an observer sees `seen` of the answer. -/
def service {α : Type} (answer : World → ServiceAnswer α) (seen : α → List Event := fun _ => []) :
    Prog α :=
  Interleaving.Prog.stmt fun w db =>
    match answer w with
    | .raised exc text => some (.error ⟨exc, text⟩, db)
    | .answered a => some (.ok a, db.record (seen a))

/-- The first text that says something. -/
def textOrElse (text : Option String) (default : String) : String :=
  (text.filter (· ≠ "")).getD default

section Node

variable (p : Nat) (actor : String) (state : IncidentGraphState)

/-! ### Evidence -/

/-- The container that evidence is collected of. -/
structure EvidenceTarget where
  serviceName : String
  containerId : Option String
  generation : Int

/-- The labels of a resource once it is bound to a container. -/
def Resource.boundTo (container : DiscoveredContainer) (resource : Resource) : Resource :=
  let generation := resource.bindingGeneration.getD 0
  { resource with
    dockerContainerId := some container.containerId
    bindingGeneration := some
      (if resource.dockerContainerId ≠ some container.containerId then generation + 1
      else if 0 < generation then generation
      else 1)
    composeService := some container.composeService }

/-- `sync_resource_binding`. -/
def syncResourceBinding (t : TxId) : Prog (Option Resource) := do
  let found ← Interleaving.Prog.stmt fun w db => some (.ok w.discover, db)
  match found with
  | none => pure none
  | some container =>
      let resource ← select fun db => db.resources container.resourceId
      match resource with
      | none => pure none
      | some resource =>
          insertRow t (.resource (resource.boundTo container))
          pure (some (resource.boundTo container))

/-- The container, looked up anew; whatever the discovery raises is logged only. -/
def discoverTarget : Prog EvidenceTarget :=
  unitOfWork ⟨p, 0⟩ actor do
    let resource ← select fun db => db.resources state.resourceId
    match resource with
    | none =>
        pure
          { serviceName := textOrElse state.serviceName "demo-api"
            containerId := (state.targetContainerId.filter (· ≠ "")).or state.containerId
            generation := state.bindingGeneration.getD 1 }
    | some resource =>
        let synced ← tryCatch (syncResourceBinding ⟨p, 0⟩) (fun _ => pure none)
        let bound := synced.getD resource
        pure
          { serviceName := textOrElse (resource.composeService.filter (· ≠ ""))
              (textOrElse (some resource.name) "demo-api")
            containerId := bound.boundContainer
            generation := bound.generation }

/-- `collect_evidence_node`.  What was collected is not stored: the method that is called for it
is none of the repository's, and what that raises is logged only. -/
def collectEvidenceNode : Prog IncidentGraphState :=
  if state.currentDiagnosisId.isSome || !state.evidenceIds.isEmpty then
    pure { state with status := .evidenceCollected }
  else do
    let target ← discoverTarget p actor state
    let evidence ← service World.collect (fun _ => [.collected p state.incidentId])
    let inc ← unitOfWork ⟨p, 0⟩ actor
      (advanceIncident actor ⟨p, 0⟩ state.incidentId [.detected] .triaged)
    pure
      { state with
        status := .evidenceCollected
        version := (inc.map Incident.version).getD state.version
        evidenceIds := evidence
        targetContainerId := target.containerId
        containerId := target.containerId
        bindingGeneration := some (if target.generation = 0 then 1 else target.generation)
        serviceName := some target.serviceName }

/-- An item of an `EvidenceBundle`, as it is handed on to be stored. -/
structure EvidenceItem where
  id : Nat
  kind : String
  source : String
  content : JsonDict
  observedAt : Int
  unit : Option String := none
  bindingGeneration : Option Int := none

/-- `record_evidence`, of which the repository knows nothing. -/
def recordEvidence (_item : EvidenceItem) : Prog Unit :=
  throw ⟨.attributeError, "'ControlPlaneRepository' object has no attribute 'record_evidence'"⟩

/-- The items are stored one after the other; what is raised for one is logged only. -/
def storeEvidence : List EvidenceItem → Prog Unit
  | [] => pure ()
  | item :: rest => do
      tryCatch (recordEvidence item) (fun _ => pure ())
      storeEvidence rest

/-- `collect_evidence_node`, where the items that belong to the identifiers are stored. -/
def collectEvidenceItems (bundle : List Nat → List EvidenceItem) : Prog IncidentGraphState :=
  if state.currentDiagnosisId.isSome || !state.evidenceIds.isEmpty then
    pure { state with status := .evidenceCollected }
  else do
    let target ← discoverTarget p actor state
    let evidence ← service World.collect (fun _ => [.collected p state.incidentId])
    let items := bundle evidence
    let inc ← unitOfWork ⟨p, 0⟩ actor do
      let inc ← advanceIncident actor ⟨p, 0⟩ state.incidentId [.detected] .triaged
      storeEvidence items
      pure inc
    pure
      { state with
        status := .evidenceCollected
        version := (inc.map Incident.version).getD state.version
        evidenceIds := items.map EvidenceItem.id
        targetContainerId := target.containerId
        containerId := target.containerId
        bindingGeneration := some (if target.generation = 0 then 1 else target.generation)
        serviceName := some target.serviceName }

/-! ### Diagnosis -/

/-- `CAUSE_TO_SCENARIO`. -/
def causeToScenario : List (String × String) :=
  [("CONTAINER_STOPPED", "SCN-001"), ("CPU_SATURATION", "SCN-002"),
    ("API_UNRESPONSIVE", "SCN-003")]

/-- Move an incident that is not yet diagnosed on to `target`. -/
def leaveTriage (t : TxId) (incidentId : Nat) (found : Option Incident) (target : IncidentState) :
    Prog (Option Incident) :=
  match found with
  | none => pure none
  | some inc =>
      if inc.state = .detected then do
        let inc ← transition t actor incidentId inc.version .triaged
        let inc ← transition t actor incidentId inc.version target
        pure (some inc)
      else if inc.state = .triaged then do
        let inc ← transition t actor incidentId inc.version target
        pure (some inc)
      else pure none

/-- The transaction of `diagnose_node`. -/
def recordDiagnosis (id : Nat) (diag : DiagnosisAnswer) : Prog (Option Incident) :=
  unitOfWork ⟨p, 0⟩ actor do
    let found ← getIncident ⟨p, 0⟩ state.incidentId
    insertRow ⟨p, 0⟩ (.diagnosis
      { id := id, incidentId := state.incidentId, rootCause := diag.rootCause,
        confidence := diag.confidence, escalationReason := diag.escalationReason })
    if diag.isActionable then leaveTriage actor ⟨p, 0⟩ state.incidentId found .diagnosed
    else do
      let inc ← leaveTriage actor ⟨p, 0⟩ state.incidentId found .escalated
      let cause := diag.rootCause
      createEscalationRecord ⟨p, 0⟩ state.incidentId s!"Diagnosis Escalation: {cause}"
        (textOrElse diag.escalationReason s!"Non-actionable diagnosis: {cause}") cause
        diag.escalationReason
      pure inc

def diagnoseNode : Prog IncidentGraphState :=
  match state.currentDiagnosisId with
  | some _ => pure { state with status := .diagnosed, isActionable := some true }
  | none => do
      let diag ← service World.diagnose
        (fun diag => [.diagnosed p state.incidentId diag.isActionable])
      let id ← uuid4 p
      let inc ← recordDiagnosis p actor state id diag
      let state :=
        { state with
          currentDiagnosisId := some id
          isActionable := some diag.isActionable
          rootCause := some diag.rootCause
          scenarioId := some ((causeToScenario.lookup diag.rootCause).getD "SCN-001")
          confidence := some diag.confidence
          version := (inc.map Incident.version).getD state.version }
      if diag.isActionable then pure { state with status := .diagnosed }
      else
        pure
          { state with
            status := .diagnosisEscalated
            lastError := some
              (textOrElse diag.escalationReason "Diagnosis is non-actionable or unsupported")
            escalationReason := diag.escalationReason }

/-! ### Planning -/

structure TargetBinding where
  resourceId : Nat
  containerId : String
  serviceName : String
  bindingGeneration : Int
deriving DecidableEq, Repr

/-- The target of a plan for the resource. -/
def IncidentGraphState.targetBinding (resource : Resource) : TargetBinding :=
  { resourceId := state.resourceId
    containerId :=
      (((state.targetContainerId.filter (· ≠ "")).or (state.containerId.filter (· ≠ ""))).or
        (resource.dockerContainerId.filter (· ≠ ""))).getD
        (resource.containerId.getD "demo-api-container-id")
    serviceName := textOrElse state.serviceName (textOrElse resource.composeService "demo-api")
    bindingGeneration := (state.bindingGeneration.filter (· ≠ 0)).getD resource.generation }

/-- What the model of a target accepts; its pattern does not let a line break pass. -/
def TargetBinding.validated (target : TargetBinding) : Except Err Unit :=
  if hexContainerId target.containerId ∧ target.containerId.toList.getLast? ≠ some '\n' ∧
      target.serviceName ≠ "" ∧ target.serviceName.toList.length ≤ 128 ∧
      1 ≤ target.bindingGeneration then pure ()
  else throw ⟨.valueError, "validation error for TargetBinding"⟩

/-- `SUPPORTED_RESTART_CAUSES`. -/
def supportedRestartCauses : List String :=
  ["CONTAINER_STOPPED", "CPU_SATURATION", "API_UNRESPONSIVE"]

/-- A plan that can be carried out; its steps are those of the plan with the given id. -/
structure PlanDraft where
  version : Nat := 1
  risk : String := "LOW"
  contentHash : String
  verificationProfile : String := "m1_default_restart_profile"
  steps : Nat → List RemediationStep

/-- The steps of a restart. -/
def TargetBinding.restartSteps (target : TargetBinding) (inspectId restartId waitId planId : Nat) :
    List RemediationStep :=
  [{ id := inspectId, planId := planId, resourceId := target.resourceId, position := 0,
     action := "inspect_container", containerId := some target.containerId,
     bindingGeneration := some target.bindingGeneration, serviceName := none,
     timeoutSeconds := none },
   { id := restartId, planId := planId, resourceId := target.resourceId, position := 1,
     action := "restart_container", containerId := some target.containerId,
     bindingGeneration := some target.bindingGeneration, serviceName := some target.serviceName,
     timeoutSeconds := some 30 },
   { id := waitId, planId := planId, resourceId := target.resourceId, position := 2,
     action := "wait_for_stabilization", containerId := none, bindingGeneration := none,
     serviceName := none, timeoutSeconds := none }]

/-- `DeterministicPlanner.create_plan`.  The plan for a cause that is not supported has no
profile, and is not looked at any further. -/
def createPlan (rootCause : String) (target : TargetBinding) : Prog (Option PlanDraft) := do
  let inspectId ← uuid4 p
  let restartId ← uuid4 p
  let waitId ← uuid4 p
  let answer ← Interleaving.Prog.stmt fun w db => some (.ok w.validate, db)
  match answer with
  | .invalid errors => throw ⟨.planValidationError, errors⟩
  | .valid contentHash =>
      if supportedRestartCauses.contains rootCause then
        pure (some
          { contentHash := contentHash
            steps := target.restartSteps inspectId restartId waitId })
      else pure none

/-- Add a plan; there is one of each version for an incident. -/
def insertPlan (t : TxId) (plan : RemediationPlan) : Prog Unit :=
  sql fun db =>
    if db.plans.any fun other =>
        other.incidentId = plan.incidentId ∧ other.version = plan.version then
      some (.error integrityError, db)
    else some (.ok (), db.add t (.plan plan))

/-- Add rows one after the other. -/
def insertRows (t : TxId) : List NewRow → Prog Unit
  | [] => pure ()
  | row :: rest => do
      insertRow t row
      insertRows t rest

def createRemediationPlanWithSteps (t : TxId) (incidentId diagnosisId : Nat) (draft : PlanDraft)
    (target : TargetBinding) : Prog RemediationPlan := do
  let diag ← select fun db => db.diagnoses.find? fun diag => diag.id = diagnosisId
  if diag.any fun diag => diag.incidentId = incidentId then
    let id ← uuid4 t.pid
    let plan : RemediationPlan :=
      { id := id, incidentId := incidentId, diagnosisId := diagnosisId, version := draft.version,
        risk := draft.risk, approved := false, contentHash := draft.contentHash,
        containerId := some target.containerId,
        bindingGeneration := some target.bindingGeneration,
        verificationProfile := some draft.verificationProfile }
    insertPlan t plan
    insertRows t ((draft.steps id).map NewRow.step)
    pure plan
  else throw ⟨.valueError, "Diagnosis does not belong to this incident"⟩

/-- The plan is made, and the incident planned or escalated. -/
def makePlan (diag : Diagnosis) (target : TargetBinding) : Prog IncidentGraphState := do
  let draft ← createPlan p diag.rootCause target
  match draft with
  | some draft =>
      let plan ← createRemediationPlanWithSteps ⟨p, 0⟩ state.incidentId diag.id draft target
      let inc ← transition ⟨p, 0⟩ actor state.incidentId state.version .planned
      pure
        { state with
          currentPlanId := some plan.id
          status := .planned
          version := inc.version
          planVersion := some plan.version
          contentHash := some plan.contentHash
          containerId := some target.containerId
          targetContainerId := some target.containerId
          bindingGeneration := some target.bindingGeneration
          serviceName := some target.serviceName
          risk := some plan.risk
          action := some "restart_container"
          verificationProfile := plan.verificationProfile
          scenarioId := plan.verificationProfile }
  | none =>
      let cause := diag.rootCause
      let incidentId := state.incidentId
      let reason := textOrElse diag.escalationReason
        s!"Diagnosis root cause '{cause}' cannot be safely remediated"
      createEscalationRecord ⟨p, 0⟩ incidentId s!"Planning Escalation: {cause}"
        s!"Incident {incidentId} escalated during planning due to {cause}" cause (some reason)
      createAttentionItem ⟨p, 0⟩
      let inc ← transition ⟨p, 0⟩ actor incidentId state.version .escalated
      pure
        { state with
          status := .planningEscalated, lastError := some reason, version := inc.version }

/-- The plan was found wanting, or the incident could not be moved. -/
def rejectPlan (diag : Diagnosis) (reason : String) : Prog IncidentGraphState := do
  let incidentId := state.incidentId
  createEscalationRecord ⟨p, 0⟩ incidentId "Planning Validation Escalation"
    s!"Incident {incidentId} failed plan validation" diag.rootCause (some reason)
  let inc ← transition ⟨p, 0⟩ actor incidentId state.version .escalated
  pure
    { state with
      status := .planningEscalated, lastError := some reason, version := inc.version }

def planNode : Prog IncidentGraphState :=
  match state.currentPlanId, state.currentDiagnosisId with
  | some _, _ => pure { state with status := .planned }
  | none, none =>
      throw ⟨.valueError, "Cannot plan remediation without an active diagnosis ID"⟩
  | none, some diagnosisId =>
      unitOfWork ⟨p, 0⟩ actor do
        let diag ← select fun db => db.diagnoses.find? fun diag => diag.id = diagnosisId
        match diag with
        | none => throw ⟨.lookupError, s!"Diagnosis {diagnosisId} not found in database"⟩
        | some diag =>
            let resource ← select fun db => db.resources state.resourceId
            match resource with
            | none =>
                let resourceId := state.resourceId
                throw ⟨.lookupError, s!"Resource {resourceId} not found in database"⟩
            | some resource =>
                let target := state.targetBinding resource
                check target.validated
                tryCatch (makePlan p actor state diag target) fun e =>
                  if e.exc.isValueError then rejectPlan p actor state diag e.message
                  else throw e

end Node

end SelfHealing
