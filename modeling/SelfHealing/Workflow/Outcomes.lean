/-
The nodes that decide what becomes of a plan: policy, approval, verification, resolution and
escalation.

The policy engine is a parameter: it decides on a context, or raises.  The verification node
leaves its wake-up in a transaction of its own, while the one in which it moves the incident is
still open.
-/
import SelfHealing.Workflow.Nodes

namespace SelfHealing

open Interleaving ReadCommitted

section Node

variable (p : Nat) (actor : String) (state : IncidentGraphState)

/-! ### Policy -/

/-- The policy engine with its default rules. -/
def defaultPolicy (ctx : EvaluationContext) : Except Err PolicyEvaluationDecision :=
  pure (evaluatePolicy ctx {})

/-- The facts of the state, those of the plan, the controls and the incident taking their place.
The time of the last execution, the state of the lock and the grant are not given.  A generation that
is there and is null is taken for one that is not there: the planner always gives one. -/
def IncidentGraphState.context (planId : Nat) (plan : Option RemediationPlan)
    (control : AutomationControl) (inc : Option Incident) (now : Int) : EvaluationContext :=
  let serviceName := state.serviceName.getD "demo-api"
  let containerId := textOrElse state.containerId
    (textOrElse state.targetContainerId "demo-api-container")
  let generation := state.bindingGeneration.getD 1
  { incidentId := state.incidentId
    planId := planId
    planVersion := (plan.map RemediationPlan.version).getD (state.planVersion.getD 1)
    contentHash := (plan.map RemediationPlan.contentHash).getD
      (state.contentHash.getD "default-hash")
    containerId := textOrElse (plan.bind RemediationPlan.containerId) containerId
    bindingGeneration :=
      ((plan.bind RemediationPlan.bindingGeneration).filter (· ≠ 0)).getD generation
    serviceName := serviceName
    action := state.action.getD "restart_container"
    risk := (plan.map RemediationPlan.risk).getD (state.risk.getD "LOW")
    confidence := state.confidence.getD (90 / 100)
    rootCause := state.rootCause.getD "CONTAINER_STOPPED"
    attempts := state.attempts
    retryLimit := state.retryLimit
    automationMode :=
      if control.mode = .automatic ∧ inc.any Incident.approvalRequired then .approvalRequired
      else control.mode
    emergencyStoppedResources :=
      if inc.any fun inc =>
          control.emergencyStoppedResources.contains (toString inc.resourceId) then
        control.emergencyStoppedResources ++ [serviceName]
      else control.emergencyStoppedResources
    currentTime := now }

/-- The first transaction of `evaluate_policy_node`: what the decision is made on. -/
def policyContext (planId : Nat) : Prog EvaluationContext := do
  let (plan, control, inc) ← unitOfWork ⟨p, 0⟩ actor do
    let plan ← select fun db => db.plans.find? fun plan => plan.id = planId
    let control ← getAutomationControls ⟨p, 0⟩ actor
    let inc ← getIncident ⟨p, 0⟩ state.incidentId
    pure (plan, control, inc)
  let now ← datetimeNow
  pure (state.context planId plan control inc now)

/-- `', '.join`. -/
def joinCodes (codes : List String) : String := ", ".intercalate codes

def recordPolicyDecision (t : TxId) (planId : Nat) (ctx : EvaluationContext)
    (decision : PolicyEvaluationDecision) : Prog Nat := do
  let id ← uuid4 t.pid
  insertRow t (.decision
    { id := id, incidentId := state.incidentId, planId := planId, planVersion := ctx.planVersion,
      decision := decision.decision, reasonCodes := decision.reasonCodes })
  pure id

/-- The incident is to wait for an approval, if it is planned. -/
def awaitApproval (t : TxId) (found : Option Incident) : Prog (Option Incident) :=
  match found.filter fun inc => inc.state = .planned with
  | none => pure none
  | some inc => do
      let inc ←
        if inc.approvalRequired then pure inc
        else requireIncidentApproval t state.incidentId inc.version
      let inc ← transition t actor state.incidentId inc.version .pendingApproval
      pure (some inc)

/-- The incident is denied its plan, and escalated if it is planned. -/
def denyPlan (t : TxId) (found : Option Incident) (ctx : EvaluationContext)
    (decision : PolicyEvaluationDecision) : Prog (Option Incident) := do
  let codes := joinCodes decision.reasonCodes
  let inc ←
    match found.filter fun inc => inc.state = .planned with
    | none => pure none
    | some inc => do
        let inc ← transition t actor state.incidentId inc.version .escalated
        pure (some inc)
  createEscalationRecord t state.incidentId "Policy Evaluation Denial"
    s!"Remediation plan denied by policy: {codes}" ctx.rootCause
    (some s!"Policy denied: {codes}")
  pure inc

/-- The second transaction of `evaluate_policy_node`.  A wake-up for a deferred plan is asked of
a method that the repository does not have. -/
def applyDecision (planId : Nat) (ctx : EvaluationContext) (decision : PolicyEvaluationDecision) :
    Prog (Nat × Option Incident) :=
  unitOfWork ⟨p, 0⟩ actor do
    let id ← recordPolicyDecision state ⟨p, 0⟩ planId ctx decision
    let found ← getIncident ⟨p, 0⟩ state.incidentId
    match decision.decision with
    | .allow => pure (id, none)
    | .requireApproval =>
        let inc ← awaitApproval actor state ⟨p, 0⟩ found
        pure (id, inc)
    | .deny =>
        let inc ← denyPlan actor state ⟨p, 0⟩ found ctx decision
        pure (id, inc)
    | .defer =>
        if decision.deferUntil.isSome then
          throw ⟨.attributeError,
            "'ControlPlaneRepository' object has no attribute 'schedule_workflow'"⟩
        else pure (id, none)

/-- What the node puts into the state. -/
def IncidentGraphState.decided (decision : PolicyEvaluationDecision) (id version : Nat) :
    IncidentGraphState :=
  let state :=
    { state with
      policyDecision := some decision.decision
      policyDecisionId := some id
      approvalRequired := some (decide (decision.decision = PolicyDecisionOutcome.requireApproval))
      version := version }
  match decision.decision with
  | .allow => { state with status := .policyEvaluated, waitReason := none }
  | .requireApproval =>
      { state with status := .pendingApproval, waitReason := some .awaitingApproval }
  | .defer =>
      { state with
        status := .policyDeferred
        waitReason := some (decision.waitReason.getD .cooldown)
        deferUntil := decision.deferUntil }
  | .deny =>
      let codes := joinCodes decision.reasonCodes
      { state with
        status := .policyDenied
        waitReason := none
        escalationReason := some s!"Policy evaluation denied remediation: {codes}" }

def evaluatePolicyNode (evaluate : EvaluationContext → Except Err PolicyEvaluationDecision) :
    Prog IncidentGraphState :=
  match state.currentPlanId with
  | none => throw ⟨.valueError, "Cannot evaluate policy without an active plan ID"⟩
  | some planId => do
      let ctx ← policyContext p actor state planId
      let decision ← check (evaluate ctx)
      let (id, inc) ← applyDecision p actor state planId ctx decision
      pure (state.decided decision id ((inc.map Incident.version).getD state.version))

/-- `evaluate_policy_node`, with the context that its caller may have prepared.  Without a plan
there is nothing to store the decision with. -/
def evaluatePolicyNodeOn (context : Option EvaluationContext)
    (evaluate : EvaluationContext → Except Err PolicyEvaluationDecision) :
    Prog IncidentGraphState :=
  match state.currentPlanId, context with
  | none, none => throw ⟨.valueError, "Cannot evaluate policy without an active plan ID"⟩
  | none, some ctx => do
      let decision ← check (evaluate ctx)
      let id ← uuid4 p
      pure (state.decided decision id state.version)
  | some planId, context => do
      let ctx ←
        match context with
        | some ctx => pure ctx
        | none => policyContext p actor state planId
      let decision ← check (evaluate ctx)
      let (id, inc) ← applyDecision p actor state planId ctx decision
      pure (state.decided decision id ((inc.map Incident.version).getD state.version))

/-! ### Approval -/

/-- `wait_for_approval_node`.  The key that says that a plan was denied is none of the state's. -/
def waitForApprovalNode : Prog IncidentGraphState :=
  if state.approvalExpired = some true then
    pure
      { state with
        status := .escalated
        waitReason := none
        escalationReason := some
          (state.escalationReason.getD "Approval rejected or expired.") }
  else if state.isApproved = some true then
    pure { state with status := .approved, waitReason := none }
  else pure { state with status := .pendingApproval, waitReason := some .awaitingApproval }

/-! ### Verification -/

def defaultResourceCooldownSeconds : Int := 600

def defaultWorkflowTimeoutSeconds : Int := 2700

/-- `f"{elapsed:.0f}"`: the nearest whole number of seconds, and the even one of two. -/
def wholeSeconds (elapsed : Int) : String :=
  let below := elapsed / seconds 1
  let rest := 2 * (elapsed % seconds 1)
  let rounded :=
    if rest < seconds 1 ∨ (rest = seconds 1 ∧ below % 2 = 0) then below else below + 1
  if rounded = 0 ∧ elapsed < 0 then "-0" else toString rounded

/-- `is_retry_eligible`: whether, and if not, why not. -/
def isRetryEligibleWithin (attempts retryLimit : Nat) (workflowStartedAt : Option Int)
    (cooldownSeconds maxWorkflowDurationSeconds now : Int) : Bool × String :=
  if retryLimit ≤ attempts then
    (false, s!"Retry budget exhausted ({attempts}/{retryLimit} retries used)")
  else
    match workflowStartedAt with
    | none => (true, "Retry eligible")
    | some startedAt =>
        let elapsed := now - startedAt
        if seconds maxWorkflowDurationSeconds < elapsed + seconds cooldownSeconds + seconds 90 then
          (false, s!"Workflow deadline would be exceeded (elapsed {wholeSeconds elapsed}s" ++
            s!" + cooldown {cooldownSeconds}s > {maxWorkflowDurationSeconds}s)")
        else (true, "Retry eligible")

/-- `is_retry_eligible`, without a start of the workflow: whether, and if not, why not. -/
def isRetryEligible (attempts retryLimit : Nat) : Bool × String :=
  if retryLimit ≤ attempts then
    (false, s!"Retry budget exhausted ({attempts}/{retryLimit} retries used)")
  else (true, "Retry eligible")

/-- Move an incident that is being verified on to `target`. -/
def leaveVerification (t : TxId) (found : Option Incident) (target : IncidentState) :
    Prog (Option Incident) :=
  match found.filter fun inc => inc.state = .verifying with
  | none => pure found
  | some inc => do
      let inc ← transition t actor state.incidentId inc.version target
      pure (some inc)

/-- Why a recovery is not the agent's. -/
def VerdictAnswer.externalReason (verdict : VerdictAnswer) : String :=
  textOrElse verdict.failureReason "Fault expired or cleared externally before verification"

/-- Scenario B: the fault went away by itself. -/
def escalateExternal (t : TxId) (found : Option Incident) (reason : String) :
    Prog (Option Incident) := do
  let incidentId := state.incidentId
  let inc ← leaveVerification actor state t found .escalated
  createEscalationRecord t incidentId "External Fault Clearance"
    s!"Incident {incidentId} recovered externally: {reason}" "EXTERNALLY_RECOVERED" (some reason)
  createAttentionItem t
  pure inc

/-- Scenario C, when no retry is left. -/
def escalateExhausted (t : TxId) (found : Option Incident) (reason : String) :
    Prog (Option Incident) := do
  let inc ← leaveVerification actor state t found .escalated
  createEscalationRecord t state.incidentId "Verification Failed - Retries Exhausted"
    s!"Remediation verification failed: {reason}" "VERIFICATION_FAILED" (some reason)
  createAttentionItem t
  pure inc

/-- Scenario C, when a retry is left: the incident goes back if it is being verified, and the
wake-up is scheduled in any case. -/
def scheduleRetry (found : Option Incident)
    (cooldownSeconds : Int := defaultResourceCooldownSeconds) : Prog (Option Incident) := do
  let inc ← leaveVerification actor state ⟨p, 0⟩ found .diagnosed
  let _ ← scheduleRetryCooldown ⟨p, 1⟩ actor state.incidentId
    ((inc.map Incident.version).getD state.version) cooldownSeconds
  pure inc

/-- The version of the incident, or of the state if there is none. -/
def IncidentGraphState.at (inc : Option Incident) : IncidentGraphState :=
  { state with version := (inc.map Incident.version).getD state.version }

/-- The transaction of `verify_node`. -/
def settleVerdict (verdict : VerdictAnswer)
    (cooldownSeconds : Int := defaultResourceCooldownSeconds) : Prog IncidentGraphState :=
  unitOfWork ⟨p, 0⟩ actor do
    let found ← getIncident ⟨p, 0⟩ state.incidentId
    -- the result of the verification
    insertElsewhere
    if verdict.passed = true ∧ verdict.attribution = .agentHealed then
      let inc ← leaveVerification actor state ⟨p, 0⟩ found .resolved
      pure
        { state.at inc with
          status := .resolved
          verificationPassed := some true
          retryEligible := some false
          attribution := some "AGENT_HEALED" }
    else if verdict.attribution = .externallyRecovered ∨ verdict.attribution = .inconclusive then
      let inc ← escalateExternal actor state ⟨p, 0⟩ found verdict.externalReason
      pure
        { state.at inc with
          status := .escalated
          verificationPassed := some false
          retryEligible := some false
          attribution := some
            (if verdict.attribution = .inconclusive then "INCONCLUSIVE"
            else "EXTERNALLY_RECOVERED")
          lastError := some verdict.externalReason }
    else
      let attempts := (found.map Incident.attempts).getD state.attempts
      let retryLimit := (found.map Incident.retryLimit).getD state.retryLimit
      let (eligible, ineligible) := isRetryEligible attempts retryLimit
      if eligible then
        let inc ← scheduleRetry p actor state found cooldownSeconds
        pure
          { state.at inc with
            status := .cooldownScheduled
            verificationPassed := some false
            retryEligible := some true
            waitReason := some .cooldown
            attempts := (inc.map Incident.attempts).getD attempts
            lastError := some
              (textOrElse verdict.failureReason "Verification failed; retry scheduled") }
      else
        let reason := textOrElse verdict.failureReason ineligible
        let inc ← escalateExhausted actor state ⟨p, 0⟩ found reason
        pure
          { state.at inc with
            status := .verificationEscalated
            verificationPassed := some false
            retryEligible := some false
            lastError := some reason }

/-- The scenario that `verify_node` asks the verifier about: what the state names, if that is one,
or else that of the root cause. -/
def verifiedScenario : Option String :=
  let validScenarios := causeToScenario.map Prod.snd
  match ((state.scenarioId.filter (· ≠ "")).or state.verificationProfile).filter
      validScenarios.contains with
  | some candidate => some candidate
  | none => do
      let rc ← state.rootCause
      (causeToScenario.lookup rc).or (if validScenarios.contains rc then some rc else none)

/-- `verify_node`.  An execution that the state does not name is looked up first. -/
def verifyNode (cooldownSeconds : Int := defaultResourceCooldownSeconds) :
    Prog IncidentGraphState := do
  if (state.executionId.or state.currentExecutionId).isNone then
    unitOfWork ⟨p, 0⟩ actor (select fun _ => ())
  let verdict ← service World.verify
  settleVerdict p actor state verdict cooldownSeconds

/-! ### The end -/

/-- Move the incident to where it ends; whatever goes wrong is logged only, and the end is
reported in any case. -/
def terminalNode (target : IncidentState) (status : WorkflowStatus) : Prog IncidentGraphState := do
  let version ← tryCatch
    (unitOfWork ⟨p, 0⟩ actor do
      let found ← getIncident ⟨p, 0⟩ state.incidentId
      match found.filter fun inc => inc.state = target with
      | some inc => pure inc.version
      | none =>
          let inc ← transition ⟨p, 0⟩ actor state.incidentId state.version target
          pure inc.version)
    (fun _ => pure state.version)
  pure { state with status := status, version := version }

def escalateNode : Prog IncidentGraphState := terminalNode p actor state .escalated .escalated

def resolveNode : Prog IncidentGraphState := terminalNode p actor state .resolved .resolved

end Node

end SelfHealing
