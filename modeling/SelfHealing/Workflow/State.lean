/-
The state of an incident's workflow.

Nodes hand on the state with the keys they return put into it.  A key that is missing
and a key that holds nothing are both `none`: the modelled nodes treat them alike
wherever they can be told apart.  The bundle of observations is left out: only the
diagnosis engine reads it, whose answers come from outside here.
-/
import SelfHealing.Records

namespace SelfHealing

/-- What a node reports. -/
inductive WorkflowStatus
  | running
  | evidenceCollected
  | diagnosed
  | diagnosisEscalated
  | planned
  | planningEscalated
  | policyEvaluated
  | policyDeferred
  | policyDenied
  | pendingApproval
  | approved
  | executed
  | precheckEscalated
  | executionFailed
  | cooldownScheduled
  | verificationEscalated
  | resolved
  | escalated
deriving DecidableEq, Repr

structure IncidentGraphState where
  incidentId : Nat
  version : Nat := 1
  correlationKey : String := ""
  resourceId : Nat
  currentDiagnosisId : Option Nat := none
  parentDiagnosisId : Option Nat := none
  currentPlanId : Option Nat := none
  attempts : Nat := 0
  retryLimit : Nat := 2
  approvalRequired : Option Bool := none
  isApproved : Option Bool := none
  approvalExpired : Option Bool := none
  isResumedFromApproval : Option Bool := none
  waitReason : Option WaitReason := none
  status : WorkflowStatus := .running
  evidenceIds : List Nat := []
  isActionable : Option Bool := none
  lastError : Option String := none
  escalationReason : Option String := none
  verificationPassed : Option Bool := none
  retryEligible : Option Bool := none
  nextEligibleAt : Option Int := none
  targetContainerId : Option String := none
  containerId : Option String := none
  bindingGeneration : Option Int := none
  serviceName : Option String := none
  rootCause : Option String := none
  scenarioId : Option String := none
  verificationProfile : Option String := none
  planVersion : Option Nat := none
  contentHash : Option String := none
  action : Option String := none
  risk : Option String := none
  confidence : Option Rat := none
  policyDecision : Option PolicyDecisionOutcome := none
  policyDecisionId : Option Nat := none
  deferUntil : Option Int := none
  currentStepId : Option Nat := none
  executionId : Option Nat := none
  currentExecutionId : Option Nat := none
  attribution : Option String := none
deriving DecidableEq, Repr

end SelfHealing
