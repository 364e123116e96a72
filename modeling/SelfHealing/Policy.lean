/-
The policy engine.

Ten gates look at what is known of a plan, each by itself, and the decision is made from all of
them together: hard denials first, then what has to wait, then what needs an approval.  Of what a
gate reports, the value observed, the threshold and the message are left out: they are stored with
the decision, and nothing reads them.
-/
import Mathlib.Data.Rat.Defs
import SelfHealing.Texts

namespace SelfHealing

/-! ### Floats

A float is known by its value, which is all that a comparison looks at: neither the sign of a zero
nor the bits of what is no number make a difference to it.  Nothing is computed with the floats of
a rule set or of a context, so that no result has to be rounded.
-/

/-- What a float is. -/
inductive FloatValue
  | number (value : Rat)
  | infinity (negative : Bool)
  | notANumber
deriving DecidableEq, Repr

/-- `x < y`: what is no number is not below anything, and nothing is below it. -/
def FloatValue.less : FloatValue → FloatValue → Bool
  | .number x, .number y => decide (x < y)
  | .number _, .infinity negative => !negative
  | .infinity negative, .number _ => negative
  | .infinity negative, .infinity negative' => negative && !negative'
  | _, _ => false

/-- The float nearest to 0.60. -/
def float60 : FloatValue := .number (5404319552844595 / 2 ^ 53)

/-- The float nearest to 0.85. -/
def float85 : FloatValue := .number (7656119366529843 / 2 ^ 53)

/-! ### Rule sets and contexts -/

/-- `PolicyRuleSet`. -/
structure PolicyRuleSet where
  name : String := "m1_default_policy"
  version : Nat := 2
  autoApprovalConfidenceThreshold : FloatValue := float85
  minApprovalConfidenceThreshold : FloatValue := float60
  retryLimit : Int := 2
  cooldownSeconds : Int := 600
  allowedEnvironments : List String := ["local"]
  allowedActions : List String :=
    ["restart_container", "inspect_container", "wait_for_stabilization", "notify_operator",
      "open_incident_ticket"]
  allowedTargets : List String := ["demo-api"]
  requireLowRiskForApproval : Bool := true
  evidenceFreshnessLimitSeconds : Int := 300

/-- The keys of an approval grant that are read. -/
structure ApprovalGrant where
  decision : String := ""
  planVersion : Option Nat := none
  contentHash : Option String := none
  expiresAt : Option Int := none
  approverRole : String := ""
deriving DecidableEq, Repr

/-- `EvaluationContext`; of the evidence summary, its age in seconds. -/
structure EvaluationContext where
  incidentId : Nat
  planId : Nat
  planVersion : Nat
  contentHash : String
  containerId : String
  bindingGeneration : Int
  serviceName : String
  environment : String := "local"
  action : String := "restart_container"
  risk : String := "LOW"
  confidence : Rat := 0
  rootCause : String := "UNKNOWN"
  evidenceAgeSeconds : Option Rat := none
  attempts : Nat := 0
  retryLimit : Nat := 2
  lastExecutionTime : Option Int := none
  isResourceLocked : Bool := false
  approvalGrant : Option ApprovalGrant := none
  automationMode : AutomationMode := .approvalRequired
  emergencyStoppedResources : List String := []
  currentTime : Int

structure RuleEvaluationResult where
  ruleName : String
  passed : Bool
  reasonCode : String
deriving DecidableEq, Repr

/-- What the engine decides, beside the facts of the context that it repeats. -/
structure PolicyEvaluationDecision where
  decision : PolicyDecisionOutcome
  policyName : String
  policyVersion : Nat
  ruleResults : List RuleEvaluationResult
  reasonCodes : List String
  deferUntil : Option Int := none
  waitReason : Option WaitReason := none
deriving DecidableEq, Repr

/-! ### The gates -/

section Gates

variable (ctx : EvaluationContext) (rules : PolicyRuleSet)

/-- A gate that reports one of two codes. -/
def ruleResult (ruleName : String) (passed : Bool) (passCode failCode : String) :
    RuleEvaluationResult :=
  { ruleName := ruleName, passed := passed, reasonCode := if passed then passCode else failCode }

/-- Gate 1. -/
def evaluateKillSwitch : RuleEvaluationResult :=
  ruleResult "global_kill_switch" (decide (ctx.automationMode ≠ .disabled))
    "KILL_SWITCH_INACTIVE" "GLOBAL_KILL_SWITCH_ACTIVE"

/-- Gate 2. -/
def evaluateEmergencyStop : RuleEvaluationResult :=
  ruleResult "resource_emergency_stop"
    (!(ctx.emergencyStoppedResources.contains ctx.serviceName ||
      ctx.emergencyStoppedResources.contains ctx.containerId))
    "EMERGENCY_STOP_INACTIVE" "RESOURCE_EMERGENCY_STOP"

/-- Gate 3. -/
def evaluateProhibitedAction : RuleEvaluationResult :=
  if !rules.allowedActions.contains ctx.action then
    ⟨"prohibited_action", false, "PROHIBITED_ACTION"⟩
  else if rules.requireLowRiskForApproval && decide (textUpper ctx.risk ≠ "LOW") then
    ⟨"prohibited_action", false, "RISK_LEVEL_EXCEEDED"⟩
  else ⟨"prohibited_action", true, "ACTION_PERMITTED"⟩

/-- Gate 4. -/
def evaluateAllowlist : RuleEvaluationResult :=
  ruleResult "target_allowlist" (rules.allowedTargets.contains ctx.serviceName)
    "TARGET_ALLOWLISTED" "TARGET_NOT_ALLOWLISTED"

/-- Gate 5. -/
def evaluateEnvironment : RuleEvaluationResult :=
  ruleResult "target_environment"
    ((rules.allowedEnvironments.map textLower).contains (textLower ctx.environment))
    "ENVIRONMENT_ALLOWED" "ENVIRONMENT_MISMATCH"

/-- The causes that are never remediated. -/
def unsupportedCauses : List String :=
  ["AMBIGUOUS", "INSUFFICIENT_EVIDENCE", "NO_ACTIVE_FAULT", "DEPENDENCY_UNAVAILABLE", "UNKNOWN"]

/-- Gate 6. -/
def evaluateConfidenceAndEvidence : RuleEvaluationResult :=
  if unsupportedCauses.contains ctx.rootCause then
    ⟨"diagnosis_confidence", false, "EVIDENCE_INSUFFICIENT_OR_AMBIGUOUS"⟩
  else if ctx.evidenceAgeSeconds.any
      (fun age => decide ((rules.evidenceFreshnessLimitSeconds : Rat) < age)) then
    ⟨"diagnosis_confidence", false, "EVIDENCE_STALE"⟩
  else if (FloatValue.number ctx.confidence).less rules.minApprovalConfidenceThreshold then
    ⟨"diagnosis_confidence", false, "CONFIDENCE_TOO_LOW"⟩
  else if (FloatValue.number ctx.confidence).less rules.autoApprovalConfidenceThreshold then
    ⟨"diagnosis_confidence", true, "APPROVAL_REQUIRED_LOW_CONFIDENCE"⟩
  else ⟨"diagnosis_confidence", true, "HIGH_CONFIDENCE_ELIGIBLE"⟩

/-- Gate 7. -/
def evaluateAttemptBudget : RuleEvaluationResult :=
  ruleResult "attempt_budget" (decide ((ctx.attempts : Int) < 1 + rules.retryLimit))
    "ATTEMPT_BUDGET_AVAILABLE" "ATTEMPT_BUDGET_EXHAUSTED"

/-- Gate 8. -/
def evaluateCooldown : RuleEvaluationResult :=
  match ctx.lastExecutionTime with
  | none => ⟨"resource_cooldown", true, "COOLDOWN_SATISFIED"⟩
  | some last =>
      ruleResult "resource_cooldown"
        (decide (seconds rules.cooldownSeconds ≤ ctx.currentTime - last))
        "COOLDOWN_SATISFIED" "IN_COOLDOWN"

/-- Gate 9. -/
def evaluateResourceLock : RuleEvaluationResult :=
  ruleResult "resource_lock_eligibility" (!ctx.isResourceLocked)
    "RESOURCE_LOCK_AVAILABLE" "RESOURCE_LOCKED"

/-- The code of a grant that has to be there: why it does not count, or that it does. -/
def approvalGrantCode (grant : Option ApprovalGrant) : String :=
  match grant with
  | none => "APPROVAL_REQUIRED"
  | some grant =>
      let decision := textUpper grant.decision
      if decision = "REJECT" then "APPROVAL_REJECTED"
      else if decision ≠ "APPROVE" then "APPROVAL_DECISION_INVALID"
      else if grant.planVersion ≠ some ctx.planVersion then "APPROVAL_PLAN_VERSION_MISMATCH"
      else if grant.contentHash.any fun hash => hash ≠ "" ∧ hash ≠ ctx.contentHash then
        "APPROVAL_CONTENT_HASH_MISMATCH"
      else if grant.expiresAt.any fun expiry => expiry ≤ ctx.currentTime then "APPROVAL_EXPIRED"
      else if grant.approverRole ≠ "approver" ∧ grant.approverRole ≠ "admin" then
        "UNAUTHORIZED_APPROVER_ROLE"
      else "APPROVAL_VALID"

/-- Somebody has to approve. -/
def EvaluationContext.requiresApproval : Bool :=
  decide (ctx.automationMode = .approvalRequired) ||
    (FloatValue.number ctx.confidence).less rules.autoApprovalConfidenceThreshold

/-- Gate 10. -/
def evaluateApprovalRequirement : RuleEvaluationResult :=
  if ctx.requiresApproval rules then
    let code := approvalGrantCode ctx ctx.approvalGrant
    ⟨"approval_requirement", decide (code = "APPROVAL_VALID"), code⟩
  else ⟨"approval_requirement", true, "AUTOMATIC_EXECUTION_PERMITTED"⟩

/-! ### The decision -/

/-- The codes of gate 10 that deny. -/
def deniedApprovals : List String :=
  ["APPROVAL_REJECTED", "APPROVAL_EXPIRED", "APPROVAL_PLAN_VERSION_MISMATCH",
    "APPROVAL_CONTENT_HASH_MISMATCH", "UNAUTHORIZED_APPROVER_ROLE", "APPROVAL_DECISION_INVALID"]

/-- The gates that deny when they do not pass. -/
def hardDenials : List RuleEvaluationResult :=
  [evaluateKillSwitch ctx, evaluateEmergencyStop ctx, evaluateProhibitedAction ctx rules,
    evaluateAllowlist ctx rules, evaluateEnvironment ctx rules, evaluateAttemptBudget ctx rules,
    evaluateConfidenceAndEvidence ctx rules]

/-- Some gate denies. -/
def hardDeny : Bool :=
  let approval := evaluateApprovalRequirement ctx rules
  (hardDenials ctx rules).any (fun r => !r.passed) ||
    (!approval.passed && deniedApprovals.contains approval.reasonCode)

/-- The codes in the order of the gates; gates 6 and 10 always give theirs. -/
def reasonCodes : List String :=
  let failing := fun r : RuleEvaluationResult => if r.passed then [] else [r.reasonCode]
  failing (evaluateKillSwitch ctx) ++ failing (evaluateEmergencyStop ctx) ++
    failing (evaluateProhibitedAction ctx rules) ++ failing (evaluateAllowlist ctx rules) ++
    failing (evaluateEnvironment ctx rules) ++
    [(evaluateConfidenceAndEvidence ctx rules).reasonCode] ++
    failing (evaluateAttemptBudget ctx rules) ++ failing (evaluateCooldown ctx rules) ++
    failing (evaluateResourceLock ctx) ++ [(evaluateApprovalRequirement ctx rules).reasonCode]

/-- The outcome, until when to wait if that is known, and what for. -/
def policyOutcome : PolicyDecisionOutcome × Option Int × Option WaitReason :=
  let approval := evaluateApprovalRequirement ctx rules
  if hardDeny ctx rules then (.deny, none, none)
  else if !(evaluateCooldown ctx rules).passed then
    (.defer, ctx.lastExecutionTime.map (· + seconds rules.cooldownSeconds), some .waitingForCooldown)
  else if !(evaluateResourceLock ctx).passed then (.defer, none, some .waitingForLock)
  else if !approval.passed && decide (approval.reasonCode = "APPROVAL_REQUIRED") then
    (.requireApproval, none, some .awaitingApproval)
  else (.allow, none, none)

/-- `PolicyEngine.evaluate`. -/
def evaluatePolicy : PolicyEvaluationDecision :=
  { decision := (policyOutcome ctx rules).1
    policyName := rules.name
    policyVersion := rules.version
    ruleResults :=
      [evaluateKillSwitch ctx, evaluateEmergencyStop ctx, evaluateProhibitedAction ctx rules,
        evaluateAllowlist ctx rules, evaluateEnvironment ctx rules,
        evaluateConfidenceAndEvidence ctx rules, evaluateAttemptBudget ctx rules,
        evaluateCooldown ctx rules, evaluateResourceLock ctx,
        evaluateApprovalRequirement ctx rules]
    reasonCodes := reasonCodes ctx rules
    deferUntil := (policyOutcome ctx rules).2.1
    waitReason := (policyOutcome ctx rules).2.2 }

end Gates

end SelfHealing
