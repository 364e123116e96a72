/-
The policy engine, on everything that it can be given.

A context says of its grant and its evidence only that they are dictionaries, and of its times
that they are times: a key may be missing, a value may be of any type, and a time may come with a
zone or without.  Here the engine is modelled on such contexts.  The gates that read nothing of
this kind are those of the engine on typed contexts; the others may raise, and gate 8 writes the
time that it has aligned back into the context, where gate 10 and the engine read it.

What raises is of three kinds.  A value may be of a type that is not asked what the gate asks it:
an age without an order, a decision without letters, an expiry without a zone.  A number may be
too great: an integer is written only if it has at most so many digits, and it becomes a float, to
be written with one place or to have a float taken from it, only below a bound.  And the end of a
cooldown may be after the last time that there is, or before the first.  The messages of the gates
are not modelled, but whether they can be written is.

Times are counted in microseconds from 1970 on, elapsed times are exact, and a zone is its offset
from UTC.
-/
import SelfHealing.Policy
import Mathlib.Algebra.Group.Nat.Defs

namespace SelfHealing

/-! ### Times -/

/-- `datetime`: what the clock shows, and the offset of the zone if there is one. -/
structure DateTime where
  wall : Int
  utcOffset : Option Int := none
deriving DecidableEq, Repr

/-- `replace(tzinfo=..)`. -/
def DateTime.inZone (t : DateTime) (utcOffset : Option Int) : DateTime :=
  { t with utcOffset := utcOffset }

/-- The instant: a time without a zone is taken for one of UTC. -/
def DateTime.instant (t : DateTime) : Int := t.wall - t.utcOffset.getD 0

/-- The clock shows a time of the years from 1 to 9999. -/
def DateTime.InRange (t : DateTime) : Prop :=
  seconds (-62135596800) ≤ t.wall ∧ t.wall < seconds 253402300800

instance (t : DateTime) : Decidable t.InRange :=
  inferInstanceAs (Decidable (_ ∧ _))

/-- The time that the clock shows after a while, whether there is such a time or not. -/
def DateTime.shifted (t : DateTime) (elapsed : Int) : DateTime :=
  { t with wall := t.wall + elapsed }

/-- The sum of a time and a `timedelta`.  A `timedelta` that there is not is longer than all times
that there are together. -/
def DateTime.plus (t : DateTime) (elapsed : Int) : Except Err DateTime :=
  if (t.shifted elapsed).InRange then pure (t.shifted elapsed)
  else throw ⟨.overflowError, "date value out of range"⟩

/-- A time without a zone is taken for one of the zone of the other time. -/
def DateTime.alignedTo (t other : DateTime) : DateTime :=
  if t.utcOffset.isNone ∧ other.utcOffset.isSome then t.inZone other.utcOffset else t

/-! ### Integers

An integer is as great as it likes, but what is made of it is not: its digits are written up to a
number of them, and a float is made of it up to the greatest one.
-/

/-- `str(n)` does not raise. -/
def Printable (n : Int) : Prop := n.natAbs < 10 ^ intMaxStrDigits

instance (n : Int) : Decidable (Printable n) :=
  inferInstanceAs (Decidable (_ < _))

/-- `float(n)` does not raise: it is not rounded to the power of two that is above all floats. -/
def FitsFloat (n : Int) : Prop := n.natAbs < 2 ^ 1024 - 2 ^ 970

instance (n : Int) : Decidable (FitsFloat n) :=
  inferInstanceAs (Decidable (_ < _))

-- The powers are not to be computed in a proof that compares two computations.
attribute [irreducible] Printable FitsFloat

/-- The integer is written into a message. -/
def writeInt (n : Int) : Except Err Unit :=
  if Printable n then pure ()
  else throw ⟨.valueError, "Exceeds the limit (4300 digits) for integer string conversion"⟩

/-- The integer is made a float. -/
def makeFloat (n : Int) : Except Err Unit :=
  if FitsFloat n then pure () else throw ⟨.overflowError, "int too large to convert to float"⟩

/-! ### Values -/

/-- A value of a dictionary.  Of a value of another type it is known whether it counts as true,
whether it can be hashed and whether it can be written; it has no order with a number, it equals no
number and no text, and it has neither letters nor a zone. -/
inductive PyValue
  | pyNone
  | bool (b : Bool)
  | int (n : Int)
  | float (x : FloatValue)
  | decimal (x : FloatValue)
  | text (s : String)
  | datetime (t : DateTime)
  | other (truthy hashable printable : Bool)
deriving DecidableEq

abbrev PyDict := List (String × PyValue)

/-- `dict.get`. -/
def PyDict.get (dict : PyDict) (key : String) (default : PyValue := .pyNone) : PyValue :=
  (dict.lookup key).getD default

def PyValue.truthy : PyValue → Bool
  | .pyNone => false
  | .bool b => b
  | .int n => decide (n ≠ 0)
  | .float x | .decimal x => decide (x ≠ .number 0)
  | .text s => decide (s ≠ "")
  | .datetime _ => true
  | .other truthy _ _ => truthy

/-- The number that a value equals, if it equals one. -/
def PyValue.number : PyValue → Option Rat
  | .bool b => some (if b then 1 else 0)
  | .int n => some n
  | .float (.number x) | .decimal (.number x) => some x
  | _ => none

/-- What the value is beside the integers, where it has an order with them; a decimal that is no
number refuses to be compared. -/
def PyValue.magnitude : PyValue → Except Err FloatValue
  | .bool b => pure (.number (if b then 1 else 0))
  | .int n => pure (.number n)
  | .float x => pure x
  | .decimal .notANumber => throw ⟨.invalidOperation, "comparison involving NaN"⟩
  | .decimal x => pure x
  | _ => throw ⟨.typeError, "'>' not supported between instances"⟩

/-- The value is written into a message. -/
def PyValue.write : PyValue → Except Err Unit
  | .int n => writeInt n
  | .other _ _ false => throw ⟨.valueError, "cannot be written"⟩
  | _ => pure ()

/-- The value is written into a message as a number with one place. -/
def PyValue.writeFixed : PyValue → Except Err Unit
  | .int n => makeFloat n
  | _ => pure ()

/-- `.upper()`. -/
def PyValue.upper : PyValue → Except Err String
  | .text s => pure (textUpper s)
  | _ => throw ⟨.attributeError, "object has no attribute 'upper'"⟩

/-- `value in texts`, of a set. -/
def PyValue.among (value : PyValue) (texts : List String) : Except Err Bool :=
  match value with
  | .text s => pure (texts.contains s)
  | .other _ false _ => throw ⟨.typeError, "unhashable type"⟩
  | _ => pure false

/-! ### The context -/

/-- `EvaluationContext`. -/
structure PolicyInputs where
  incidentId : Nat
  planId : Nat
  planVersion : Int
  contentHash : String
  containerId : String
  bindingGeneration : Int
  serviceName : String
  environment : String := "local"
  action : String := "restart_container"
  risk : String := "LOW"
  confidence : FloatValue := .number 0
  rootCause : String := "UNKNOWN"
  evidenceSummary : PyDict := []
  attempts : Int := 0
  retryLimit : Int := 2
  lastExecutionTime : Option DateTime := none
  isResourceLocked : Bool := false
  lockOwner : Option String := none
  approvalGrant : Option PyDict := none
  automationMode : AutomationMode := .approvalRequired
  emergencyStoppedResources : List String := []
  currentTime : DateTime

section Gates

variable (ctx : PolicyInputs) (rules : PolicyRuleSet)

/-- What the gates read that look at none of the confidence, the grant, the evidence, the attempts
and the times. -/
def PolicyInputs.facts : EvaluationContext :=
  { incidentId := ctx.incidentId
    planId := ctx.planId
    planVersion := ctx.planVersion.toNat
    contentHash := ctx.contentHash
    containerId := ctx.containerId
    bindingGeneration := ctx.bindingGeneration
    serviceName := ctx.serviceName
    environment := ctx.environment
    action := ctx.action
    risk := ctx.risk
    rootCause := ctx.rootCause
    isResourceLocked := ctx.isResourceLocked
    automationMode := ctx.automationMode
    emergencyStoppedResources := ctx.emergencyStoppedResources
    currentTime := ctx.currentTime.instant }

/-- Gate 6, where the confidence decides. -/
def PolicyInputs.confidenceResult : RuleEvaluationResult :=
  if ctx.confidence.less rules.minApprovalConfidenceThreshold then
    ⟨"diagnosis_confidence", false, "CONFIDENCE_TOO_LOW"⟩
  else if ctx.confidence.less rules.autoApprovalConfidenceThreshold then
    ⟨"diagnosis_confidence", true, "APPROVAL_REQUIRED_LOW_CONFIDENCE"⟩
  else ⟨"diagnosis_confidence", true, "HIGH_CONFIDENCE_ELIGIBLE"⟩

/-- Gate 6. -/
def PolicyInputs.evaluateConfidenceAndEvidence : Except Err RuleEvaluationResult :=
  if unsupportedCauses.contains ctx.rootCause then
    pure ⟨"diagnosis_confidence", false, "EVIDENCE_INSUFFICIENT_OR_AMBIGUOUS"⟩
  else
    match ctx.evidenceSummary.lookup "evidence_age_seconds" with
    | none => pure (ctx.confidenceResult rules)
    | some value => do
        let age ← value.magnitude
        if (FloatValue.number rules.evidenceFreshnessLimitSeconds).less age then
          value.writeFixed
          writeInt rules.evidenceFreshnessLimitSeconds
          pure ⟨"diagnosis_confidence", false, "EVIDENCE_STALE"⟩
        else pure (ctx.confidenceResult rules)

/-- Gate 7. -/
def PolicyInputs.evaluateAttemptBudget : Except Err RuleEvaluationResult := do
  writeInt ctx.attempts
  writeInt (1 + rules.retryLimit)
  pure (ruleResult "attempt_budget" (decide (ctx.attempts < 1 + rules.retryLimit))
    "ATTEMPT_BUDGET_AVAILABLE" "ATTEMPT_BUDGET_EXHAUSTED")

/-- The time of the last execution as gate 8 takes it. -/
def PolicyInputs.lastTime : Option DateTime :=
  ctx.lastExecutionTime.map fun last => last.alignedTo ctx.currentTime

/-- The current time as gate 8 leaves it. -/
def PolicyInputs.alignedTime : DateTime :=
  match ctx.lastExecutionTime with
  | none => ctx.currentTime
  | some last => ctx.currentTime.alignedTo last

/-- Gate 8.  What remains of the cooldown is a float. -/
def PolicyInputs.evaluateCooldown : Except Err RuleEvaluationResult :=
  match ctx.lastTime with
  | none => pure ⟨"resource_cooldown", true, "COOLDOWN_SATISFIED"⟩
  | some last => do
      if ctx.alignedTime.instant - last.instant < seconds rules.cooldownSeconds then
        makeFloat rules.cooldownSeconds
        writeInt rules.cooldownSeconds
        pure ⟨"resource_cooldown", false, "IN_COOLDOWN"⟩
      else
        writeInt rules.cooldownSeconds
        pure ⟨"resource_cooldown", true, "COOLDOWN_SATISFIED"⟩

/-- What has become of the expiry of a grant, if it has one. -/
def grantExpired (currentTime : DateTime) (expiresAt : PyValue) : Except Err Bool :=
  if expiresAt.truthy then
    match expiresAt with
    | .datetime expiry =>
        pure (decide ((expiry.alignedTo currentTime).instant ≤
          (currentTime.alignedTo expiry).instant))
    | _ => throw ⟨.attributeError, "object has no attribute 'tzinfo'"⟩
  else pure false

/-- The code of a grant: why it does not count, or that it does. -/
def PolicyInputs.grantCode (grant : PyDict) : Except Err String := do
  let decision ← (grant.get "decision" (.text "")).upper
  if decision = "REJECT" then
    (grant.get "rejection_reason" (.text "No reason provided")).write
    pure "APPROVAL_REJECTED"
  else if decision ≠ "APPROVE" then pure "APPROVAL_DECISION_INVALID"
  else if (grant.get "plan_version").number ≠ some (ctx.planVersion : Rat) then
    (grant.get "plan_version").write
    writeInt ctx.planVersion
    pure "APPROVAL_PLAN_VERSION_MISMATCH"
  else if (grant.get "content_hash").truthy ∧ grant.get "content_hash" ≠ .text ctx.contentHash then
    pure "APPROVAL_CONTENT_HASH_MISMATCH"
  else
    let expired ← grantExpired ctx.alignedTime (grant.get "expires_at")
    if expired then pure "APPROVAL_EXPIRED"
    else
      let role := grant.get "approver_role" (.text "")
      let authorized ← role.among ["approver", "admin"]
      if authorized then pure "APPROVAL_VALID"
      else
        role.write
        pure "UNAUTHORIZED_APPROVER_ROLE"

/-- Somebody has to approve. -/
def PolicyInputs.requiresApproval : Bool :=
  decide (ctx.automationMode = .approvalRequired) ||
    ctx.confidence.less rules.autoApprovalConfidenceThreshold

/-- Gate 10. -/
def PolicyInputs.evaluateApprovalRequirement : Except Err RuleEvaluationResult :=
  if ctx.requiresApproval rules then
    match ctx.approvalGrant with
    | none => pure ⟨"approval_requirement", false, "APPROVAL_REQUIRED"⟩
    | some grant => do
        let code ← ctx.grantCode grant
        pure ⟨"approval_requirement", decide (code = "APPROVAL_VALID"), code⟩
  else pure ⟨"approval_requirement", true, "AUTOMATIC_EXECUTION_PERMITTED"⟩

end Gates

/-! ### The decision -/

/-- What the ten gates report. -/
structure GateResults where
  killSwitch : RuleEvaluationResult
  emergencyStop : RuleEvaluationResult
  prohibitedAction : RuleEvaluationResult
  allowlist : RuleEvaluationResult
  environment : RuleEvaluationResult
  confidence : RuleEvaluationResult
  attemptBudget : RuleEvaluationResult
  cooldown : RuleEvaluationResult
  resourceLock : RuleEvaluationResult
  approval : RuleEvaluationResult

namespace GateResults

variable (r : GateResults)

/-- The results in the order of the gates. -/
def toList : List RuleEvaluationResult :=
  [r.killSwitch, r.emergencyStop, r.prohibitedAction, r.allowlist, r.environment, r.confidence,
    r.attemptBudget, r.cooldown, r.resourceLock, r.approval]

def hardDeny : Bool :=
  ([r.killSwitch, r.emergencyStop, r.prohibitedAction, r.allowlist, r.environment,
      r.attemptBudget].any (fun r => !r.passed) || !r.confidence.passed) ||
    (!r.approval.passed && deniedApprovals.contains r.approval.reasonCode)

def reasonCodes : List String :=
  let failing := fun r : RuleEvaluationResult => if r.passed then [] else [r.reasonCode]
  failing r.killSwitch ++ failing r.emergencyStop ++ failing r.prohibitedAction ++
    failing r.allowlist ++ failing r.environment ++ [r.confidence.reasonCode] ++
    failing r.attemptBudget ++ failing r.cooldown ++ failing r.resourceLock ++
    [r.approval.reasonCode]

/-- The outcome, and what is waited for. -/
def outcome : PolicyDecisionOutcome × Option WaitReason :=
  if r.hardDeny then (.deny, none)
  else if !r.cooldown.passed then (.defer, some .waitingForCooldown)
  else if !r.resourceLock.passed then (.defer, some .waitingForLock)
  else if !r.approval.passed && decide (r.approval.reasonCode = "APPROVAL_REQUIRED") then
    (.requireApproval, some .awaitingApproval)
  else (.allow, none)

end GateResults

/-- `PolicyEvaluationDecision`, but for the facts of the context that it repeats. -/
structure PolicyEvaluation where
  decision : PolicyDecisionOutcome
  policyName : String
  policyVersion : Nat
  ruleResults : List RuleEvaluationResult
  reasonCodes : List String
  deferUntil : Option DateTime
  waitReason : Option WaitReason
deriving DecidableEq

section Engine

variable (ctx : PolicyInputs) (rules : PolicyRuleSet)

/-- The ten gates, one after the other. -/
def PolicyInputs.gates : Except Err GateResults := do
  let confidence ← ctx.evaluateConfidenceAndEvidence rules
  let attemptBudget ← ctx.evaluateAttemptBudget rules
  let cooldown ← ctx.evaluateCooldown rules
  let approval ← ctx.evaluateApprovalRequirement rules
  pure
    { killSwitch := evaluateKillSwitch ctx.facts
      emergencyStop := evaluateEmergencyStop ctx.facts
      prohibitedAction := evaluateProhibitedAction ctx.facts rules
      allowlist := evaluateAllowlist ctx.facts rules
      environment := evaluateEnvironment ctx.facts rules
      confidence := confidence
      attemptBudget := attemptBudget
      cooldown := cooldown
      resourceLock := evaluateResourceLock ctx.facts
      approval := approval }

/-- The end of the cooldown, if there was an execution. -/
def PolicyInputs.cooldownEnd : Except Err (Option DateTime) :=
  match ctx.lastExecutionTime with
  | none => pure none
  | some last => do
      let deferUntil ← (last.alignedTo ctx.alignedTime).plus (seconds rules.cooldownSeconds)
      pure (some deferUntil)

/-- Until when a deferred plan is to wait, if that is known. -/
def PolicyInputs.deferUntil (waitReason : Option WaitReason) : Except Err (Option DateTime) :=
  if waitReason = some .waitingForCooldown then ctx.cooldownEnd rules else pure none

/-- `PolicyEngine.evaluate`. -/
def PolicyInputs.evaluate : Except Err PolicyEvaluation := do
  let results ← ctx.gates rules
  let deferUntil ← ctx.deferUntil rules results.outcome.2
  pure
    { decision := results.outcome.1
      policyName := rules.name
      policyVersion := rules.version
      ruleResults := results.toList
      reasonCodes := results.reasonCodes
      deferUntil := deferUntil
      waitReason := results.outcome.2 }

end Engine

end SelfHealing
