/-
The deterministic diagnosis.

Rules look at what was observed of a container and say whether they match, what they take for the
cause, and which findings contradict it.  The engine has three checks of its own before, runs all
rules in the order of their priority, and concludes what the first that matches says; without one it
tells apart whether there were contradictions.

Metrics are floats, and a comparison with one that is absent is a case of its own.
-/
import SelfHealing.Formats
import SelfHealing.Lib.Priority
import SelfHealing.Telemetry

namespace SelfHealing

open Floats Priority

/-! ### Observations and results -/

/-- `RootCause`, or another text, which the schemas take as well. -/
inductive RootCause
  | containerStopped
  | cpuSaturation
  | apiUnresponsive
  | dependencyUnavailable
  | insufficientEvidence
  | noActiveFault
  | ambiguous
  | other (text : String)
deriving DecidableEq, Repr

/-- The text of the cause. -/
def RootCause.value : RootCause → String
  | .containerStopped => "CONTAINER_STOPPED"
  | .cpuSaturation => "CPU_SATURATION"
  | .apiUnresponsive => "API_UNRESPONSIVE"
  | .dependencyUnavailable => "DEPENDENCY_UNAVAILABLE"
  | .insufficientEvidence => "INSUFFICIENT_EVIDENCE"
  | .noActiveFault => "NO_ACTIVE_FAULT"
  | .ambiguous => "AMBIGUOUS"
  | .other text => text

/-- `ObservationBundle`, but for what neither the rules read nor the collector sets. -/
structure ObservationBundle where
  resourceId : Nat
  serviceName : String
  containerId : Option String := none
  bindingGeneration : Option Int := none
  containerStatus : String := "unknown"
  exitCode : Option Int := none
  healthStatus : Option String := none
  upMetric : Option Float := none
  normalizedCpu : Option Float := none
  rawCpuSecondsRate : Option Float := none
  cpuBudgetCores : Float := 1.0
  readinessSuccessRatio : Option Float := none
  latestReadinessCode : Option Int := none
  firingAlerts : List String := []
  redisConnected : Option Bool := none
  dbConnectionsActive : Option Int := none
  recentLogErrors : List String := []
  evidenceIdMap : List (String × String) := []
  completeness : List (String × String) := []
  freshnessSeconds : Option Float := none
  isTelemetryUnavailable : Bool := false
  observedAt : Int := 0

structure Diagnosis.RuleEvaluationResult where
  ruleId : String
  ruleVersion : String
  matched : Bool
  confidence : Float := 0.0
  rootCause : RootCause := .insufficientEvidence
  isActionable : Bool := false
  contributingEvidenceIds : List String := []
  contradictoryFindings : List String := []
  escalationReason : Option String := none
  reasoning : DataDict := []

/-- A rule, by its priority and what it makes of the observations. -/
structure DiagnosticRule where
  priority : Int
  evaluate : ObservationBundle → Diagnosis.RuleEvaluationResult

/-! ### The rules -/

/-- What a rule that does not match says. -/
def unmatched (ruleId : String) (rootCause : RootCause) (contradictions : List String)
    (reasoning : DataDict := []) : Diagnosis.RuleEvaluationResult where
  ruleId := ruleId
  ruleVersion := "1.0"
  matched := false
  confidence := 0.0
  rootCause := rootCause
  isActionable := false
  contradictoryFindings := contradictions
  reasoning := reasoning

namespace ObservationBundle

variable (obs : ObservationBundle)

/-- The evidence of which the source has one of the names in it. -/
def evidenceOf (names : List String) : List String :=
  (obs.evidenceIdMap.filter fun entry => names.any fun name => textContains name entry.1).map
    Prod.snd

def alertFiring (name : String) : Bool := obs.firingAlerts.contains name

def isRunning : Bool := decide (obs.containerStatus = "running")

/-- `container_status in ("exited", "dead")`. -/
def isStoppedState : Bool := decide (obs.containerStatus = "exited" ∨ obs.containerStatus = "dead")

end ObservationBundle

namespace ContainerStoppedRule

def ruleId : String := "RULE-001-CONTAINER-STOPPED"

def evaluate (obs : ObservationBundle) : Diagnosis.RuleEvaluationResult :=
  let isUpZero := obs.upMetric.any fun up => up == 0.0
  let isAlertFiring := obs.alertFiring "ContainerDown"
  if obs.isRunning && (obs.upMetric.any fun up => up == 1.0) &&
      decide (obs.latestReadinessCode = some 200) then
    unmatched ruleId .containerStopped
      ["Container inspection shows 'running' with up=1 and readiness=200; cannot be stopped."]
      [("reason", dataText "Contradicted by running state and passing readiness probe")]
  else if obs.isStoppedState || isUpZero && !obs.isRunning then
    { ruleId := ruleId
      ruleVersion := "1.0"
      matched := true
      confidence := if isAlertFiring then 0.95 else 0.90
      rootCause := .containerStopped
      isActionable := true
      contributingEvidenceIds :=
        obs.evidenceOf ["docker:inspect", "prometheus:up", "prometheus:active_alerts"]
      reasoning :=
        [("container_status", dataText obs.containerStatus),
         ("exit_code", dataInt? obs.exitCode),
         ("up_metric", dataFloat? obs.upMetric),
         ("firing_alerts", dataTexts obs.firingAlerts),
         ("explanation", dataText ("Exact target container is stopped/exited; verified " ++
           "candidate for restart remediation."))] }
  else unmatched ruleId .containerStopped []

end ContainerStoppedRule

namespace DependencyUnavailableRule

def ruleId : String := "RULE-004-DEPENDENCY-UNAVAILABLE"

def isRedisDown (obs : ObservationBundle) : Bool :=
  decide (obs.redisConnected = some false) || obs.alertFiring "RedisUnreachable"

def isDbPoolExhausted (obs : ObservationBundle) : Bool :=
  (obs.dbConnectionsActive.any fun connections => decide (8 ≤ connections)) ||
    obs.alertFiring "PostgresPoolExhausted"

def logDepError (obs : ObservationBundle) : Bool :=
  obs.recentLogErrors.any fun line =>
    ["redis", "postgres", "connection pool"].any fun word => textContains word (textLower line)

def evaluate (obs : ObservationBundle) : Diagnosis.RuleEvaluationResult :=
  if isRedisDown obs || isDbPoolExhausted obs || logDepError obs then
    let depName :=
      if isRedisDown obs && isDbPoolExhausted obs then "Redis and PostgreSQL"
      else if isRedisDown obs then "Redis"
      else "PostgreSQL"
    let reason := s!"Underlying external dependency ({depName}) is unavailable or exhausted. " ++
      "Escalate; no database or Redis mutation allowed in M1."
    { ruleId := ruleId
      ruleVersion := "1.0"
      matched := true
      confidence := 0.90
      rootCause := .dependencyUnavailable
      isActionable := false
      contributingEvidenceIds :=
        obs.evidenceOf ["prometheus:redis_connected", "prometheus:db_connections", "loki:query",
          "prometheus:active_alerts"]
      escalationReason := some reason
      reasoning :=
        [("redis_connected", dataBool? obs.redisConnected),
         ("db_connections_active", dataInt? obs.dbConnectionsActive),
         ("firing_alerts", dataTexts obs.firingAlerts),
         ("log_errors", dataTexts (obs.recentLogErrors.take 3)),
         ("explanation", dataText reason)] }
  else unmatched ruleId .dependencyUnavailable []

end DependencyUnavailableRule

namespace CpuSaturationRule

def ruleId : String := "RULE-002-CPU-SATURATION"

/-- The load is above a threshold, and there is one. -/
def cpuAtLeast (threshold : Float) (obs : ObservationBundle) : Bool :=
  obs.normalizedCpu.any fun cpu => decide (threshold ≤ cpu)

def evaluate (obs : ObservationBundle) : Diagnosis.RuleEvaluationResult :=
  let isAlertFiring := obs.alertFiring "HighCpuSaturation"
  let status := obs.containerStatus
  let cpuText := (obs.normalizedCpu.map (floatFixed 2)).getD ""
  if !obs.isRunning && obs.isStoppedState then
    unmatched ruleId .cpuSaturation
      [s!"Container is {status}; container crash takes precedence over CPU saturation."]
  else if isAlertFiring && obs.normalizedCpu.any fun cpu => decide (cpu < 0.50) then
    unmatched ruleId .cpuSaturation
      [s!"Alert 'HighCpuSaturation' is firing, but target container CPU is {cpuText} (< 0.50). " ++
        "Suspected external host or injector CPU saturation, not target fault."]
      [("normalized_cpu", dataFloat? obs.normalizedCpu),
       ("explanation", dataText "Target container CPU does not substantiate the high CPU alert.")]
  else if obs.isRunning && (cpuAtLeast 0.75 obs || isAlertFiring && cpuAtLeast 0.70 obs) then
    { ruleId := ruleId
      ruleVersion := "1.0"
      matched := true
      confidence := if isAlertFiring then 0.90 else 0.85
      rootCause := .cpuSaturation
      isActionable := true
      contributingEvidenceIds :=
        obs.evidenceOf ["prometheus:cpu_rate", "prometheus:process_cpu",
          "prometheus:active_alerts"]
      reasoning :=
        [("normalized_cpu", dataFloat? obs.normalizedCpu),
         ("raw_cpu_rate", dataFloat? obs.rawCpuSecondsRate),
         ("cpu_budget_cores", dataFloat? (some obs.cpuBudgetCores)),
         ("firing_alerts", dataTexts obs.firingAlerts),
         ("explanation", dataText (s!"Target container normalized CPU utilization ({cpuText}) " ++
           "exceeds 0.75 threshold; restart candidate."))] }
  else unmatched ruleId .cpuSaturation []

end CpuSaturationRule

namespace ApiUnresponsiveRule

def ruleId : String := "RULE-003-API-UNRESPONSIVE"

/-- Readiness fails, by the probe or by its alert. -/
def readinessFailed (obs : ObservationBundle) : Bool :=
  (obs.readinessSuccessRatio.any fun ratio => decide (ratio < 0.5)) ||
    (obs.latestReadinessCode.any fun code => decide (code ≠ 200)) ||
    obs.alertFiring "ApiUnresponsive"

def evaluate (obs : ObservationBundle) : Diagnosis.RuleEvaluationResult :=
  let isAlertFiring := obs.alertFiring "ApiUnresponsive"
  let cpuText := (obs.normalizedCpu.map (floatFixed 2)).getD ""
  if (obs.readinessSuccessRatio.any fun ratio => decide (1.0 ≤ ratio)) &&
      decide (obs.latestReadinessCode = some 200) then
    unmatched ruleId .apiUnresponsive
      ["Readiness probe returns HTTP 200 with 100% success ratio; API is responsive."]
  else if CpuSaturationRule.cpuAtLeast 0.75 obs then
    unmatched ruleId .apiUnresponsive
      [s!"Normalized CPU is {cpuText} >= 0.75; CPU saturation takes precedence."]
  else if decide (obs.redisConnected = some false) ||
      obs.dbConnectionsActive.any fun connections => decide (8 ≤ connections) then
    unmatched ruleId .apiUnresponsive
      ["External dependency (Redis/DB) is failing; dependency failure takes precedence."]
  else if obs.isRunning && readinessFailed obs then
    { ruleId := ruleId
      ruleVersion := "1.0"
      matched := true
      confidence := if isAlertFiring then 0.90 else 0.85
      rootCause := .apiUnresponsive
      isActionable := true
      contributingEvidenceIds :=
        obs.evidenceOf ["prometheus:probe_success", "docker:inspect", "prometheus:active_alerts"]
      reasoning :=
        [("container_status", dataText obs.containerStatus),
         ("readiness_success_ratio", dataFloat? obs.readinessSuccessRatio),
         ("latest_readiness_code", dataInt? obs.latestReadinessCode),
         ("firing_alerts", dataTexts obs.firingAlerts),
         ("explanation", dataText ("Target container is running but API readiness endpoint " ++
           "fails or times out without CPU or dependency saturation; restart candidate."))] }
  else unmatched ruleId .apiUnresponsive []

end ApiUnresponsiveRule

namespace NoActiveFaultRule

def ruleId : String := "RULE-005-NO-ACTIVE-FAULT"

def isUpOk (obs : ObservationBundle) : Bool := obs.upMetric.all fun up => decide (1.0 ≤ up)

def isReadinessOk (obs : ObservationBundle) : Bool :=
  (obs.readinessSuccessRatio.all fun ratio => decide (1.0 ≤ ratio)) &&
    obs.latestReadinessCode.all fun code => decide (code = 200)

def isCpuOk (obs : ObservationBundle) : Bool := obs.normalizedCpu.all fun cpu => decide (cpu < 0.50)

def isDepsOk (obs : ObservationBundle) : Bool :=
  decide (obs.redisConnected ≠ some false) &&
    obs.dbConnectionsActive.all fun connections => decide (connections < 8)

def evaluate (obs : ObservationBundle) : Diagnosis.RuleEvaluationResult :=
  if obs.isRunning && isUpOk obs && isReadinessOk obs && isCpuOk obs && isDepsOk obs then
    let reason := "Workload observations confirm container is running, readiness is 200 OK, CPU " ++
      "is normal, and dependencies are healthy. No active fault detected."
    { ruleId := ruleId
      ruleVersion := "1.0"
      matched := true
      confidence := 0.95
      rootCause := .noActiveFault
      isActionable := false
      contributingEvidenceIds := obs.evidenceIdMap.map Prod.snd
      escalationReason := some reason
      reasoning :=
        [("container_status", dataText obs.containerStatus),
         ("up_metric", dataFloat? obs.upMetric),
         ("normalized_cpu", dataFloat? obs.normalizedCpu),
         ("readiness_code", dataInt? obs.latestReadinessCode),
         ("explanation", dataText reason)] }
  else unmatched ruleId .noActiveFault []

end NoActiveFaultRule

def containerStoppedRule : DiagnosticRule := ⟨1, ContainerStoppedRule.evaluate⟩

def dependencyUnavailableRule : DiagnosticRule := ⟨2, DependencyUnavailableRule.evaluate⟩

def cpuSaturationRule : DiagnosticRule := ⟨3, CpuSaturationRule.evaluate⟩

def apiUnresponsiveRule : DiagnosticRule := ⟨4, ApiUnresponsiveRule.evaluate⟩

def noActiveFaultRule : DiagnosticRule := ⟨5, NoActiveFaultRule.evaluate⟩

/-! ### The engine -/

/-- The confidence that a diagnosis may have, which is a number between the bounds. -/
def confidenceFits (confidence : Float) : Bool :=
  decide (0.0 ≤ confidence) && decide (confidence ≤ 1.0)

/-- `DiagnosisSchema`, which can be built with a confidence that fits only. -/
structure DiagnosisSchema where
  id : Nat
  incidentId : Nat
  rootCause : RootCause
  confidence : Float
  evidenceIds : List String := []
  ruleId : String
  ruleVersion : String
  contradictoryFindings : List String := []
  escalationReason : Option String := none
  reasoning : DataDict := []
  isActionable : Bool := false
  parentDiagnosisId : Option Nat := none
  actor : String
  confidence_fits : confidenceFits confidence = true := by decide +kernel

/-- An engine has its rules in the order of their priority. -/
@[ext]
structure DeterministicDiagnosisEngine where
  rules : List DiagnosticRule
  sorted : rules.Pairwise fun rule rule' => rule.priority ≤ rule'.priority

/-- The rules of an engine that is given none. -/
def defaultRules : List DiagnosticRule :=
  [containerStoppedRule, dependencyUnavailableRule, cpuSaturationRule, apiUnresponsiveRule,
   noActiveFaultRule]

/-- `DeterministicDiagnosisEngine(rules)`. -/
def DeterministicDiagnosisEngine.init (rules : Option (List DiagnosticRule) := none) :
    DeterministicDiagnosisEngine where
  rules := sortOn DiagnosticRule.priority (rules.getD defaultRules)
  sorted := sortOn_sorted _ _

/-- `list(dict.fromkeys(texts))`: each text once, where it is first. -/
def dictFromKeys : List String → List String
  | [] => []
  | text :: rest => text :: (dictFromKeys rest).filter (· ≠ text)

/-- The loop over the rules: the results that match, and all contradictions. -/
def evaluateRules (obs : ObservationBundle) :
    List DiagnosticRule → List Diagnosis.RuleEvaluationResult × List String
  | [] => ([], [])
  | rule :: rest =>
      let result := rule.evaluate obs
      let (matching, contradictions) := evaluateRules obs rest
      (if result.matched then result :: matching else matching,
        result.contradictoryFindings ++ contradictions)

/-- What `diagnose` is called with, apart from the observations, and the identifier that it
generates. -/
structure DiagnosisRequest where
  id : Nat
  incidentId : Nat
  parentDiagnosisId : Option Nat := none
  actor : String := "agent:diagnosis_engine"

section Diagnose

variable (request : DiagnosisRequest) (obs : ObservationBundle)

/-- A diagnosis without a rule behind it, with a confidence of zero. -/
def insufficientEvidence (ruleId reason : String) (contradictions : List String)
    (reasoning : DataDict) : DiagnosisSchema where
  id := request.id
  incidentId := request.incidentId
  rootCause := .insufficientEvidence
  confidence := 0.0
  evidenceIds := obs.evidenceIdMap.map Prod.snd
  ruleId := ruleId
  ruleVersion := "1.0"
  contradictoryFindings := contradictions
  escalationReason := some reason
  reasoning := reasoning
  isActionable := false
  parentDiagnosisId := request.parentDiagnosisId
  actor := request.actor

def completenessData : Data :=
  .map (obs.completeness.map fun entry => (entry.1, dataText entry.2))

/-- The three checks before the rules. -/
def earlyDiagnosis : Option DiagnosisSchema :=
  if obs.isTelemetryUnavailable ∨ obs.completeness.lookup "prometheus" = some "UNAVAILABLE" then
    let reason := "Mandatory telemetry sources are unavailable after bounded retries. Cannot " ++
      "safely diagnose."
    some (insufficientEvidence request obs "RULE-FALLBACK-TELEMETRY-UNAVAILABLE" reason
      ["Prometheus telemetry client returned UNAVAILABLE"]
      [("error", dataText reason), ("completeness", completenessData obs)])
  else if obs.freshnessSeconds.any fun freshness => compareInt freshness 900 == some .gt then
    let age := (obs.freshnessSeconds.map (floatFixed 1)).getD ""
    let reason := s!"Telemetry freshness ({age}s) exceeds allowable window (900s); data is " ++
      "stale. Insufficient evidence."
    some (insufficientEvidence request obs "RULE-FALLBACK-STALE-TELEMETRY" reason [reason]
      [("error", dataText reason), ("freshness_seconds", dataFloat? obs.freshnessSeconds)])
  else if obs.containerStatus = "not_found" then
    let container := (obs.containerId.filter (· ≠ "")).getD "unknown"
    let reason := s!"Target resource/container {container} was not found in environment."
    some (insufficientEvidence request obs "RULE-FALLBACK-RESOURCE-NOT-FOUND" reason [reason]
      [("error", dataText reason), ("container_id", dataText? obs.containerId)])
  else none

/-- What is concluded from a result that matches, unless its confidence does not fit. -/
def DiagnosisSchema.ofResult (contradictions : List String) (chosen : Diagnosis.RuleEvaluationResult) :
    Except PyExc DiagnosisSchema :=
  if h : confidenceFits chosen.confidence = true then
    .ok
      { id := request.id
        incidentId := request.incidentId
        rootCause := chosen.rootCause
        confidence := chosen.confidence
        evidenceIds :=
          if chosen.contributingEvidenceIds = [] then obs.evidenceIdMap.map Prod.snd
          else chosen.contributingEvidenceIds
        ruleId := chosen.ruleId
        ruleVersion := chosen.ruleVersion
        contradictoryFindings := dictFromKeys (chosen.contradictoryFindings ++ contradictions)
        escalationReason := chosen.escalationReason
        reasoning := chosen.reasoning
        isActionable := chosen.isActionable
        parentDiagnosisId := request.parentDiagnosisId
        actor := request.actor
        confidence_fits := h }
  else .error .validationError

/-- What is concluded from contradictions alone. -/
def ambiguousDiagnosis (contradictions : List String) : DiagnosisSchema :=
  let reason := "Conflicting evidence observations prevent a decisive root-cause determination; " ++
    "escalating."
  { id := request.id
    incidentId := request.incidentId
    rootCause := .ambiguous
    confidence := 0.40
    evidenceIds := obs.evidenceIdMap.map Prod.snd
    ruleId := "RULE-FALLBACK-AMBIGUOUS"
    ruleVersion := "1.0"
    contradictoryFindings := contradictions
    escalationReason := some reason
    reasoning := [("contradictions", dataTexts contradictions), ("explanation", dataText reason)]
    isActionable := false
    parentDiagnosisId := request.parentDiagnosisId
    actor := request.actor }

/-- What is concluded from nothing. -/
def unconfirmedDiagnosis : DiagnosisSchema :=
  let reason := "Alert was received but observations do not confirm an active fault; insufficient " ++
    "evidence for mutation."
  insufficientEvidence request obs "RULE-FALLBACK-INSUFFICIENT-EVIDENCE" reason []
    [("firing_alerts", dataTexts obs.firingAlerts), ("explanation", dataText reason)]

/-- `diagnose`. -/
def DeterministicDiagnosisEngine.diagnose (engine : DeterministicDiagnosisEngine) :
    Except PyExc DiagnosisSchema :=
  match earlyDiagnosis request obs with
  | some diagnosis => .ok diagnosis
  | none =>
      let (matching, contradictions) := evaluateRules obs engine.rules
      match matching with
      | chosen :: _ => DiagnosisSchema.ofResult request obs contradictions chosen
      | [] =>
          if contradictions = [] then .ok (unconfirmedDiagnosis request obs)
          else .ok (ambiguousDiagnosis request obs contradictions)

end Diagnose

end SelfHealing
