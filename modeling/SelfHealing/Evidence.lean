/-
The evidence of an incident.

The collector looks at the container, asks Prometheus for its alerts and for eight metrics and Loki
for the log, with some retries, and looks up what was changed lately.  Each becomes an item of a
bundle, with its content redacted.  How fresh the telemetry is becomes one number for all of it, the
least there is.

A second function goes through the items of a bundle and sets the fields of the observations that
the rules read.  It finds the fields by what is in the source of an item.  What it sets is not
checked, so that most fields are data here until they are read as what they should be.

The texts of errors, the dump of the samples and the units are left out of the items.
-/
import SelfHealing.ActiveAlerts
import SelfHealing.Diagnosis
import SelfHealing.Redaction

namespace SelfHealing

open Canonical Floats Masking

/-! ### Bundles -/

/-- `EvidenceKind`, or another text, which the schema takes as well. -/
inductive EvidenceKind
  | metrics
  | logs
  | containerState
  | resourceChanges
  | alertEvaluation
  | readinessProbe
  | other (text : String)
deriving DecidableEq, Repr

/-- `EvidenceItemSchema`, as far as it is read on. -/
structure EvidenceItemSchema where
  id : Nat
  kind : EvidenceKind
  source : String
  content : DataDict := []

structure EvidenceBundle where
  resourceId : Nat
  collectedAt : Int
  items : List EvidenceItemSchema := []
  freshnessSeconds : Option Float := none
  completeness : List (String × String) := []

/-! ### The metrics -/

/-- The metrics that are asked for. -/
inductive MetricQuery
  | up
  | cpuRate
  | processCpu
  | probeSuccess
  | httpRequestsTotal
  | httpErrors
  | redisConnected
  | dbConnections
deriving DecidableEq, Repr

namespace MetricQuery

/-- All of them, in the order in which they are asked for. -/
def all : List MetricQuery :=
  [.up, .cpuRate, .processCpu, .probeSuccess, .httpRequestsTotal, .httpErrors, .redisConnected,
   .dbConnections]

def name : MetricQuery → String
  | .up => "up"
  | .cpuRate => "cpu_rate"
  | .processCpu => "process_cpu"
  | .probeSuccess => "probe_success"
  | .httpRequestsTotal => "http_requests_total"
  | .httpErrors => "http_errors"
  | .redisConnected => "redis_connected"
  | .dbConnections => "db_connections"

/-- The query that is sent. -/
def text (targetService : String) : MetricQuery → String
  | .up => "up\x7bjob=\"" ++ targetService ++ "\"\x7d"
  | .cpuRate => "rate(demo_api_cpu_seconds_total\x7bjob=\"" ++ targetService ++ "\"\x7d[1m])"
  | .processCpu => "rate(process_cpu_seconds_total\x7bjob=\"" ++ targetService ++ "\"\x7d[1m])"
  | .probeSuccess =>
      "probe_success\x7binstance=~\".*/health/ready\",job=~\".*" ++ targetService ++ ".*\"\x7d"
  | .httpRequestsTotal => "demo_api_http_requests_total\x7bjob=\"" ++ targetService ++ "\"\x7d"
  | .httpErrors =>
      "sum(rate(demo_api_http_requests_total\x7bjob=\"" ++ targetService ++
        "\",status=~\"5..\"\x7d[1m]))"
  | .redisConnected => "demo_api_redis_connected\x7bjob=\"" ++ targetService ++ "\"\x7d"
  | .dbConnections => "fault_injector_db_connections_active"

end MetricQuery

def QueryStatus.value : QueryStatus → String
  | .success => "success"
  | .empty => "empty"
  | .error => "error"
  | .unavailable => "unavailable"

/-- `result.status == "success" or result.status == "empty"`. -/
def QueryStatus.settles : QueryStatus → Bool
  | .success | .empty => true
  | .error | .unavailable => false

/-- `MAX_COLLECTION_RETRIES`. -/
def maxCollectionRetries : Nat := 2

/-- The loop over the attempts.  The first result that settles the query ends it, and an attempt
that raises leaves the result that there is. -/
def retry {R : Type} (settles : R → Bool) : List (Option R) → Option R → Option R
  | [], result => result
  | none :: rest, result => retry settles rest result
  | some result :: rest, _ =>
      if settles result then some result else retry settles rest (some result)

/-- What is left after the attempts, of which each has its answer. -/
def queryWithRetry {A R : Type} (execute : A → R) (settles : R → Bool)
    (answer : Nat → Option A) : Option R :=
  retry settles ((List.range (maxCollectionRetries + 1)).map fun n => (answer n).map execute) none

/-- The content of the item of a metric. -/
def metricContent (text : String) : Option MetricQueryResult → DataDict
  | none => [("query", dataText text), ("status", dataText "unavailable"), ("samples", .seq [])]
  | some result =>
      match result.status with
      | .unavailable =>
          [("query", dataText text), ("status", dataText "unavailable"), ("samples", .seq [])]
      | .error => [("query", dataText text), ("status", dataText "error")]
      | .success | .empty =>
          [("query", dataText text), ("status", dataText result.status.value),
           ("latest_value", dataFloat? result.latestValue)]

/-- The completeness after one more metric. -/
def nextCompleteness (completeness : String) : Option MetricQueryResult → String
  | none => "UNAVAILABLE"
  | some result =>
      match result.status with
      | .unavailable => "UNAVAILABLE"
      | .error => if completeness ≠ "UNAVAILABLE" then "ERROR" else "UNAVAILABLE"
      | .success | .empty => completeness

/-- `min(x, y)`. -/
def pyMin (x y : Float) : Float := if y < x then y else x

/-- The least freshness, after one more that there may be. -/
def mergeFreshness (least : Option Float) : Option Float → Option Float
  | none => least
  | some freshness => some (least.elim freshness fun least => pyMin least freshness)

/-- The freshness of a metric, of which only a settled query has one. -/
def metricFreshness : Option MetricQueryResult → Option Float
  | none => none
  | some result => if result.status.settles then result.freshnessSeconds else none

/-- `alert_names`: the alerts that fire. -/
def firingAlertNames (alerts : List AlertState) : List String :=
  (alerts.filter fun alert => alert.state = "firing").map AlertState.name

def activeAlertsContent (names : List String) : DataDict :=
  [("firing_alerts", dataTexts names), ("count", dataInt? (some names.length))]

/-! ### The log -/

structure LokiBody where
  status : Option String
  streams : List (List (Timestamp × String)) := []

/-- What Loki answers; a body that cannot be read as one is `none`. -/
inductive LokiAnswer
  | timeout
  | connectError
  | failed
  | response (receivedAt : Int) (byteSize : Nat) (body : Option LokiBody)

/-- `LogQueryResult`, with the time and the line of each entry. -/
structure LogQueryResult where
  status : QueryStatus
  entries : List (Int × String) := []
  isTruncated : Bool := false
  freshnessSeconds : Option Float := none

/-- `MAX_LOKI_RESPONSE_BYTES`. -/
def maxLokiResponseBytes : Nat := 2 * 1024 * 1024

/-- The number of lines that are asked for. -/
def logLimit : Nat := 100

/-- `LokiClient.query_range`.  A line of which the time cannot be read has the present one. -/
def executeLogQuery : LokiAnswer → LogQueryResult
  | .timeout | .connectError => { status := .unavailable }
  | .failed => { status := .error }
  | .response receivedAt byteSize body =>
      if maxLokiResponseBytes < byteSize then { status := .error, isTruncated := true }
      else
        match body with
        | none => { status := .error }
        | some body =>
            if body.status ≠ some "success" then { status := .error }
            else if body.streams.isEmpty then { status := .empty }
            else
              let entries := body.streams.flatten.map fun line => (line.1.getD receivedAt, line.2)
              { status := .success
                entries := entries
                isTruncated := decide (logLimit ≤ entries.length)
                freshnessSeconds :=
                  ((entries.map fun entry => receivedAt - entry.1).min?).map totalSeconds }

/-- What `_collect_logs_with_retry` makes of what is left after the attempts. -/
def settledLog : Option LogQueryResult → LogQueryResult × String
  | none => ({ status := .unavailable }, "UNAVAILABLE")
  | some result =>
      match result.status with
      | .unavailable => ({ status := .unavailable }, "UNAVAILABLE")
      | .empty => (result, "EMPTY")
      | .error => (result, "ERROR")
      | .success => (result, "COMPLETE")

def logContent (result : LogQueryResult) : DataDict :=
  [("total_lines", dataInt? (some result.entries.length)),
   ("is_truncated", dataBool? (some result.isTruncated)),
   ("lines", dataTexts (result.entries.map Prod.snd)),
   ("status", dataText result.status.value)]

/-! ### The container and what was changed -/

structure ContainerInspectionResult where
  name : String := ""
  state : String := "unknown"
  exitCode : Option Int := none
  healthStatus : Option String := none
  bindingGeneration : Option Int := none
  status : String := "success"
  errorMessage : Option String := none

/-- `_collect_container_status`. -/
def collectContainerStatus (inspect : String → Option Int → ContainerInspectionResult)
    (containerId : Option String) (bindingGeneration : Option Int) : ContainerInspectionResult :=
  match containerId.filter (· ≠ "") with
  | none =>
      { state := "not_found"
        bindingGeneration := bindingGeneration
        status := "not_found"
        errorMessage := some "No target container ID provided" }
  | some containerId => inspect containerId bindingGeneration

def containerContent (result : ContainerInspectionResult) : DataDict :=
  [("state", dataText result.state), ("name", dataText result.name),
   ("exit_code", dataInt? result.exitCode), ("health_status", dataText? result.healthStatus),
   ("binding_generation", dataInt? result.bindingGeneration), ("status", dataText result.status),
   ("error", dataText? result.errorMessage)]

/-- What comes of looking up the changes: there is no session, an exception, or the records as they
are written down. -/
inductive DeploymentHistory
  | noSession
  | failed (message : String)
  | found (auditChanges similarIncidents : List Data)

namespace DeploymentHistory

def status : DeploymentHistory → String
  | .noSession | .failed _ => "UNAVAILABLE"
  | .found [] [] => "EMPTY"
  | .found _ _ => "COMPLETE"

def source : DeploymentHistory → String
  | .noSession | .failed _ => "postgres:deployment_history"
  | .found _ _ => "postgres:audit_and_incidents"

def content (history : DeploymentHistory) : DataDict :=
  match history with
  | .noSession =>
      [("status", dataText history.status),
       ("reason", dataText "No database session provided for deployment history retrieval"),
       ("window_seconds", dataInt? (some 3600))]
  | .failed message =>
      [("status", dataText history.status),
       ("reason", dataText ("Deployment history query failed: " ++ message)),
       ("window_seconds", dataInt? (some 3600))]
  | .found auditChanges similarIncidents =>
      [("status", dataText history.status), ("window_seconds", dataInt? (some 3600)),
       ("audit_count", dataInt? (some auditChanges.length)), ("audit_changes", .seq auditChanges),
       ("similar_incidents", .seq similarIncidents)]

end DeploymentHistory

/-! ### The collector -/

/-- What `collect` is called with. -/
structure CollectionRequest where
  resourceId : Nat
  targetService : String := "demo-api"
  targetContainerId : Option String := none
  bindingGeneration : Option Int := none

/-- What the collector is told, and the identifiers that it generates.  A query may raise. -/
structure CollectionAnswers where
  now : Int
  inspect : String → Option Int → ContainerInspectionResult
  alerts : AlertsAnswer
  metric : MetricQuery → Nat → Option PrometheusAnswer
  log : Nat → Option LokiAnswer
  history : DeploymentHistory := .noSession
  newId : Nat → Nat := id

/-- `_create_evidence_item`.  The content is printed with its keys in order and read again. -/
def createEvidenceItem (kind : EvidenceKind) (source : String) (content : DataDict) (id : Nat) :
    EvidenceItemSchema where
  id := id
  kind := kind
  source := source
  content := (dictOf (redactPayload (.map content)).sortKeys).getD []

section Collect

variable (request : CollectionRequest) (answers : CollectionAnswers)

/-- What is left of the attempts for a metric. -/
def CollectionAnswers.metricResult (query : MetricQuery) : Option MetricQueryResult :=
  queryWithRetry executeQuery (·.status.settles) (answers.metric query)

def CollectionAnswers.logResult : LogQueryResult × String :=
  settledLog (queryWithRetry executeLogQuery (·.status.settles) answers.log)

def inspectedContainer : ContainerInspectionResult :=
  collectContainerStatus answers.inspect request.targetContainerId request.bindingGeneration

/-- What becomes an item of each metric, with the alerts before the queries. -/
def metricItems : List (Nat → EvidenceItemSchema) :=
  createEvidenceItem .metrics "prometheus:active_alerts"
      (activeAlertsContent (firingAlertNames (getActiveAlerts answers.alerts))) ::
    MetricQuery.all.map fun query =>
      createEvidenceItem .metrics ("prometheus:" ++ query.name)
        (metricContent (query.text request.targetService) (answers.metricResult query))

/-- The completeness of the metrics. -/
def metricsCompleteness : String :=
  (MetricQuery.all.map answers.metricResult).foldl nextCompleteness "COMPLETE"

/-- The least freshness of the metrics, and then of the log as well. -/
def metricsFreshness : Option Float :=
  (MetricQuery.all.map fun query => metricFreshness (answers.metricResult query)).foldl
    mergeFreshness none

/-- `collect`. -/
def collect : EvidenceBundle :=
  let container := inspectedContainer request answers
  let log := answers.logResult
  let items :=
    createEvidenceItem .containerState
        ("docker:inspect:" ++ (request.targetContainerId.filter (· ≠ "")).getD "unknown")
        (containerContent container) ::
      metricItems request answers ++
      [createEvidenceItem .logs ("loki:query:" ++ request.targetService) (logContent log.1),
       createEvidenceItem .resourceChanges answers.history.source answers.history.content]
  { resourceId := request.resourceId
    collectedAt := answers.now
    items := items.mapIdx fun n item => item (answers.newId n)
    freshnessSeconds := mergeFreshness (metricsFreshness answers) log.1.freshnessSeconds
    completeness :=
      [("docker", if container.status = "success" then "COMPLETE" else "ERROR"),
       ("prometheus", metricsCompleteness answers), ("loki", log.2),
       ("deployment_history", answers.history.status)] }

end Collect

/-! ### Observations -/

/-- An `ObservationBundle` while it is filled in: what is set without a check may be any data. -/
@[ext]
structure ObservationFields where
  resourceId : Nat
  serviceName : String
  containerId : Option String := none
  bindingGeneration : Option Int := none
  containerStatus : Data := dataText "unknown"
  exitCode : Data := dataNull
  healthStatus : Data := dataNull
  upMetric : Data := dataNull
  normalizedCpu : Option Float := none
  rawCpuSecondsRate : Data := dataNull
  readinessSuccessRatio : Data := dataNull
  latestReadinessCode : Option Int := none
  firingAlerts : Data := .seq []
  redisConnected : Option Bool := none
  dbConnectionsActive : Option Int := none
  recentLogErrors : List String := []
  evidenceIdMap : List (String × String) := []
  completeness : List (String × String) := []
  freshnessSeconds : Option Float := none
  isTelemetryUnavailable : Bool := false
  observedAt : Int := 0

/-- `cpu_budget_cores`, which nothing sets. -/
def cpuBudgetCores : Float := 1.0

/-- The value as one that can be converted, of which `None` is left out before. -/
def scalarOf : Data → Scalar
  | .atom .null => .null
  | .atom (.bool b) => .bool b
  | .atom (.int n) => .int n
  | .atom (.float x) => .float x
  | .atom (.text s) => .text s
  | .seq items => .container items.isEmpty
  | .map entries => .container entries.isEmpty

/-- `val is None`. -/
def isNone : Data → Bool
  | .atom .null => true
  | _ => false

/-- `val / x`, unless it raises. -/
def dividedBy (x : Float) (value : Data) : Option Float :=
  match scalarOf value with
  | .text _ => none
  | value => ((pyFloat value).bind fun y => pyDiv y x).toOption

/-- `val >= 1.0`, unless it raises. -/
def atLeastOne : Data → Option Bool
  | .atom (.bool b) => some b
  | .atom (.int n) => some (decide (1 ≤ n))
  | .atom (.float x) => some (decide (1.0 ≤ x))
  | .atom .null | .atom (.text _) | .seq _ | .map _ => none

/-- `int(val)`, unless it raises. -/
def wholeNumber (value : Data) : Option Int := (pyInt (scalarOf value)).toOption

/-- `"error" in line.lower() or "exception" in line.lower()`. -/
def isErrorLine (line : String) : Bool :=
  textContains "error" (textLower line) || textContains "exception" (textLower line)

/-- The texts of the lines, unless one of them is none. -/
def lineTexts : List Data → Option (List String)
  | [] => some []
  | line :: rest => do
      let text ← textOf line
      let texts ← lineTexts rest
      some (text :: texts)

namespace EvidenceItemSchema

variable (item : EvidenceItemSchema)

/-- `item.content.get("latest_value")`. -/
def latestValue : Data := item.content.getOr "latest_value" dataNull

/-- The source has this in it. -/
def sourceHas (needle : String) : Bool := textContains needle item.source

/-- The item is one of those that `primary_cpu_available` looks for. -/
def isPrimaryCpu : Bool :=
  decide (item.kind = .metrics) && item.sourceHas "prometheus:cpu_rate" &&
    !isNone item.latestValue

end EvidenceItemSchema

/-- `primary_cpu_available`. -/
def primaryCpuAvailable (items : List EvidenceItemSchema) : Bool :=
  items.any EvidenceItemSchema.isPrimaryCpu

/-- The branch of the loop for metrics. -/
def observeMetric (primaryCpu : Bool) (item : EvidenceItemSchema) (obs : ObservationFields) :
    Option ObservationFields :=
  let value := item.latestValue
  if item.sourceHas "prometheus:up" then some { obs with upMetric := value }
  else if item.sourceHas "prometheus:cpu_rate" || item.sourceHas "prometheus:process_cpu" then
    if !isNone value && (item.sourceHas "prometheus:cpu_rate" || !primaryCpu) then do
      let cpu ← dividedBy cpuBudgetCores value
      some { obs with rawCpuSecondsRate := value, normalizedCpu := some cpu }
    else some obs
  else if item.sourceHas "prometheus:probe_success" then
    let obs := { obs with readinessSuccessRatio := value }
    if isNone value then some obs
    else do
      let ready ← atLeastOne value
      some { obs with latestReadinessCode := some (if ready then 200 else 503) }
  else if item.sourceHas "prometheus:redis_connected" then
    if isNone value then some obs
    else do
      let connected ← atLeastOne value
      some { obs with redisConnected := some connected }
  else if item.sourceHas "prometheus:db_connections" then
    if isNone value then some obs
    else do
      let connections ← wholeNumber value
      some { obs with dbConnectionsActive := some connections }
  else if item.sourceHas "prometheus:active_alerts" then
    some { obs with firingAlerts := item.content.getOr "firing_alerts" (.seq []) }
  else some obs

/-- The body of the loop over the items, unless it raises. -/
def observeItem (primaryCpu : Bool) (obs : ObservationFields) (item : EvidenceItemSchema) :
    Option ObservationFields :=
  let obs := { obs with evidenceIdMap := put item.source (uuidText item.id) obs.evidenceIdMap }
  match item.kind with
  | .containerState =>
      some
        { obs with
          containerStatus := item.content.getOr "state" (dataText "unknown")
          exitCode := item.content.getOr "exit_code" dataNull
          healthStatus := item.content.getOr "health_status" dataNull }
  | .metrics => observeMetric primaryCpu item obs
  | .logs => do
      let lines ← iterated (item.content.getOr "lines" (.seq []))
      let texts ← lineTexts lines
      some { obs with recentLogErrors := texts.filter isErrorLine }
  | .resourceChanges | .alertEvaluation | .readinessProbe | .other _ => some obs

/-- What `to_observation_bundle` is called with beside the bundle. -/
structure ObservationRequest where
  serviceName : String := "demo-api"
  containerId : Option String := none
  bindingGeneration : Option Int := none

/-- The observations before the loop. -/
def ObservationFields.init (request : ObservationRequest) (bundle : EvidenceBundle) :
    ObservationFields where
  resourceId := bundle.resourceId
  serviceName := request.serviceName
  containerId := request.containerId
  bindingGeneration := request.bindingGeneration
  completeness := bundle.completeness
  freshnessSeconds := bundle.freshnessSeconds
  observedAt := bundle.collectedAt

/-- What is set after the loop. -/
def ObservationFields.finish (bundle : EvidenceBundle) (obs : ObservationFields) :
    ObservationFields :=
  if bundle.completeness.lookup "prometheus" = some "UNAVAILABLE" then
    { obs with isTelemetryUnavailable := true }
  else obs

/-- `to_observation_bundle`, unless something is raised on the way. -/
def toObservationBundle (request : ObservationRequest) (bundle : EvidenceBundle) :
    Option ObservationFields :=
  (bundle.items.foldlM (observeItem (primaryCpuAvailable bundle.items))
    (ObservationFields.init request bundle)).map (ObservationFields.finish bundle)

/-! ### What the rules read -/

/-- A number, or nothing. -/
def floatOrNone : Data → Option (Option Float)
  | .atom .null => some none
  | .atom (.float x) => some (some x)
  | _ => none

/-- An integer, or nothing. -/
def intOrNone : Data → Option (Option Int)
  | .atom .null => some none
  | .atom (.int n) => some (some n)
  | _ => none

/-- A text, or nothing. -/
def textOrNone : Data → Option (Option String)
  | .atom .null => some none
  | .atom (.text s) => some (some s)
  | _ => none

/-- The observations as the rules take them, if every field is what it should be. -/
def ObservationFields.bundle (obs : ObservationFields) : Option ObservationBundle := do
  let containerStatus ← textOf obs.containerStatus
  let exitCode ← intOrNone obs.exitCode
  let healthStatus ← textOrNone obs.healthStatus
  let upMetric ← floatOrNone obs.upMetric
  let rawCpuSecondsRate ← floatOrNone obs.rawCpuSecondsRate
  let readinessSuccessRatio ← floatOrNone obs.readinessSuccessRatio
  let firingAlerts ← (iterated obs.firingAlerts).bind lineTexts
  some
    { resourceId := obs.resourceId
      serviceName := obs.serviceName
      containerId := obs.containerId
      bindingGeneration := obs.bindingGeneration
      containerStatus := containerStatus
      exitCode := exitCode
      healthStatus := healthStatus
      upMetric := upMetric
      normalizedCpu := obs.normalizedCpu
      rawCpuSecondsRate := rawCpuSecondsRate
      cpuBudgetCores := cpuBudgetCores
      readinessSuccessRatio := readinessSuccessRatio
      latestReadinessCode := obs.latestReadinessCode
      firingAlerts := firingAlerts
      redisConnected := obs.redisConnected
      dbConnectionsActive := obs.dbConnectionsActive
      recentLogErrors := obs.recentLogErrors
      evidenceIdMap := obs.evidenceIdMap
      completeness := obs.completeness
      freshnessSeconds := obs.freshnessSeconds
      isTelemetryUnavailable := obs.isTelemetryUnavailable
      observedAt := obs.observedAt }

/-- The observations that are made of what is collected. -/
def collectedObservation (request : CollectionRequest) (observation : ObservationRequest)
    (answers : CollectionAnswers) : Option ObservationBundle :=
  (toObservationBundle observation (collect request answers)).bind ObservationFields.bundle

end SelfHealing
