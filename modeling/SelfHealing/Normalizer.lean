/-
The normaliser of alerts.

An alert comes with labels and annotations of its own, beside those of the whole notification, and is
made into an event: by a few labels it gets its type, its severity and its fingerprint, and all of
them go into the documents that are stored with it, which are redacted.
-/
import SelfHealing.Formats
import SelfHealing.Redaction
import SelfHealing.Telemetry

namespace SelfHealing

open Masking

/-! ### Alerts -/

/-- A time as a clock shows it, with its offset from UTC in minutes if it has one. -/
structure Datetime where
  wall : Int
  offset : Option Int := none
deriving DecidableEq

/-- The time, where none without an offset is in UTC. -/
def Datetime.time (d : Datetime) : Int := d.wall - seconds (d.offset.getD 0 * 60)

/-- `isoformat`. -/
def Datetime.isoformat (d : Datetime) : String :=
  let clock := String.ofList ((SelfHealing.isoformat d.wall).toList.reverse.drop 6).reverse
  let offset := d.offset.elim "" fun minutes =>
    (if minutes < 0 then "-" else "+") ++ padded 2 (minutes.natAbs / 60) ++ ":" ++
      padded 2 (minutes.natAbs % 60)
  clock ++ offset

structure AlertItem where
  status : String := "firing"
  labels : DataDict := []
  annotations : DataDict := []
  startsAt : Option Datetime := none
  endsAt : Option Datetime := none
  generatorURL : Option String := none
  fingerprint : Option String := none

/-- The event of an alert, with the documents and the columns that are stored along. -/
structure NormalizedAlert where
  event : NormalizedEventPayload
  service : Option String
  payload : Data
  rawPayload : Data
  actor : String

/-! ### The fields -/

/-- `str.lower` and `str.strip`, for a comparison with words of ASCII. -/
def lowered (text : String) : String := String.ofList ((stripSpaces text.toList).flatMap lowerChar)

/-- `map_severity`. -/
def mapSeverity (rawSeverity : Data) : Severity :=
  if truthy rawSeverity = false then .medium
  else
    let clean := lowered (dataStr rawSeverity)
    if ["critical", "fatal", "page"].contains clean then .critical
    else if ["high", "error"].contains clean then .high
    else if ["warning", "warn", "medium"].contains clean then .medium
    else if ["info", "low", "notice", "debug", "none"].contains clean then .low
    else .medium

/-- `compute_dedup_window`. -/
def computeDedupWindow (time : Int) (windowSeconds : Int := 60) : Int :=
  seconds (((time.tdiv 1000000).fdiv windowSeconds) * windowSeconds)

def EventSource.value : EventSource → String
  | .alertmanager => "ALERTMANAGER"
  | .generic => "GENERIC"
  | .isolationForest => "ISOLATION_FOREST"
  | .cloudwatch => "CLOUDWATCH"

/-- `a or b`. -/
def orElse (a b : Data) : Data := if truthy a then a else b

/-- `compute_fingerprint`. -/
def computeFingerprint (sha256 : ByteArray → String) (source : EventSource) (resourceId : Nat)
    (eventType scenarioId : Data) (identifyingKeys : DataDict) : String :=
  let identStr := if identifyingKeys.isEmpty then "" else dataDumps (.map identifyingKeys)
  let canonical := source.value ++ ":" ++ uuidText resourceId ++ ":" ++ dataStr eventType ++ ":" ++
    dataStr (orElse scenarioId (dataText "")) ++ ":" ++ identStr
  sha256 canonical.toUTF8

/-- `{**dict, **other}`. -/
def DataDict.merge (dict other : DataDict) : DataDict :=
  other.foldl (fun dict entry => put entry.1 entry.2 dict) dict

/-- A field of type `str | None`. -/
def optionalText : Data → Except PyExc (Option String)
  | .atom .null => .ok none
  | value =>
      match textOf value with
      | some text => .ok (some text)
      | none => .error .validationError

/-! ### The normaliser -/

section Normalizer

variable (alnum : Char → Bool) (sha256 : ByteArray → String)

/-- `payload_data` of an alert with these labels and annotations. -/
def AlertItem.payloadData (alert : AlertItem) (labels annotations : DataDict) : Data :=
  let eventType := labels.getOr "alertname" (dataText "UnknownAlert")
  let message := orElse (orElse (annotations.getOr "summary" dataNull)
    (annotations.getOr "description" dataNull))
    (dataText s!"Alert {dataStr eventType} status {alert.status}")
  .map
    [("alertname", eventType),
     ("status", dataText alert.status),
     ("message", message),
     ("scenario_id", labels.getOr "scenario_id" dataNull),
     ("service", orElse (labels.getOr "service" dataNull) (labels.getOr "job" dataNull)),
     ("labels", .map labels),
     ("annotations", .map annotations),
     ("generatorURL", dataText? alert.generatorURL)]

/-- `raw_data` of an alert. -/
def AlertItem.rawData (alert : AlertItem) : Data :=
  .map
    [("status", dataText alert.status),
     ("labels", .map alert.labels),
     ("annotations", .map alert.annotations),
     ("startsAt", dataText? (alert.startsAt.map Datetime.isoformat)),
     ("endsAt", dataText? (alert.endsAt.map Datetime.isoformat)),
     ("generatorURL", dataText? alert.generatorURL),
     ("fingerprint", dataText? alert.fingerprint)]

/-- `normalize_alertmanager_alert`, at the time `now`. -/
def normalizeAlertmanagerAlert (alert : AlertItem) (resourceId : Nat) (commonLabels commonAnnotations :
    DataDict) (now : Int) (dedupWindowSeconds : Int := 60) : Except PyExc NormalizedAlert := do
  let labels := commonLabels.merge alert.labels
  let annotations := commonAnnotations.merge alert.annotations
  let eventType := labels.getOr "alertname" (dataText "UnknownAlert")
  let scenarioId := labels.getOr "scenario_id" dataNull
  let service := orElse (labels.getOr "service" dataNull) (labels.getOr "job" dataNull)
  let severity := mapSeverity (labels.getOr "severity" dataNull)
  let occurredAt := alert.startsAt.elim now Datetime.time
  let identifyingKeys : DataDict :=
    [("alertname", eventType), ("scenario_id", scenarioId), ("service", service),
     ("instance", labels.getOr "instance" dataNull),
     ("fingerprint_hint", dataText? alert.fingerprint)]
  let fingerprint :=
    computeFingerprint sha256 .alertmanager resourceId eventType scenarioId identifyingKeys
  let redactedPayload := redactSensitiveData id alnum (alert.payloadData labels annotations)
  let redactedRaw := redactSensitiveData id alnum alert.rawData
  -- the model of the event takes no other values for the fields that are texts
  let eventTypeText ← (textOf eventType).elim (.error .validationError) .ok
  let scenarioText ← optionalText scenarioId
  let serviceText ← optionalText service
  pure
    { event :=
        { source := .alertmanager, eventType := eventTypeText, severity := severity,
          resourceId := resourceId, occurredAt := occurredAt, fingerprint := fingerprint,
          dedupWindow := computeDedupWindow occurredAt dedupWindowSeconds,
          status := textLower alert.status, scenarioId := scenarioText }
      service := serviceText
      payload := redactedPayload
      rawPayload := redactedRaw
      actor := "webhook:alertmanager" }

end Normalizer

end SelfHealing
