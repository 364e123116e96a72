/-
The normaliser of events that are no alerts, and what the fingerprints of both are made of.

The fingerprint is the digest of a text: the source, the resource, the type and the scenario, one
behind the other with colons between them and as they are, and then the identifying keys as
`json.dumps` writes them.  The values of labels are kept as JSON; in the documents that are stored
they are data.
-/
import SelfHealing.Json
import SelfHealing.Lib.SpacedTexts
import SelfHealing.Normalizer

namespace SelfHealing

open Canonical

/-- `json.dumps` with the keys sorted, and with blanks behind commas and colons. -/
def jsonDumpsSpaced (value : JsonValue) : String :=
  String.ofList (jsonPrinter.spaced value.sortKeys)

def jsonStr? (s : Option String) : JsonValue := .atom (s.elim .null .text)

/-- What `compute_fingerprint` hashes. -/
def canonicalText (source : EventSource) (resourceId : Nat) (eventType : String)
    (scenarioId : Option String) (identifyingKeys : JsonDict) : String :=
  let identStr := if identifyingKeys.isEmpty then "" else jsonDumpsSpaced (.map identifyingKeys)
  source.value ++ ":" ++ uuidText resourceId ++ ":" ++ eventType ++ ":" ++
    scenarioId.getD "" ++ ":" ++ identStr

/-- What it hashes for the event of an alert, whose keys are data. -/
def canonicalData (source : EventSource) (resourceId : Nat) (eventType scenarioId : Data)
    (identifyingKeys : DataDict) : String :=
  let identStr := if identifyingKeys.isEmpty then "" else dataDumps (.map identifyingKeys)
  source.value ++ ":" ++ uuidText resourceId ++ ":" ++ dataStr eventType ++ ":" ++
    dataStr (orElse scenarioId (dataText "")) ++ ":" ++ identStr

/-- The text that is hashed for an alert. -/
def AlertItem.canonical (alert : AlertItem) (resourceId : Nat) (commonLabels : DataDict) : String :=
  let labels := commonLabels.merge alert.labels
  let eventType := labels.getOr "alertname" (dataText "UnknownAlert")
  let scenarioId := labels.getOr "scenario_id" dataNull
  canonicalData .alertmanager resourceId eventType scenarioId
    [("alertname", eventType), ("scenario_id", scenarioId),
     ("service", orElse (labels.getOr "service" dataNull) (labels.getOr "job" dataNull)),
     ("instance", labels.getOr "instance" dataNull),
     ("fingerprint_hint", dataText? alert.fingerprint)]

/-! ### Other events -/

/-- `GenericEventPayload`. -/
structure GenericEventPayload where
  source : EventSource := .generic
  eventType : String
  severity : Severity := .medium
  resourceId : Option Nat := none
  resourceName : Option String := none
  resourceExternalId : Option String := none
  scenarioId : Option String := none
  service : Option String := none
  message : Option String := none
  occurredAt : Option Datetime := none
  details : JsonDict := []
  labels : JsonDict := []
  annotations : JsonDict := []

/-- A value as it is stored with the event. -/
def JsonAtom.data : JsonAtom → DataAtom
  | .null => .null
  | .bool b => .bool b
  | .int n => .int n
  | .float x => .float ((floatOfText (String.ofList x.repr)).getD 0)
  | .infinity negative => .float (if negative then -1 / 0 else 1 / 0)
  | .text s => .text s

mutual

def jsonData : JsonValue → Data
  | .atom a => .atom a.data
  | .seq items => .seq (jsonDataItems items)
  | .map entries => .map (jsonDataEntries entries)

def jsonDataItems : List JsonValue → List Data
  | [] => []
  | item :: rest => jsonData item :: jsonDataItems rest

def jsonDataEntries : JsonDict → DataDict
  | [] => []
  | (key, value) :: rest => (key, jsonData value) :: jsonDataEntries rest

end

namespace GenericEventPayload

variable (event : GenericEventPayload)

def identifyingKeys : JsonDict :=
  [("event_type", jsonStr event.eventType), ("scenario_id", jsonStr? event.scenarioId),
   ("service", jsonStr? event.service), ("labels", .map event.labels)]

/-- The text that is hashed for the event. -/
def canonical (resourceId : Nat) : String :=
  canonicalText event.source resourceId event.eventType event.scenarioId event.identifyingKeys

/-- `payload_data`. -/
def payloadData : Data :=
  let message :=
    match event.message with
    | some message =>
        if message ≠ "" then message else s!"Generic event {event.eventType}"
    | none => s!"Generic event {event.eventType}"
  .map
    [("event_type", dataText event.eventType),
     ("message", dataText message),
     ("scenario_id", dataText? event.scenarioId),
     ("service", dataText? event.service),
     ("details", .map (jsonDataEntries event.details)),
     ("labels", .map (jsonDataEntries event.labels)),
     ("annotations", .map (jsonDataEntries event.annotations))]

/-- `normalize_generic_event`, at the time `now`; `modelDump` is pydantic's. -/
def normalize (alnum : Char → Bool) (sha256 : ByteArray → String)
    (modelDump : GenericEventPayload → Data) (resourceId : Nat) (now : Int)
    (dedupWindowSeconds : Int := 60) : NormalizedAlert :=
  let occurredAt := event.occurredAt.elim now Datetime.time
  { event :=
      { source := event.source, eventType := event.eventType, severity := event.severity,
        resourceId := resourceId, occurredAt := occurredAt,
        fingerprint := sha256 (event.canonical resourceId).toUTF8,
        dedupWindow := computeDedupWindow occurredAt dedupWindowSeconds,
        status := "firing", scenarioId := event.scenarioId }
    service := event.service
    payload := redactSensitiveData id alnum event.payloadData
    rawPayload := redactSensitiveData id alnum (modelDump event)
    actor := "api:generic" }

end GenericEventPayload

end SelfHealing
