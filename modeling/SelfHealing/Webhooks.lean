/-
The endpoints that take in events.

Alertmanager posts alerts in batches, and other sources post one event at a time.  A request is one
transaction: each alert in turn is given a resource and made into an event, which is ingested, and
where that has opened an incident the message about it is appended to the incident stream at once.
What Redis has been given it keeps, whatever becomes of the transaction.

An alert is given here by what the resolver and the normaliser make of it, which is an event or an
exception.
-/
import SelfHealing.Ingestion

namespace SelfHealing

open Interleaving

/-- What the resolver and the normaliser make of an alert. -/
abbrev Alert := Except Err NormalizedEventPayload

/-! ### The publisher -/

section Publisher

variable (p : Nat)

/-- One `xadd` to the incident stream. -/
def xaddIncident (incident : Incident) (eventIds : List Nat) : Prog Unit :=
  Interleaving.Prog.stmt fun w db =>
    some
      (match w.xadd.error with
        | none => .ok ()
        | some text => .error ⟨.redisError, text⟩,
        if w.xadd.appended then db.record [.published p incident eventIds] else db)

/-- One `xadd` to the dead-letter stream. -/
def xaddDeadLetter : Prog Unit :=
  Interleaving.Prog.stmt fun w db =>
    some
      (match w.xadd.error with
        | none => .ok ()
        | some text => .error ⟨.redisError, text⟩,
        db)

/-- The attempts of `publish_with_retry` that are left, after one that raised `lastError`; when
there are none, the message goes to the dead-letter stream. -/
def publishRemaining (incident : Incident) (eventIds : List Nat) : Nat → Option Err → Prog Unit
  | 0, lastError =>
      tryCatch xaddDeadLetter fun dlqError => throw (lastError.getD dlqError)
  | left + 1, _ =>
      tryCatch (xaddIncident p incident eventIds) fun e =>
        publishRemaining incident eventIds left (some e)

/-- `publish_incident_created`. -/
def publishIncidentCreated (incident : Incident) (eventIds : List Nat) (maxRetries : Nat := 3) :
    Prog Unit :=
  publishRemaining p incident eventIds maxRetries none

end Publisher

/-! ### The endpoints -/

/-- Publish what the event has opened, if it has opened anything.  An exception is only logged. -/
def publishCreated (p : Nat) (res : IngestionResult) : Prog Unit :=
  match res.incident with
  | some incident =>
      if res.wasCreated then
        tryCatch (publishIncidentCreated p incident [res.event.id]) fun _ => pure ()
      else pure ()
  | none => pure ()

/-- What both endpoints do with an alert. -/
def handleAlert (t : TxId) (actor : String) (alert : Alert) : Prog IngestionResult := do
  let event ← check alert
  let res ← ingestEvent t actor event
  publishCreated t.pid res
  pure res

/-- The answer to a batch. -/
structure AlertmanagerResponse where
  processed : Nat
  eventIds : List Nat
  createdIncidents : List Nat
  correlatedIncidents : List Nat
deriving DecidableEq, Repr

namespace AlertmanagerResponse

def empty : AlertmanagerResponse := ⟨0, [], [], []⟩

/-- What one more event adds to the lists; the incidents are each named once. -/
def add (res : IngestionResult) (response : AlertmanagerResponse) : AlertmanagerResponse :=
  { response with
    eventIds := response.eventIds ++ [res.event.id]
    createdIncidents :=
      match res.incident with
      | some incident =>
          if res.wasCreated then List.insert incident.id response.createdIncidents
          else response.createdIncidents
      | none => response.createdIncidents
    correlatedIncidents :=
      match res.incident with
      | some incident =>
          if res.wasCreated then response.correlatedIncidents
          else List.insert incident.id response.correlatedIncidents
      | none => response.correlatedIncidents }

end AlertmanagerResponse

/-- The loop of `alertmanager_webhook` over the alerts. -/
def processAlerts (t : TxId) (actor : String) :
    List Alert → AlertmanagerResponse → Prog AlertmanagerResponse
  | [], response => pure response
  | alert :: rest, response => do
      let res ← handleAlert t actor alert
      processAlerts t actor rest (response.add res)

/-- `alertmanager_webhook`, of a request with the right secret. -/
def alertmanagerWebhook (p : Nat) (alerts : List Alert) : Prog AlertmanagerResponse :=
  if alerts = [] then pure .empty
  else do
    let response ← unitOfWork ⟨p, 0⟩ "webhook:alertmanager"
      (processAlerts ⟨p, 0⟩ "webhook:alertmanager" alerts .empty)
    pure { response with processed := alerts.length }

/-- The answer to a single event. -/
structure GenericEventResponse where
  eventId : Nat
  incidentId : Option Nat
  wasCreated : Bool
  action : String
deriving DecidableEq, Repr

/-- `ingest_generic_event`, of a request with the right secret. -/
def ingestGenericEvent (p : Nat) (payload : Alert) : Prog GenericEventResponse :=
  unitOfWork ⟨p, 0⟩ "api:generic" do
    let res ← handleAlert ⟨p, 0⟩ "api:generic" payload
    pure
      { eventId := res.event.id
        incidentId := res.incident.map Incident.id
        wasCreated := res.wasCreated
        action := res.action }

/-! ### What a request is asked for -/

/-- A request to one of the endpoints. -/
inductive EventRequest
  | webhook (alerts : List Alert)
  | generic (payload : Alert)

/-- What the request carries. -/
def EventRequest.alerts : EventRequest → List Alert
  | .webhook alerts => alerts
  | .generic payload => [payload]

/-- The program of a request; its answer does not matter here. -/
def EventRequest.prog (p : Nat) : EventRequest → Prog Unit
  | .webhook alerts => do
      let _ ← alertmanagerWebhook p alerts
      pure ()
  | .generic payload => do
      let _ ← ingestGenericEvent p payload
      pure ()

/-- This version of the incident is in a committed state of the database. -/
def Db.persisted (db : Db) (i version : Nat) : Prop :=
  ∃ incident, some incident ∈ (db.incidents i).versions ∧ incident.version = version

/-- Every message that process `p` has appended is about an incident in the database. -/
def Db.truthful (p : Nat) (db : Db) : Prop :=
  ∀ incident eventIds, Event.published p incident eventIds ∈ db.log →
    db.persisted incident.id incident.version

/-- The event can be stored: its fingerprint is a digest. -/
def Alert.accepted : Alert → Bool
  | .ok event => isDigest event.fingerprint
  | .error _ => false

/-- The alert is one for which there is no open incident. -/
def Alert.opens (db : Db) : Alert → Bool
  | .ok event =>
      isDigest event.fingerprint && decide (event.status = "firing") &&
        (db.incidentIds.filterMap db.incident).all fun incident =>
          !incident.active (computeCorrelationKey event)
  | .error _ => false

/-- One of the alerts is one for which there is no open incident, and all before it are accepted. -/
def opensIncident (db : Db) : List Alert → Bool
  | [] => false
  | alert :: rest => alert.opens db || (alert.accepted && opensIncident db rest)

/-- Nobody is in a transaction that the request would wait for, and no row has an identifier that
is not drawn yet. -/
structure Db.Quiet (db : Db) : Prop where
  incidents : ∀ i, (db.incidents i).pending = none
  events : ∀ k, (db.events k).pending = none
  undrawn : ∀ i, db.nextId ≤ i → db.incidents i = ReadCommitted.Cell.empty

end SelfHealing
