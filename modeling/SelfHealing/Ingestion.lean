/-
Ingestion.

An event is stored once for each fingerprint and window, and then belongs to the incident that is
open under its correlation key; a firing one opens an incident where there is none, and a message
about it goes into the outbox in the same transaction.  Others may be ingesting under the same
key, and others may be closing the incident.
-/
import SelfHealing.Incidents
import SelfHealing.Texts

namespace SelfHealing

open Interleaving ReadCommitted

/-! ### Events -/

/-- The text is a lowercase SHA-256 digest. -/
def isDigest (text : String) : Bool :=
  decide (text.length = 64) && text.toList.all fun c => "0123456789abcdef".toList.contains c

/-- The columns by which the event is known. -/
def NormalizedEventPayload.key (event : NormalizedEventPayload) : EventKey :=
  { source := event.source, resourceId := event.resourceId, fingerprint := event.fingerprint,
    dedupWindow := event.dedupWindow }

section Repository

variable (t : TxId) (actor : String)

/-- `INSERT INTO events ... ON CONFLICT DO NOTHING RETURNING`: waits for a concurrent insert of
the same event. -/
def insertEvent (key : EventKey) (event : EventRecord) : Prog (Option EventRecord) :=
  sql fun db =>
    let c := db.events key
    if c.free t then
      match c.visible t with
      | some _ => some (.ok none, db)
      | none => some (.ok (some event), db.setEvent key (c.write t (some event)))
    else none

/-- `store_event`. -/
def storeEvent (event : NormalizedEventPayload) : Prog EventRecord := do
  if isDigest event.fingerprint = false then
    throw ⟨.valueError, "fingerprint must be a lowercase SHA-256 digest"⟩
  let id ← uuid4 t.pid
  let inserted ← insertEvent t event.key
    { id := id, occurredAt := event.occurredAt, severity := event.severity, actor := actor }
  match inserted with
  | some record => pure record
  | none =>
      let existing ← select fun db => (db.events event.key).visible t
      match existing with
      | some record => pure record
      | none =>
          throw ⟨.runtimeError, s!"Event with fingerprint {event.fingerprint} conflicted on " ++
            "'uq_event_dedup' but could not be found in the database."⟩

/-- `link_event`.  A link that is there already stays. -/
def linkEvent (incidentId eventId : Nat) : Prog Unit :=
  sql fun db => some (.ok (), db.add t (.link ⟨incidentId, eventId⟩))

/-- `add_outbox_event`, of an event in its first state. -/
def addOutbox (event : OutboxEvent) : Prog Unit := do
  let id ← uuid4 t.pid
  insertOutboxEvent t id { event with status := "PENDING", actor := actor }

end Repository

/-! ### Correlation -/

/-- `compute_correlation_key`. -/
def computeCorrelationKey (event : NormalizedEventPayload) : String :=
  match event.scenarioId with
  | none => s!"{uuidText event.resourceId}:{event.eventType}"
  | some scenario =>
      if scenario = "" then s!"{uuidText event.resourceId}:{event.eventType}"
      else s!"{uuidText event.resourceId}:{scenario}"

structure IngestionResult where
  event : EventRecord
  incident : Option Incident
  wasCreated : Bool
  isDuplicateEvent : Bool
  action : String

/-- The message about a new incident. -/
def Incident.detectedEvent (incident : Incident) (eventId : Nat) : OutboxEvent :=
  { eventType := "incident.detected", aggregateType := "incident", aggregateId := incident.id,
    aggregateVersion := incident.version, state := incident.state, severity := incident.severity,
    correlationKey := incident.correlationKey, resourceId := incident.resourceId,
    eventIds := some [eventId], status := "PENDING", actor := "" }

/-- `ingest_event`. -/
def ingestEvent (t : TxId) (actor : String) (event : NormalizedEventPayload) :
    Prog IngestionResult := do
  let record ← storeEvent t actor event
  let key := computeCorrelationKey event
  if event.status ≠ "firing" then
    let active ← getActiveIncidentByCorrelationKey t key
    match active with
    | some incident =>
        linkEvent t incident.id record.id
        pure { event := record, incident := some incident, wasCreated := false,
               isDuplicateEvent := false, action := "resolved_linked" }
    | none =>
        pure { event := record, incident := none, wasCreated := false,
               isDuplicateEvent := false, action := "resolved_ignored" }
  else
    let (incident, wasCreated) ← getOrCreateIncident t event.resourceId key event.severity
    linkEvent t incident.id record.id
    if wasCreated then
      addOutbox t actor (incident.detectedEvent record.id)
      pure { event := record, incident := some incident, wasCreated := true,
             isDuplicateEvent := false, action := "incident_created" }
    else
      pure { event := record, incident := some incident, wasCreated := false,
             isDuplicateEvent := false, action := "incident_correlated" }

/-! ### Callers -/

/-- A call that moves an incident. -/
inductive IncidentMove
  | requireApproval (incidentId : Nat) (expectedVersion : Int)
  | transition (incidentId : Nat) (expectedVersion : Int) (target : IncidentState)

def IncidentMove.call : IncidentMove → IncidentCall
  | .requireApproval incidentId expectedVersion => .requireApproval incidentId expectedVersion
  | .transition incidentId expectedVersion target => .transition incidentId expectedVersion target

/-- The events of a batch, one after the other. -/
def ingestEvents (t : TxId) (actor : String) : List NormalizedEventPayload → Prog Unit
  | [] => pure ()
  | event :: rest => do
      let _ ← ingestEvent t actor event
      ingestEvents t actor rest

/-- A transaction that ingests events, or one that moves incidents; in the end it may raise on its
own account. -/
inductive IngestionTx
  | ingest (actor : String) (events : List NormalizedEventPayload) (raises : Option Err)
  | move (actor : String) (calls : List (IncidentMove × Bool)) (raises : Option Err)

def IngestionTx.prog (p : Nat) : IngestionTx → Prog Unit
  | .ingest actor events raises =>
      unitOfWork ⟨p, 0⟩ actor do
        ingestEvents ⟨p, 0⟩ actor events
        match raises with
        | some e => throw e
        | none => pure ()
  | .move actor calls raises =>
      (⟨actor, calls.map fun (m, caught) => (m.call, caught), raises⟩ : IncidentTx).prog p

/-- Any number of transactions, while time passes. -/
def ingestionMachine : Machine World IngestionTx Nat Db where
  prog := fun p tx => do
    let _ ← (tx.prog p).run
    pure ()
  ready := fun _ _ _ => True
  crash := Db.crash
  env := fun elapsed db => some { db with now := db.now + elapsed }
  admits := fun _ _ => True

instance (p : Nat) (tx : IngestionTx) (db : Db) : Decidable (ingestionMachine.ready p tx db) :=
  .isTrue trivial

instance (s s' : Db) : Decidable (ingestionMachine.admits s s') := .isTrue trivial

/-- The message that everybody sees. -/
def Db.message (db : Db) (o : Nat) : Option OutboxEvent := (db.outbox o).committed

/-- The event says that this incident was detected. -/
def OutboxEvent.detects (i : Nat) (event : OutboxEvent) : Prop :=
  event.eventType = "incident.detected" ∧ event.aggregateId = i

end SelfHealing
