/-
The rows of `events`, with the documents of the alerts.

An event is stored once for its source, its resource, its fingerprint and its dedup window: what
comes later under the same four is not stored, and the row that is there is returned for it.  What
`ingest_event` does afterwards, with incidents and their links, leaves the rows as they are.
-/
import SelfHealing.Ingestion
import SelfHealing.Lib.Upsert
import SelfHealing.Normalizer

namespace SelfHealing

/-- A row of `events`. -/
structure EventRow where
  id : Nat
  key : EventKey
  occurredAt : Int
  severity : Severity
  payload : Data
  rawPayload : Data
  actor : String

/-- The committed rows, and the identifier that `uuid4` draws next. -/
structure EventTable where
  rows : List EventRow := []
  nextId : Nat := 0

/-- `ON CONFLICT ON CONSTRAINT uq_event_dedup DO NOTHING`. -/
def uniqueEvents : Upsert.Table EventRow EventKey where
  key := EventRow.key
  update row _ := row
  key_update _ _ := rfl

/-- The values that `store_event` inserts. -/
def EventTable.values (table : EventTable) (actor : String) (normalized : NormalizedAlert) :
    EventRow where
  id := table.nextId
  key := normalized.event.key
  occurredAt := normalized.event.occurredAt
  severity := normalized.event.severity
  payload := normalized.payload
  rawPayload := normalized.rawPayload
  actor := actor

/-- `store_event`: the row that is returned, and the table afterwards. -/
def EventTable.storeEvent (table : EventTable) (actor : String) (normalized : NormalizedAlert) :
    Except PyExc (EventRow × EventTable) :=
  if isDigest normalized.event.fingerprint = false then .error .valueError
  else
    let values := table.values actor normalized
    let after : EventTable :=
      { rows := uniqueEvents.upsert values table.rows, nextId := table.nextId + 1 }
    match uniqueEvents.find normalized.event.key table.rows with
    | none => .ok (values, after)
    | some existing => .ok (existing, after)

/-- An alert of a webhook's request, with what the request and the resolver give it. -/
structure Notification where
  alert : AlertItem
  resourceId : Nat
  commonLabels : DataDict := []
  commonAnnotations : DataDict := []
  /-- The time at which it is normalised. -/
  now : Int

section Ingestion

variable (alnum : Char → Bool) (sha256 : ByteArray → String) (dedupWindowSeconds : Int)

def Notification.normalize (n : Notification) : Except PyExc NormalizedAlert :=
  normalizeAlertmanagerAlert alnum sha256 n.alert n.resourceId n.commonLabels n.commonAnnotations
    n.now dedupWindowSeconds

/-- The table after a notification; one that raises is not ingested and changes nothing. -/
def EventTable.ingest (table : EventTable) (n : Notification) : EventTable :=
  match n.normalize alnum sha256 dedupWindowSeconds with
  | .error _ => table
  | .ok normalized =>
      match table.storeEvent "webhook:alertmanager" normalized with
      | .error _ => table
      | .ok (_, after) => after

/-- The table after a sequence of notifications. -/
def ingestAll (run : List Notification) : EventTable :=
  run.foldl (EventTable.ingest alnum sha256 dedupWindowSeconds) {}

end Ingestion

end SelfHealing
