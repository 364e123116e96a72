/-
The outbox.

What is to be published is first a row of the database, written in the transaction that it tells
of.  A sweep takes the pending rows, oldest first, publishes each to the incident stream, and to
the dead-letter stream when the incident stream will not have it, and marks it; all its marks are
one transaction, but what Redis has been given it keeps.

What Redis answers is given with the sweep.  Sweeps are one after the other, and rows are
committed by others in between.
-/
import Mathlib.Data.List.Sort
import SelfHealing.Streams

namespace SelfHealing

/-! ### Rows -/

/-- A row of the outbox. -/
structure OutboxRow where
  id : Nat
  createdAt : Int
  event : OutboxEvent
  retryCount : Nat := 0
  lastError : Option String := none
  publishedAt : Option Int := none
deriving DecidableEq, Repr

/-- A value of a payload. -/
inductive PayloadValue
  | text (value : String)
  | number (value : Nat)
  | texts (values : List String)

/-- The value as a field of a message. -/
def PayloadValue.field : PayloadValue → String
  | .text value => value
  | .number value => Nat.repr value
  | .texts values => jsonTexts values

namespace OutboxEvent

def payload (event : OutboxEvent) : List (String × PayloadValue) :=
  [("incident_id", .text (uuidText event.aggregateId)),
    ("state", .text event.state.value),
    ("version", .number event.aggregateVersion),
    ("severity", .text event.severity.value),
    ("correlation_key", .text event.correlationKey),
    ("resource_id", .text (uuidText event.resourceId))] ++
  match event.eventIds with
  | none => []
  | some ids =>
      [("event_type", .text "incident.detected"), ("event_ids", .texts (ids.map uuidText))]

/-- The fields of the message: those of the row, and over them those of its payload. -/
def fields (event : OutboxEvent) : StreamFields :=
  event.payload.foldl (fun fields (name, value) => fields.set name value.field)
    [("event_type", event.eventType), ("aggregate_type", event.aggregateType),
      ("aggregate_id", uuidText event.aggregateId), ("incident_id", uuidText event.aggregateId),
      ("aggregate_version", Nat.repr event.aggregateVersion),
      ("version", Nat.repr event.aggregateVersion)]

end OutboxEvent

/-! ### The publisher -/

/-- What Redis answers to the attempts of one message, and to its dead letter. -/
structure PublishAnswers where
  stream : Nat → XaddAnswer
  dlq : XaddAnswer

/-- A message in the stream, and the row that it came from. -/
structure StreamEntry where
  source : Nat
  fields : StreamFields
deriving DecidableEq, Repr

/-- The streams, newest first. -/
structure Redis where
  stream : List StreamEntry := []
  dlq : List StreamFields := []
deriving DecidableEq, Repr

/-- The attempts of `publish_with_retry` at the stream: `left` more, of which the next is number
`attempt`.  Raises the last error. -/
def publishAttempts (entry : StreamEntry) (answers : Nat → XaddAnswer) :
    Nat → Nat → Option String → List StreamEntry → Except (Option String) Unit × List StreamEntry
  | 0, _, lastError, stream => (.error lastError, stream)
  | left + 1, attempt, _, stream =>
      let answer := answers attempt
      let stream := if answer.appended then entry :: stream else stream
      match answer.error with
      | none => (.ok (), stream)
      | some text => publishAttempts entry answers left (attempt + 1) (some text) stream

/-- `publish_with_retry`; raises with the text of an error. -/
def publishWithRetry (streamKey : String) (now : Int) (entry : StreamEntry)
    (answers : PublishAnswers) (redis : Redis) (maxRetries : Nat := 3) :
    Except String Unit × Redis :=
  match publishAttempts entry answers.stream maxRetries 1 none redis.stream with
  | (.ok _, stream) => (.ok (), { redis with stream := stream })
  | (.error lastError, stream) =>
      let letter : StreamFields :=
        [("target_stream", streamKey), ("original_payload", jsonFields entry.fields),
          ("error", lastError.getD "None"), ("failed_at", isoformat now),
          ("retries", Nat.repr maxRetries)]
      let redis : Redis :=
        { stream := stream
          dlq := if answers.dlq.appended then letter :: redis.dlq else redis.dlq }
      match answers.dlq.error with
      | none => (.ok (), redis)
      | some text => (.error (lastError.getD text), redis)

/-! ### The service -/

/-- The committed rows, and Redis. -/
structure Outbox where
  rows : List OutboxRow := []
  redis : Redis := {}
deriving DecidableEq, Repr

namespace OutboxRow

def pending (row : OutboxRow) : Bool := decide (row.event.status = "PENDING")

/-- `mark_outbox_published`. -/
def published (now : Int) (row : OutboxRow) : OutboxRow :=
  { row with event := { row.event with status := "PUBLISHED" }, publishedAt := some now }

/-- `mark_outbox_failed`. -/
def failed (error : String) (row : OutboxRow) : OutboxRow :=
  { row with
    event := { row.event with status := "FAILED" }
    lastError := some error
    retryCount := row.retryCount + 1 }

end OutboxRow

/-- `UPDATE outbox_events ... WHERE id = ...`. -/
def updateOutbox (id : Nat) (set : OutboxRow → OutboxRow) (rows : List OutboxRow) :
    List OutboxRow :=
  rows.map fun row => if row.id = id then set row else row

/-- `fetch_pending_outbox_events`. -/
def fetchPendingOutboxEvents (limit : Nat) (rows : List OutboxRow) : List OutboxRow :=
  ((rows.filter OutboxRow.pending).insertionSort fun a b => a.createdAt ≤ b.createdAt).take limit

/-- A sweep: its batch size and its time, what Redis answers for each message of the batch, and
the number of messages after which the transaction is undone, if it is. -/
structure Sweep where
  streamKey : String := "stream:incidents"
  batchSize : Nat := 50
  now : Int
  answers : Nat → PublishAnswers
  undoneAfter : Option Nat := none

/-- The loop of `sweep_and_publish` over the rows it has fetched, from the given place on. -/
def publishEvents (s : Sweep) : Nat → List OutboxRow → Outbox × Nat → Outbox × Nat
  | _, [], result => result
  | place, row :: rest, (o, processedCount) =>
      match publishWithRetry s.streamKey s.now ⟨row.id, row.event.fields⟩ (s.answers place)
          o.redis with
      | (.ok _, redis) =>
          publishEvents s (place + 1) rest
            ({ rows := updateOutbox row.id (OutboxRow.published s.now) o.rows, redis := redis },
              processedCount + 1)
      | (.error text, redis) =>
          publishEvents s (place + 1) rest
            ({ rows := updateOutbox row.id (OutboxRow.failed text) o.rows, redis := redis },
              processedCount)

/-- `sweep_and_publish`.  One that is undone leaves the rows as they were. -/
def sweepAndPublish (s : Sweep) (o : Outbox) : Outbox × Nat :=
  let batch := fetchPendingOutboxEvents s.batchSize o.rows
  match s.undoneAfter with
  | none => publishEvents s 0 batch (o, 0)
  | some n => ({ o with redis := (publishEvents s 0 (batch.take n) (o, 0)).1.redis }, 0)

/-- `add_outbox_event`, and the commit of the transaction that made it.  The identifier is the
primary key. -/
def addOutboxEvent (row : OutboxRow) (o : Outbox) : Outbox :=
  if row.id ∈ o.rows.map OutboxRow.id then o
  else
    { o with rows := o.rows ++ [{ row with
      event := { row.event with status := "PENDING" }
      retryCount := 0, lastError := none, publishedAt := none }] }

/-- What happens to the outbox. -/
inductive OutboxStep
  | added (row : OutboxRow)
  | swept (s : Sweep)

def OutboxStep.run : OutboxStep → Outbox → Outbox
  | .added row, o => addOutboxEvent row o
  | .swept s, o => (sweepAndPublish s o).1

/-- The steps, one after the other. -/
def Outbox.runs (o : Outbox) (steps : List OutboxStep) : Outbox :=
  steps.foldl (fun o step => step.run o) o

end SelfHealing
