/-
The incident stream.

Redis keeps a message until the group that reads it has acknowledged it.  The consumer
remembers in memory which pairs of an incident and a version it has seen, so that a message
that is delivered twice, or published twice, does not start a second run.

Whether `run_incident` returns and whether Redis takes an acknowledgement is given with each
delivery.  `log` records, newest first, what the consumer did.
-/
import SelfHealing.Texts

namespace SelfHealing

/-! ### Messages -/

/-- The fields of a message: a dictionary, in the order of insertion. -/
abbrev StreamFields := List (String × String)

namespace StreamFields

/-- `fields.get(name)`. -/
def get (fields : StreamFields) (name : String) : Option String := fields.lookup name

/-- `fields[name] = value`. -/
def set (name value : String) : StreamFields → StreamFields
  | [] => [(name, value)]
  | (n, v) :: rest => if n = name then (name, value) :: rest else (n, v) :: set name value rest

end StreamFields

structure StreamMessage where
  msgId : String
  fields : StreamFields
deriving DecidableEq, Repr

/-- `first or second`, of texts that may be missing. -/
def textOr (first second : Option String) : Option String :=
  if first.getD "" = "" then second else first

namespace StreamMessage

variable (m : StreamMessage)

def incidentIdStr : Option String := textOr (m.fields.get "incident_id") (m.fields.get "aggregate_id")

def versionStr : Option String := textOr (m.fields.get "version") (m.fields.get "aggregate_version")

/-- The message names no incident at all. -/
def anonymous : Bool := decide (m.incidentIdStr.getD "" = "")

/-- `int(version_str)`, or the first version if the message does not name one. -/
def version : Option Int :=
  match m.versionStr with
  | none => some 1
  | some text => intOfText 10 text

/-- The incident and the version that the message is about, if they can be read. -/
def target : Option (Nat × Int) := do
  let text ← m.incidentIdStr
  let incidentId ← uuidOfText text
  let version ← m.version
  pure (incidentId, version)

/-- What the duplicate filter knows the message by: the incident as it is written. -/
def dedupKey : Option (String × Int) := do
  let text ← m.incidentIdStr
  let (_, version) ← m.target
  pure (text, version)

end StreamMessage

/-! ### The consumer -/

/-- What the consumer does: it runs an incident for a message, which returns or raises; it has a
message acknowledged. -/
inductive ConsumerEvent
  | ran (incidentId : Nat) (version : Int) (key : String × Int) (payload : Option String)
      (completed : Bool)
  | acked (m : StreamMessage)
deriving DecidableEq, Repr

structure IncidentStreamConsumer where
  seen : List (String × Int) := []
  log : List ConsumerEvent := []
deriving DecidableEq, Repr

/-- A message is delivered; whether the run for it returns, should there be one, and whether its
acknowledgement is taken. -/
structure Delivery where
  message : StreamMessage
  completes : Bool
  acks : Bool
deriving DecidableEq, Repr

namespace IncidentStreamConsumer

/-- `xack`. -/
def xack (d : Delivery) (c : IncidentStreamConsumer) : IncidentStreamConsumer :=
  if d.acks then { c with log := .acked d.message :: c.log } else c

/-- `_seen.add`, and the bound on its size. -/
def remember (key : String × Int) (c : IncidentStreamConsumer) : IncidentStreamConsumer :=
  let seen := key :: c.seen
  { c with seen := if 5000 < seen.length then [] else seen }

/-- `_process_message`.  What it raises is logged and nothing else, so that the message stays
unacknowledged. -/
def processMessage (d : Delivery) (c : IncidentStreamConsumer) : IncidentStreamConsumer :=
  if d.message.anonymous then c.xack d
  else
    match d.message.target, d.message.dedupKey with
    | some (incidentId, version), some key =>
        if key ∈ c.seen then c.xack d
        else
          let c := c.remember key
          let c := { c with
            log := .ran incidentId version key (d.message.fields.get "payload") d.completes ::
              c.log }
          if d.completes then c.xack d else c
    | _, _ => c

/-- The deliveries, one after the other. -/
def consume (c : IncidentStreamConsumer) (deliveries : List Delivery) : IncidentStreamConsumer :=
  deliveries.foldl (fun c d => c.processMessage d) c

end IncidentStreamConsumer

end SelfHealing
