/-
The automation controls.

One row says how far automation may go and which resources it must not touch.  A
request to stop a resource reads the list, changes it and writes it back as a
whole.  The session writes, of a record it has loaded, only the columns that differ
from what it loaded, and it writes them over whatever the row holds by then.
-/
import Mathlib.Data.List.Dedup
import Mathlib.Data.List.Sort
import SelfHealing.Database

namespace SelfHealing

open Interleaving ReadCommitted

/-- The resources that automation must not touch, as everybody sees them. -/
def Db.stops (db : Db) : List String :=
  (db.control.committed.map AutomationControl.emergencyStoppedResources).getD []

/-! ### The repository -/

section Repository

variable (t : TxId) (actor : String)

def insertControl (control : AutomationControl) : Prog Unit :=
  sql fun db =>
    let c := db.control
    if c.free t then
      match c.visible t with
      | some _ => some (.error integrityError, db)
      | none => some (.ok (), db.setControl (c.write t (some control)))
    else none

def getAutomationControls : Prog AutomationControl := do
  let found ← select fun db => db.control.visible t
  match found with
  | some control => pure control
  | none =>
      let now ← datetimeNow
      let control : AutomationControl :=
        { mode := .approvalRequired, emergencyStoppedResources := [], updatedAt := now,
          updatedBy := actor, reason := "Default initial automation mode" }
      insertControl t control
      pure control

/-- The row after a flush: the columns in which the record differs from what was loaded. -/
def AutomationControl.flushed (now : Int) (loaded changed row : AutomationControl) :
    AutomationControl :=
  { mode := if changed.mode = loaded.mode then row.mode else changed.mode
    emergencyStoppedResources :=
      if changed.emergencyStoppedResources = loaded.emergencyStoppedResources then
        row.emergencyStoppedResources
      else changed.emergencyStoppedResources
    -- the column has an `onupdate` of its own
    updatedAt := if changed.updatedAt = loaded.updatedAt then now else changed.updatedAt
    updatedBy := if changed.updatedBy = loaded.updatedBy then row.updatedBy else changed.updatedBy
    reason := if changed.reason = loaded.reason then row.reason else changed.reason }

/-- `flush`: nothing at all if nothing differs, else an `UPDATE` that must find the row. -/
def flushControl (loaded changed : AutomationControl) : Prog Unit :=
  if changed = loaded then pure ()
  else
    sql fun db =>
      let c := db.control
      match c.visible t with
      | none => some (.error databaseError, db)
      | some row =>
          if c.free t then
            some (.ok (), db.setControl
              (c.write t (some (AutomationControl.flushed (db.txTime t) loaded changed row))))
          else none

/-- `update_automation_controls`.  `held` is the record if the session has loaded it before: it
is not read again then. -/
def updateAutomationControls (held : Option AutomationControl) (mode : AutomationMode)
    (stopped : Option (List String)) (reason : String) : Prog AutomationControl := do
  let control ←
    match held with
    | some control => pure control
    | none => getAutomationControls t actor
  let now ← datetimeNow
  let changed : AutomationControl :=
    { mode := mode
      emergencyStoppedResources := stopped.getD control.emergencyStoppedResources
      reason := reason
      updatedBy := actor
      updatedAt := now }
  flushControl t control changed
  pure changed

end Repository

/-! ### Requests -/

inductive StopAction
  | stop
  | release
deriving DecidableEq, Repr

def StopAction.value : StopAction → String
  | .stop => "STOP"
  | .release => "RELEASE"

structure EmergencyStopRequest where
  resourceIdentifier : String
  action : StopAction
  reason : String
  identified : resourceIdentifier ≠ ""
  explained : reason ≠ ""

structure SetModeRequest where
  mode : AutomationMode
  reason : String
  explained : reason ≠ ""

/-- `sorted` of the set of what is stopped, with the request's resource added or discarded. -/
def EmergencyStopRequest.stops (body : EmergencyStopRequest) (current : List String) :
    List String :=
  match body.action with
  | .stop => (current.insert body.resourceIdentifier).dedup.insertionSort (· ≤ ·)
  | .release => (current.filter (· ≠ body.resourceIdentifier)).dedup.insertionSort (· ≤ ·)

/-- The acknowledgement of the request, once it has committed. -/
def EmergencyStopRequest.acked (p : Nat) (body : EmergencyStopRequest) (loaded : List String) :
    Event :=
  match body.action with
  | .stop => .stopAcked p body.resourceIdentifier loaded
  | .release => .releaseAcked p body.resourceIdentifier loaded

def manageEmergencyStop (p : Nat) (username : String) (body : EmergencyStopRequest) :
    Prog AutomationControl := do
  let actor := "user:" ++ username
  let (_, updated) ← unitOfWork ⟨p, 0⟩ actor
    (do
      let control ← getAutomationControls ⟨p, 0⟩ actor
      let updated ← updateAutomationControls ⟨p, 0⟩ actor (some control) control.mode
        (some (body.stops control.emergencyStoppedResources))
        s!"Emergency stop {body.action.value} for '{body.resourceIdentifier}': {body.reason}"
      pure (control, updated))
    (fun r => [body.acked p r.1.emergencyStoppedResources])
  pure updated

def updateAutomationMode (p : Nat) (username : String) (body : SetModeRequest) :
    Prog AutomationControl :=
  let actor := "user:" ++ username
  unitOfWork ⟨p, 0⟩ actor
    (updateAutomationControls ⟨p, 0⟩ actor none body.mode none body.reason)

def getAutomationStatus (p : Nat) : Prog AutomationControl :=
  unitOfWork ⟨p, 0⟩ "system:read" (getAutomationControls ⟨p, 0⟩ "system:read")

/-- The requests of operators. -/
inductive AutomationRequest
  | emergencyStop (username : String) (body : EmergencyStopRequest)
  | setMode (username : String) (body : SetModeRequest)
  | status

def AutomationRequest.prog (p : Nat) : AutomationRequest → Prog AutomationControl
  | .emergencyStop username body => manageEmergencyStop p username body
  | .setMode username body => updateAutomationMode p username body
  | .status => getAutomationStatus p

/-- Any number of requests, each in a session that has written nothing, while time passes. -/
def automationMachine (admits : Db → Db → Prop) : Machine World AutomationRequest Nat Db where
  prog := fun p request => do
    let _ ← (request.prog p).run
    pure ()
  ready := fun p _ db => (db.control.own ⟨p, 0⟩).isEmpty = true
  crash := Db.crash
  env := fun elapsed db => some { db with now := db.now + elapsed }
  admits := admits

instance (admits : Db → Db → Prop) (p : Nat) (request : AutomationRequest) (db : Db) :
    Decidable ((automationMachine admits).ready p request db) :=
  inferInstanceAs (Decidable ((db.control.own ⟨p, 0⟩).isEmpty = true))

instance (admits : Db → Db → Prop) [h : ∀ s s', Decidable (admits s s')] (s s' : Db) :
    Decidable ((automationMachine admits).admits s s') := h s s'

/-- The last acknowledgement about the resource was that of a stop. -/
def stopInForce (resource : String) : List Event → Bool
  | [] => false
  | .stopAcked _ r _ :: rest => if r = resource then true else stopInForce resource rest
  | .releaseAcked _ r _ :: rest => if r = resource then false else stopInForce resource rest
  | _ :: rest => stopInForce resource rest

/-- Every stop that is in force is in the list. -/
def StopsKept (db : Db) : Prop :=
  ∀ resource, stopInForce resource db.log = true → resource ∈ db.stops

end SelfHealing
