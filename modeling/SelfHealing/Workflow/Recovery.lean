/-
The recovery service, and the workers of the system.

A sweep resumes the workflows whose time has come, deletes leases that have lapsed, and picks up
incidents that nobody has in hand.  Whatever a resumed workflow raises is logged, and the sweep
goes on.  Workers run the workflow of an incident when a message about it comes in.
-/
import SelfHealing.Workflow.Runner

namespace SelfHealing

open Interleaving ReadCommitted

section Recovery

variable (p : Nat) (workerId : String)

/-- Claim the schedules one after the other, and run the incidents of those that were claimed. -/
def resumeSchedules : List WorkflowSchedule → Prog Nat
  | [] => pure 0
  | schedule :: rest => do
      let claimed ← claimDueSchedule ⟨p, 0⟩ "worker:recovery" schedule
      let dispatched ←
        if claimed then
          tryCatch
            (do
              let _ ← runIncident p workerId schedule.incidentId (defaultServices p workerId)
                (some schedule.incidentVersion) schedule.resumeMetadata
              observe [.completed p schedule.id schedule.incidentId]
              pure 1)
            (fun _ => do
              observe [.abandoned p schedule.id schedule.incidentId]
              pure 0)
        else pure 0
      let more ← resumeSchedules rest
      pure (dispatched + more)

def recoverDueSchedules : Prog Nat := do
  let due ← fetchDueSchedules ⟨p, 0⟩ "worker:recovery" 25
  resumeSchedules p workerId due

def cleanupExpiredLeases : Prog Unit :=
  unitOfWork ⟨p, 0⟩ "worker:recovery" do
    let ids ← select fun db => db.incidentIds
    cleanupRows p ids

/-- The states of the incidents that are picked up. -/
def IncidentState.unprocessed : IncidentState → Bool
  | .detected | .triaged | .diagnosed | .planned | .approved | .executing | .verifying => true
  | _ => false

/-- Nobody has the incident in hand: no lease, no wake-up to come, and no change for a while. -/
def Db.stuck (t : TxId) (db : Db) (i : Nat) (incident : Incident) : Bool :=
  incident.state.unprocessed && ((db.leases i).visible t).isNone &&
    !(db.scheduleIds.any fun w => ((db.schedules w).visible t).any fun row =>
      row.incidentId = i ∧ row.status = .pending ∧ db.txTime t < row.nextRunAt) &&
    decide (incident.updatedAt ≤ db.txTime t - seconds 10)

/-- The incidents that are stuck, the oldest first, and at most ten of them. -/
def fetchStuckIncidents (t : TxId) : Prog (List (Nat × Incident)) :=
  select fun db =>
    (db.incidentIds.reverse.filterMap fun i =>
      (((db.incidents i).visible t).filter (db.stuck t i)).map fun row => (i, row)).take 10

/-- Run the incidents, one after the other. -/
def runStuck : List (Nat × Incident) → Prog Nat
  | [] => pure 0
  | (i, incident) :: rest => do
      let dispatched ← tryCatch
        (do
          let _ ← runIncident p workerId i (defaultServices p workerId) (some incident.version) {}
          pure 1)
        (fun _ => pure 0)
      let more ← runStuck rest
      pure (dispatched + more)

def recoverUnprocessedIncidents : Prog Nat := do
  let stuck ← unitOfWork ⟨p, 0⟩ "worker:recovery" (fetchStuckIncidents ⟨p, 0⟩)
  runStuck p workerId stuck

/-- One round of the loop; what it raises is logged. -/
def recoveryRound : Prog Unit :=
  tryCatch
    (do
      let _ ← recoverDueSchedules p workerId
      cleanupExpiredLeases p
      let _ ← recoverUnprocessedIncidents p workerId
      pure ())
    (fun _ => pure ())

end Recovery

/-! ### The system -/

/-- What a process of the system does: the rounds of a recovery service, one after the other, or
a run for a message. -/
inductive WorkerTask
  | recovery (workerId : String)
  | message (workerId : String) (incidentId : Nat) (expectedVersion : Option Nat)

def WorkerTask.prog (p : Nat) : WorkerTask → Prog Unit
  | .recovery workerId => recoveryRound p workerId
  | .message workerId incidentId expectedVersion => do
      let _ ← runIncident p workerId incidentId (defaultServices p workerId) expectedVersion {}
      pure ()

/-- The decision of an operator: the approval is stored, and the incident moved on. -/
def Db.decide (i : Nat) (approval : Approval) (db : Db) : Option Db :=
  match (db.incidents i).committed with
  | none => none
  | some inc =>
      if (db.incidents i).pending.isNone ∧ inc.state = .pendingApproval ∧
          (db.plans.any fun plan => plan.id = approval.planId ∧ plan.incidentId = i) then
        let target : IncidentState :=
          if approval.decision = .approve then .approved else .escalated
        let row := inc.transitioned db.now inc.version target inc
        some
          { db.setIncident i (((db.incidents i).write ⟨0, 0⟩ (some row)).commit ⟨0, 0⟩) with
            approvals := approval :: db.approvals }
      else none

/-- What happens beside the workers: time passes, operators set the controls and decide on plans,
incidents come in, and resources are bound to other containers. -/
inductive WorkerEnv
  | tick (elapsed : Nat)
  | control (c : Cell TxId AutomationControl)
  | decided (incidentId : Nat) (approval : Approval)
  | opened (incident : Incident)
  | bound (resource : Resource)

def WorkerEnv.apply : WorkerEnv → Db → Option Db
  | .tick elapsed, db => some { db with now := db.now + elapsed }
  | .control c, db => some (db.setControl c)
  | .decided i approval, db => db.decide i approval
  | .opened incident, db =>
      if (db.incidents db.nextId).versions = [] ∧ (db.incidents db.nextId).pending.isNone ∧
          incident.state = .detected then
        some { db.setIncident db.nextId (Cell.ofRow incident) with
          nextId := db.nextId + 1
          incidentIds := db.nextId :: db.incidentIds }
      else none
  | .bound resource, db =>
      some { db with resources := Function.update db.resources resource.id (some resource) }

/-- Any number of workers and recovery services, among the requests of operators. -/
def workerMachine (admits : Db → Db → Prop) : Machine World WorkerTask WorkerEnv Db where
  prog := fun p task => do
    let _ ← (task.prog p).run
    pure ()
  ready := fun _ _ _ => True
  crash := Db.crash
  env := WorkerEnv.apply
  admits := admits

instance (admits : Db → Db → Prop) (p : Nat) (task : WorkerTask) (db : Db) :
    Decidable ((workerMachine admits).ready p task db) :=
  .isTrue trivial

instance (admits : Db → Db → Prop) [h : ∀ s s', Decidable (admits s s')] (s s' : Db) :
    Decidable ((workerMachine admits).admits s s') := h s s'

end SelfHealing
