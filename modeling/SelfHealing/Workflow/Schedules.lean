/-
Schedules.

A workflow that has to wait leaves a row that says when it is to be woken up.  Whoever finds
the row due claims it first, by an `UPDATE` that only one of those who try can make, and the row
is not looked at again.
-/
import Mathlib.Data.List.Sort
import SelfHealing.Incidents

namespace SelfHealing

open Interleaving ReadCommitted

/-- The schedule that everybody sees. -/
def Db.schedule (db : Db) (w : Nat) : Option WorkflowSchedule := (db.schedules w).committed

/-- The schedules of an incident that everybody sees. -/
def Db.schedulesOf (db : Db) (incidentId : Nat) : List WorkflowSchedule :=
  (db.scheduleIds.filterMap db.schedule).filter fun row => row.incidentId = incidentId

section Repository

variable (t : TxId)

/-- `INSERT INTO workflow_schedules`, for an incident that there is. -/
def insertSchedule (schedule : WorkflowSchedule) : Prog Unit :=
  sql fun db =>
    if ((db.incidents schedule.incidentId).visible t).isSome then
      some (.ok (), { db.setSchedule schedule.id
          ((db.schedules schedule.id).write t (some schedule)) with
        scheduleIds := schedule.id :: db.scheduleIds })
    else some (.error integrityError, db)

def createWorkflowSchedule (incidentId incidentVersion : Nat) (nextRunAt : Int)
    (waitReason : WaitReason) (resumeMetadata : ResumeMetadata) : Prog WorkflowSchedule := do
  let id ← uuid4 t.pid
  let schedule : WorkflowSchedule :=
    { id := id, incidentId := incidentId, incidentVersion := incidentVersion,
      nextRunAt := nextRunAt, waitReason := waitReason, resumeMetadata := resumeMetadata }
  insertSchedule t schedule
  pure schedule

/-- The schedule is waiting, and its time has come. -/
def WorkflowSchedule.due (now : Int) (schedule : WorkflowSchedule) : Bool :=
  decide (schedule.status = .pending) && decide (schedule.nextRunAt ≤ now)

def fetchDueWorkflowSchedules (limit : Nat) : Prog (List WorkflowSchedule) :=
  select fun db =>
    let rows := db.scheduleIds.reverse.filterMap fun w => (db.schedules w).visible t
    ((rows.filter (WorkflowSchedule.due (db.txTime t))).insertionSort
      fun a b => a.nextRunAt ≤ b.nextRunAt).take limit

/-- `UPDATE ... WHERE status = 'PENDING' RETURNING`: whether the row was written. -/
def markScheduleProcessedAtomic (scheduleId : Nat) : Prog Bool :=
  sql fun db =>
    let c := db.schedules scheduleId
    match (c.visible t).filter fun row => row.status = .pending with
    | some row =>
        if c.free t then
          some (.ok true, db.setSchedule scheduleId (c.write t (some { row with status := .processed })))
        else none
    | none => some (.ok false, db)

end Repository

/-! ### The scheduler -/

/-- `schedule_wakeup`, in a transaction of its own. -/
def scheduleWakeup (t : TxId) (actor : String) (incidentId version : Nat) (delaySeconds : Int)
    (waitReason : WaitReason) (resumeMetadata : ResumeMetadata) : Prog WorkflowSchedule := do
  let now ← datetimeNow
  unitOfWork t actor
    (createWorkflowSchedule t incidentId version (now + seconds delaySeconds) waitReason
      resumeMetadata)

/-- `schedule_retry_cooldown`. -/
def scheduleRetryCooldown (t : TxId) (actor : String) (incidentId version : Nat)
    (cooldownSeconds : Int) : Prog WorkflowSchedule := do
  let now ← datetimeNow
  scheduleWakeup t actor incidentId version cooldownSeconds .cooldown
    { nextEligibleAt := some (now + seconds cooldownSeconds) }

def fetchDueSchedules (t : TxId) (actor : String) (limit : Nat) : Prog (List WorkflowSchedule) :=
  unitOfWork t actor (fetchDueWorkflowSchedules t limit)

/-- `claim_due_schedule`; an observer sees that a run is to follow. -/
def claimDueSchedule (t : TxId) (actor : String) (schedule : WorkflowSchedule) : Prog Bool :=
  unitOfWork t actor (markScheduleProcessedAtomic t schedule.id)
    (fun claimed => if claimed then [.dispatched t.pid schedule.id schedule.incidentId] else [])

end SelfHealing
