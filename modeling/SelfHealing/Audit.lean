/-
The audit trail.

Every change to a row of most tables fires a trigger, which adds an entry to the trail in the
transaction of the change: who made it, what the row was, and what it is.  An entry draws its number
when it is added and not when it is committed, so that the numbers of transactions that run side by
side are mixed, and those of one that is undone are lost.

Other triggers come before a change and guard plans, their steps and approvals.  A step can only be
touched with the row of its plan locked, so that nobody approves the plan meanwhile.

A row is the dictionary that `to_jsonb` makes of it.  What the constraints and the remaining checks
refuse is a parameter.  A statement that is refused changes nothing, and one that has to wait for a
row is made again when the row is free.
-/
import SelfHealing.Lib.ChangeLog
import SelfHealing.Lib.ReadCommitted
import SelfHealing.Timeline
import SelfHealing.Triggers

namespace SelfHealing

open Canonical ChangeLog ReadCommitted

/-! ### Rows -/

/-- The tables with a trigger that records their changes. -/
inductive AuditedTable
  | resources
  | users
  | events
  | incidents
  | incidentEvents
  | evidenceItems
  | diagnoses
  | remediationPlans
  | remediationSteps
  | executions
  | verificationResults
  | policies
  | approvals
  | resourceLocks
  | modelInvocations
  | anomalyScores
  | demoCommands
  | dryRuns
  | automationControls
deriving DecidableEq, Repr

/-- `TG_TABLE_NAME`. -/
def AuditedTable.name : AuditedTable → String
  | .resources => "resources"
  | .users => "users"
  | .events => "events"
  | .incidents => "incidents"
  | .incidentEvents => "incident_events"
  | .evidenceItems => "evidence_items"
  | .diagnoses => "diagnoses"
  | .remediationPlans => "remediation_plans"
  | .remediationSteps => "remediation_steps"
  | .executions => "executions"
  | .verificationResults => "verification_results"
  | .policies => "policies"
  | .approvals => "approvals"
  | .resourceLocks => "resource_locks"
  | .modelInvocations => "model_invocations"
  | .anomalyScores => "anomaly_scores"
  | .demoCommands => "demo_commands"
  | .dryRuns => "dry_runs"
  | .automationControls => "automation_controls"

/-- The columns of the primary key of the table with a name. -/
def keyColumns (tableName : String) : List String :=
  if tableName = "incident_events" then ["incident_id", "event_id"]
  else if tableName = "resource_locks" then ["resource_id"]
  else ["id"]

namespace DataDict

/-- `row ->> column`, of a column with an identifier. -/
def identifier (row : DataDict) (column : String) : Option String :=
  (row.get? column).bind textOf

/-- `row - 'password_hash'`. -/
def withoutPassword (row : DataDict) : DataDict :=
  row.filter fun entry => decide (entry.1 ≠ "password_hash")

/-- `UPDATE ... SET`. -/
def assign (row assigned : DataDict) : DataDict :=
  row.map fun entry => (entry.1, assigned.getOr entry.1 entry.2)

/-- `approved`, of a plan. -/
def approved (plan : DataDict) : Bool := truthy (plan.getOr "approved" dataNull)

/-- The primary key of a row, if none of its columns is null. -/
def keyIn (tableName : String) (row : DataDict) : Option (List String) :=
  (keyColumns tableName).mapM row.identifier

end DataDict

/-- The rows that a transaction sees. -/
abbrev RowView := AuditedTable → List String → Option DataDict

/-- What a statement does to a row, with `OLD` and `NEW`. -/
inductive RowChange
  | insert (new : DataDict)
  | update (old new : DataDict)
  | delete (old : DataDict)

namespace RowChange

/-- `TG_OP`. -/
def operation : RowChange → String
  | insert _ => "INSERT"
  | update _ _ => "UPDATE"
  | delete _ => "DELETE"

def old : RowChange → Option DataDict
  | insert _ => none
  | update old _ | delete old => some old

def new : RowChange → Option DataDict
  | insert new | update _ new => some new
  | delete _ => none

/-- `entry`: the row as it is, or as it was if it is no more. -/
def row : RowChange → DataDict
  | insert new | update _ new => new
  | delete old => old

end RowChange

/-! ### The triggers -/

/-- What the database draws for an entry: its identifier and its time, and how many numbers have
been lost by inserts that failed. -/
structure Drawn where
  id : String
  createdAt : String
  lost : Nat := 0

/-- `incident`, which a row names itself or by its plan or its execution. -/
def auditIncident (table : AuditedTable) (view : RowView) (entry : DataDict) : Option String :=
  match table with
  | .incidents => entry.identifier "id"
  | .remediationSteps | .approvals => do
      let planId ← entry.identifier "plan_id"
      let plan ← view .remediationPlans [planId]
      plan.identifier "incident_id"
  | .verificationResults => do
      let executionId ← entry.identifier "execution_id"
      let execution ← view .executions [executionId]
      execution.identifier "incident_id"
  | _ => entry.identifier "incident_id"

/-- `entity`. -/
def auditEntity (entry : DataDict) : Option String :=
  entry.identifier "id" <|> entry.identifier "event_id" <|> entry.identifier "resource_id"

/-- `length(trim(actor_name)) = 0`. -/
def blankActor (actor : String) : Bool := actor.toList.all fun c => decide (c = ' ')

/-- A snapshot of a row, or null. -/
def snapshotData (image : Option DataDict) : Data :=
  image.elim dataNull fun row => .map row.withoutPassword

/-- What the triggers that record changes have in common, after the row has been changed: the actor
is asked for, and an entry is inserted with what the columns of the trail ask for. -/
def insertAuditEntry (table : AuditedTable) (required : String) (incident entity : Option String)
    (view : RowView) (actor : Option String) (change : RowChange) (drawn : Drawn)
    (sequence : Nat) : Except Err AuditEntry :=
  let actorName := actor.getD ""
  if blankActor actorName = true then throw (raised required)
  else if 128 < actorName.length then
    throw (raised "value too long for type character varying(128)")
  else
    match entity with
    | none => throw (raised "null value in column entity_id violates not-null constraint")
    | some entity =>
        if incident.any fun id => (view .incidents [id]).isNone then
          throw (raised "insert or update on table audit_entries violates foreign key constraint")
        else
          pure
            { id := drawn.id
              createdAt := drawn.createdAt
              sequence := sequence
              incidentId := incident
              actor := actorName
              operation := change.operation
              entityType := table.name
              entityId := entity
              details :=
                [("before", snapshotData change.old), ("after", snapshotData change.new)] }

/-- `audit_record_change`. -/
def auditRecordChange (table : AuditedTable) (view : RowView) (actor : Option String)
    (change : RowChange) (drawn : Drawn) (sequence : Nat) : Except Err AuditEntry :=
  insertAuditEntry table "app.actor is required for mutations"
    (auditIncident table view change.row) (auditEntity change.row) view actor change drawn sequence

/-- `audit_automation_change`.  The row of `automation_controls` has a name and no identifier, and
there is no password in it. -/
def auditAutomationChange (view : RowView) (actor : Option String) (change : RowChange)
    (drawn : Drawn) (sequence : Nat) : Except Err AuditEntry :=
  insertAuditEntry .automationControls "app.actor is required for automation changes" none
    (some "00000000-0000-0000-0000-000000000001") view actor change drawn sequence

/-- `audit_change`, and `automation_audit`. -/
def auditChange (table : AuditedTable) (view : RowView) (actor : Option String)
    (change : RowChange) (drawn : Drawn) (sequence : Nat) : Except Err AuditEntry :=
  match table with
  | .automationControls => auditAutomationChange view actor change drawn sequence
  | _ => auditRecordChange table view actor change drawn sequence

/-! ### Transactions -/

/-- The tables and the trail, newest entry first; and for each open transaction the entries that it
has added and `app.actor`. -/
structure AuditedStore where
  cells : AuditedTable → List String → Cell Nat DataDict := fun _ _ => .empty
  trail : List AuditEntry := []
  unsaved : Nat → List AuditEntry := fun _ => []
  actor : Nat → Option String := fun _ => none
  nextSequence : Nat := 1

inductive AuditStatement
  /-- `set_config('app.actor', ..., true)`. -/
  | setActor (actor : String)
  /-- `SELECT ... FOR UPDATE`. -/
  | lockRow (table : AuditedTable) (key : List String)
  | insert (table : AuditedTable) (row : DataDict)
  | update (table : AuditedTable) (key : List String) (assigned : DataDict)
  | delete (table : AuditedTable) (key : List String)
  /-- Anything but a `SELECT` from `audit_entries`. -/
  | alterTrail
  | commit
  | rollback

/-- A statement of a transaction. -/
structure AuditStep where
  tx : Nat
  statement : AuditStatement
  drawn : Drawn

/-- What the constraints refuse, and the other triggers and checks. -/
abbrev Refusals := AuditedTable → RowView → RowChange → Bool

namespace AuditedStore

variable (refuses : Refusals) (a : AuditStep) (s : AuditedStore)

/-- The rows that a transaction sees. -/
def view (t : Nat) : RowView := fun table key => (s.cells table key).visible t

def setCell (table : AuditedTable) (key : List String) (c : Cell Nat DataDict) : AuditedStore :=
  { s with cells := Function.update s.cells table (Function.update (s.cells table) key c) }

/-- `guard_plan_step` for the plan of a step: reads it `FOR UPDATE`, if it is there.  Nothing, if it
has to wait for the plan or the plan is approved. -/
def lockPlan (t : Nat) (step : DataDict) : Option AuditedStore :=
  match step.identifier "plan_id" with
  | none => some s
  | some planId =>
      let cell := s.cells .remediationPlans [planId]
      match cell.visible t with
      | none => some s
      | some plan =>
          if cell.free t && !plan.approved then
            some (s.setCell .remediationPlans [planId] (cell.lock t))
          else none

/-- `guard_plan`, as far as it looks at the plan that there is. -/
def guardPlan (c : RowChange) : Option AuditedStore :=
  if c.old.any DataDict.approved then none else some s

/-- `guard_plan_step`. -/
def guardPlanStep (t : Nat) (c : RowChange) : Option AuditedStore :=
  (c.old.elim (some s) (s.lockPlan t)).bind fun s => c.new.elim (some s) (s.lockPlan t)

/-- `guard_approval_record`, as far as it looks at the approval that there is. -/
def guardApprovalRecord (c : RowChange) : Option AuditedStore :=
  if c.old.isSome then none else some s

/-- The triggers before a change.  Nothing, if one of them refuses the change or has to wait. -/
def beforeChange (t : Nat) (table : AuditedTable) (c : RowChange) : Option AuditedStore :=
  match table with
  | .remediationPlans => s.guardPlan c
  | .remediationSteps => s.guardPlanStep t c
  | .approvals => s.guardApprovalRecord c
  | _ => some s

/-- A row is changed, and the change recorded. -/
def change (table : AuditedTable) (key : List String) (c : RowChange) : AuditedStore :=
  match s.beforeChange a.tx table c with
  | none => s
  | some guarded =>
      let written := guarded.setCell table key ((guarded.cells table key).write a.tx c.new)
      let sequence := s.nextSequence + a.drawn.lost
      if refuses table (written.view a.tx) c then s
      else
        match auditChange table (written.view a.tx) (s.actor a.tx) c a.drawn sequence with
        | .error _ => s
        | .ok entry =>
            { written with
              unsaved := Function.update s.unsaved a.tx (entry :: s.unsaved a.tx)
              nextSequence := sequence + 1 }

/-- The end of a transaction, with what becomes of its rows and of its entries. -/
def finish (t : Nat) (settle : Cell Nat DataDict → Cell Nat DataDict) (saved : List AuditEntry) :
    AuditedStore :=
  { s with
    cells := fun table key => settle (s.cells table key)
    trail := saved ++ s.trail
    unsaved := Function.update s.unsaved t []
    actor := Function.update s.actor t none }

/-- A statement is made.  None that the program makes sets a column of a primary key, and its role
may not delete from `automation_controls`. -/
def execute : AuditedStore :=
  match a.statement with
  | .setActor actor => { s with actor := Function.update s.actor a.tx (some actor) }
  | .lockRow table key =>
      let cell := s.cells table key
      if (cell.visible a.tx).isSome && cell.free a.tx then
        s.setCell table key (cell.lock a.tx)
      else s
  | .insert table row =>
      match row.keyIn table.name with
      | none => s
      | some key =>
          let cell := s.cells table key
          if cell.free a.tx && (cell.visible a.tx).isNone then
            s.change refuses a table key (.insert row)
          else s
  | .update table key assigned =>
      let cell := s.cells table key
      match cell.visible a.tx with
      | none => s
      | some old =>
          if cell.free a.tx && (keyColumns table.name).all fun c => (assigned.get? c).isNone then
            s.change refuses a table key (.update old (old.assign assigned))
          else s
  | .delete table key =>
      let cell := s.cells table key
      match cell.visible a.tx with
      | none => s
      | some old =>
          if cell.free a.tx && decide (table ≠ .automationControls) then
            s.change refuses a table key (.delete old)
          else s
  | .alterTrail => s
  | .commit => s.finish a.tx (Cell.commit a.tx) (s.unsaved a.tx)
  | .rollback => s.finish a.tx (Cell.rollback a.tx) []

/-- The statements, one after the other, of any number of transactions. -/
def runs (steps : List AuditStep) : AuditedStore :=
  steps.foldl (fun s a => s.execute refuses a) s

end AuditedStore

/-! ### Reading the trail -/

namespace AuditEntry

variable (entry : AuditEntry)

/-- One of the two snapshots of an entry. -/
def image (name : String) : Option DataDict := (entry.details.get? name).bind dictOf

/-- The change that an entry tells of, read from the entry alone. -/
def change : Change (String × Option (List String)) DataDict where
  key := (entry.entityType,
    (entry.image "after" <|> entry.image "before").bind (DataDict.keyIn entry.entityType))
  before := entry.image "before"
  after := entry.image "after"

end AuditEntry

/-- The trail as `reconstruct` and the console read it, in the order of its numbers. -/
def AuditedStore.readTrail (s : AuditedStore) : List AuditEntry :=
  inOrder AuditEntry.sequence s.trail

end SelfHealing
