/-
The database, and transactions on it.

Rows that several sessions write are cells of `Lib.ReadCommitted`: what is in them
is seen by the rules of READ COMMITTED, statement by statement.  Records that are
only ever added are lists, newest first, to which a transaction adds when it commits;
no session reads back what it has added and not committed.

A program is a tree of statements.  Between two of them any other session may run
its own; a statement may have to wait for a row lock, and the database may refuse
any statement, and any commit, with an error of its own.

`log` and `Event` belong to no table.  They record what an outside observer of the
system sees, in the order it happens, newest first, so that a property about the
order of events is a property of the state.
-/
import Mathlib.Logic.Function.Basic
import SelfHealing.Lib.Process
import SelfHealing.Lib.ReadCommitted
import SelfHealing.Records
import SelfHealing.Workflow.State

namespace SelfHealing

open Interleaving ReadCommitted

/-- A session of process `pid`; one that it opens inside another has a level of its own. -/
structure TxId where
  pid : Nat
  level : Nat := 0
deriving DecidableEq, Repr

/-- What an observer sees. -/
inductive Event
  /-- The body of a `hold` block begins, and ends. -/
  | entered (p : Nat) (incidentId : Nat) (worker : String)
  | left (p : Nat) (incidentId : Nat)
  /-- An emergency-stop request is acknowledged, having read the given list. -/
  | stopAcked (p : Nat) (resource : String) (loaded : List String)
  | releaseAcked (p : Nat) (resource : String) (loaded : List String)
  /-- `execute` begins; its lock transaction commits with a dispatch to follow; the Docker call
  is made, and is over; the transaction that ends the dispatch commits, or `execute` raises. -/
  | called (p : Nat) (intent : ExecutionIntent)
  | acquired (p : Nat) (intent : ExecutionIntent) (actor : String)
  | restartIssued (p : Nat) (intent : ExecutionIntent)
  | restartEnded (p : Nat) (intent : ExecutionIntent)
  | returned (p : Nat) (intent : ExecutionIntent)
  /-- A message about a new incident is appended to the stream. -/
  | published (p : Nat) (incident : Incident) (eventIds : List Nat)
  /-- A run of a workflow begins, having found these diagnoses and this evidence; evidence is
  collected in it; a diagnosis is made. -/
  | resumed (p : Nat) (incidentId : Nat) (diagnosisId : Option Nat) (evidenceIds : List Nat)
  | collected (p : Nat) (incidentId : Nat)
  | diagnosed (p : Nat) (incidentId : Nat) (isActionable : Bool)
  /-- A due schedule is claimed, with a run to follow; the run has returned, or has raised. -/
  | dispatched (p : Nat) (scheduleId : Nat) (incidentId : Nat)
  | completed (p : Nat) (scheduleId : Nat) (incidentId : Nat)
  | abandoned (p : Nat) (scheduleId : Nat) (incidentId : Nat)
  /-- A demo command is registered; it is sent to the fault injector; the answer is written to the
  command. -/
  | registered (p : Nat) (commandId key : Nat) (action : FaultAction)
  | posted (p : Nat) (commandId key : Nat)
  | answered (p : Nat) (commandId : Nat)
  /-- The process dies. -/
  | crashed (p : Nat)
deriving DecidableEq, Repr

/-- The process an event is about. -/
def Event.proc : Event → Nat
  | .entered p _ _ | .left p _ | .stopAcked p _ _ | .releaseAcked p _ _ | .called p _
  | .acquired p _ _ | .restartIssued p _ | .restartEnded p _ | .returned p _ | .published p _ _
  | .resumed p _ _ _ | .collected p _ | .diagnosed p _ _ | .dispatched p _ _ | .completed p _ _
  | .abandoned p _ _ | .registered p _ _ _ | .posted p _ _ | .answered p _ | .crashed p => p

/-- The attributes of a container, as far as they are read. -/
structure ContainerAttrs where
  id : String
  name : String := ""
  status : String := "unknown"
  created : Option String := none
  startedAt : Option String := none
  finishedAt : Option String := none
  exitCode : Option Int := none
  restartCount : Nat := 0
  image : Option String := none
  health : Option String := none
  labels : List (String × String) := []
deriving DecidableEq, Repr

/-- What passes between the adapter and Docker, and between the adapter and its callers. -/
inductive DockerEvent
  /-- A restart is about to be made, at this time by the clock of its process. -/
  | dispatched (p : Nat) (intent : ExecutionIntent) (time : Int)
  /-- The call for it has returned normally. -/
  | restarted (p : Nat) (intent : ExecutionIntent)
  /-- A container has been looked at.  If that is because a record has been found `RUNNING`, the
  key of the record is noted as well. -/
  | inspected (leftover : Option String) (containerId : String) (attrs : ContainerAttrs)
  /-- The caller of `execute` has the outcome. -/
  | told (p : Nat) (intent : ExecutionIntent) (outcome : ExecutionOutcome)
deriving DecidableEq, Repr

structure Db where
  now : Int
  /-- The next identifier to hand out, and the processes that drew the others. -/
  nextId : Nat
  drawnBy : Nat → Option Nat
  /-- The time of the first statement of each open transaction, which is its `now()`. -/
  txTime : TxId → Int
  incidentIds : List Nat
  incidents : Nat → Cell TxId Incident
  outbox : Nat → Cell TxId OutboxEvent
  events : EventKey → Cell TxId EventRecord
  leases : Nat → Cell TxId WorkflowLease
  locks : Nat → Cell TxId ResourceLock
  control : Cell TxId AutomationControl
  /-- Executions by idempotency key, which is unique. -/
  executions : String → Cell TxId Execution
  scheduleIds : List Nat
  schedules : Nat → Cell TxId WorkflowSchedule
  commandIds : List Nat
  commands : Nat → Cell TxId DemoCommand
  /-- Who holds the advisory lock of the demo commands, until its transaction ends. -/
  advisory : Option TxId
  resources : Nat → Option Resource
  diagnoses : List Diagnosis
  plans : List RemediationPlan
  steps : List RemediationStep
  decisions : List PolicyDecision
  approvals : List Approval
  escalations : List EscalationRecord
  links : List IncidentEvent
  /-- The evidence of each incident, to which nothing here adds. -/
  evidence : Nat → List Nat
  /-- What the open transactions have added, newest first. -/
  added : TxId → List NewRow
  /-- The dispatch locks of the adapter instances, by container: memory of the processes. -/
  dispatchLocks : Nat → String → Option Nat
  log : List Event
  /-- The same without the deaths of processes, each with its time. -/
  stamps : List (Event × Int)
  /-- What has been seen of Docker and of the outcomes, newest first. -/
  docker : List DockerEvent

namespace Db

/-- Nothing in any table. -/
def init (now : Int) : Db where
  now := now
  nextId := 0
  drawnBy := fun _ => none
  txTime := fun _ => now
  incidentIds := []
  incidents := fun _ => Cell.empty
  outbox := fun _ => Cell.empty
  events := fun _ => Cell.empty
  leases := fun _ => Cell.empty
  locks := fun _ => Cell.empty
  control := Cell.empty
  executions := fun _ => Cell.empty
  scheduleIds := []
  schedules := fun _ => Cell.empty
  commandIds := []
  commands := fun _ => Cell.empty
  advisory := none
  resources := fun _ => none
  diagnoses := []
  plans := []
  steps := []
  decisions := []
  approvals := []
  escalations := []
  links := []
  evidence := fun _ => []
  added := fun _ => []
  dispatchLocks := fun _ _ => none
  log := []
  stamps := []
  docker := []

/-- The first statement of transaction `t` fixes its `now()`. -/
def started (t : TxId) (db : Db) : Db :=
  { db with txTime := Function.update db.txTime t db.now }

/-- Record what an observer sees. -/
def record (evs : List Event) (db : Db) : Db :=
  { db with
    log := evs ++ db.log
    stamps := (evs.map fun e => (e, db.now)) ++ db.stamps }

/-- Note what is seen of Docker, or told about it. -/
def note (e : DockerEvent) (db : Db) : Db := { db with docker := e :: db.docker }

/-- End transaction `t`, keeping what it wrote. -/
def commit (t : TxId) (db : Db) : Db :=
  { db with
    incidents := fun i => (db.incidents i).commit t
    outbox := fun i => (db.outbox i).commit t
    events := fun k => (db.events k).commit t
    leases := fun i => (db.leases i).commit t
    locks := fun i => (db.locks i).commit t
    control := db.control.commit t
    executions := fun k => (db.executions k).commit t
    schedules := fun i => (db.schedules i).commit t
    commands := fun i => (db.commands i).commit t
    advisory := if db.advisory = some t then none else db.advisory
    resources := (db.added t).foldr (fun row resources => row.bind resources) db.resources
    diagnoses := (db.added t).filterMap NewRow.diagnosis? ++ db.diagnoses
    plans := (db.added t).filterMap NewRow.plan? ++ db.plans
    steps := (db.added t).filterMap NewRow.step? ++ db.steps
    decisions := (db.added t).filterMap NewRow.decision? ++ db.decisions
    approvals := (db.added t).filterMap NewRow.approval? ++ db.approvals
    escalations := (db.added t).filterMap NewRow.escalation? ++ db.escalations
    links := ((db.added t).filterMap NewRow.link?).foldr List.insert db.links
    added := Function.update db.added t [] }

/-- End transaction `t`, forgetting what it wrote. -/
def rollback (t : TxId) (db : Db) : Db :=
  { db with
    incidents := fun i => (db.incidents i).rollback t
    outbox := fun i => (db.outbox i).rollback t
    events := fun k => (db.events k).rollback t
    leases := fun i => (db.leases i).rollback t
    locks := fun i => (db.locks i).rollback t
    control := db.control.rollback t
    executions := fun k => (db.executions k).rollback t
    schedules := fun i => (db.schedules i).rollback t
    commands := fun i => (db.commands i).rollback t
    advisory := if db.advisory = some t then none else db.advisory
    added := Function.update db.added t [] }

/-- Hand out an identifier. -/
def draw (p : Nat) (db : Db) : Db :=
  { db with nextId := db.nextId + 1, drawnBy := Function.update db.drawnBy db.nextId (some p) }

/-- Add a row in transaction `t`. -/
def add (t : TxId) (row : NewRow) (db : Db) : Db :=
  { db with added := Function.update db.added t (row :: db.added t) }

/-- Write to one row. -/
def setIncident (i : Nat) (c : Cell TxId Incident) (db : Db) : Db :=
  { db with incidents := Function.update db.incidents i c }

def setOutbox (i : Nat) (c : Cell TxId OutboxEvent) (db : Db) : Db :=
  { db with outbox := Function.update db.outbox i c }

def setEvent (k : EventKey) (c : Cell TxId EventRecord) (db : Db) : Db :=
  { db with events := Function.update db.events k c }

def setLease (i : Nat) (c : Cell TxId WorkflowLease) (db : Db) : Db :=
  { db with leases := Function.update db.leases i c }

def setControl (c : Cell TxId AutomationControl) (db : Db) : Db := { db with control := c }

def setLock (i : Nat) (c : Cell TxId ResourceLock) (db : Db) : Db :=
  { db with locks := Function.update db.locks i c }

def setExecution (k : String) (c : Cell TxId Execution) (db : Db) : Db :=
  { db with executions := Function.update db.executions k c }

def setSchedule (i : Nat) (c : Cell TxId WorkflowSchedule) (db : Db) : Db :=
  { db with schedules := Function.update db.schedules i c }

def setCommand (i : Nat) (c : Cell TxId DemoCommand) (db : Db) : Db :=
  { db with commands := Function.update db.commands i c }

def setDispatchLock (a : Nat) (container : String) (p : Option Nat) (db : Db) : Db :=
  { db with dispatchLocks :=
      Function.update db.dispatchLocks a (Function.update (db.dispatchLocks a) container p) }

/-- The death of process `p`: the database ends its sessions, and its memory is gone. -/
def crash (p : Nat) (db : Db) : Db :=
  { (db.rollback ⟨p, 0⟩).rollback ⟨p, 1⟩ with
    dispatchLocks := fun a c => if db.dispatchLocks a c = some p then none else db.dispatchLocks a c
    log := .crashed p :: db.log }

/-- Process number `p` has not been seen before: every call is a process of its own number. -/
def unseen (p : Nat) (db : Db) : Prop := ∀ e ∈ db.log, e.proc ≠ p

instance (p : Nat) (db : Db) : Decidable (db.unseen p) :=
  inferInstanceAs (Decidable (∀ e ∈ db.log, e.proc ≠ p))

/-- Where a run of the system begins: any tables, and nothing under way. -/
structure Initial (db : Db) : Prop where
  log : db.log = []
  clock : ∀ t, db.txTime t ≤ db.now
  drawn : ∀ id q, db.drawnBy id = some q → id < db.nextId

end Db

/-! ### Statements -/

/-- What Docker answers: there is no client, or the client raises, or the answer. -/
inductive DockerAnswer (α : Type)
  | noClient
  | raised (text : String)
  | answered (a : α)

/-- What the outside world answers in one step. -/
structure World where
  /-- The database refuses the statement. -/
  fails : Bool := false
  inspect : DockerAnswer ContainerAttrs := .noClient
  restart : DockerAnswer Unit := .answered ()
  xadd : XaddAnswer := .added
  discover : Option DiscoveredContainer := none
  collect : ServiceAnswer (List Nat) := .answered []
  diagnose : ServiceAnswer DiagnosisAnswer := .raised .valueError "no diagnosis"
  validate : ValidatorAnswer := .valid ""
  verify : ServiceAnswer VerdictAnswer := .raised .valueError "no verdict"
  faults : FaultsAnswer := .active []
  command : CommandAnswer := .succeeded []
  /-- The state of the workflow that was saved last. -/
  checkpoint : Option IncidentGraphState := none

/-- A program of the system. -/
abbrev Prog (α : Type) := Interleaving.Prog World Db Err α

/-- The exception of a statement that the database refuses. -/
def databaseError : Err := ⟨.databaseError, "the database refused the statement"⟩

/-- The exception of a statement that breaks a constraint. -/
def integrityError : Err := ⟨.integrityError, "constraint violated"⟩

/-- One statement of SQL.  It waits, or gives a result, or is refused. -/
def sql {α : Type} (f : Db → Option (Except Err α × Db)) : Prog α :=
  Interleaving.Prog.stmt fun w db => if w.fails then some (.error databaseError, db) else f db

/-- A statement that only reads. -/
def select {α : Type} (f : Db → α) : Prog α := sql fun db => some (.ok (f db), db)

/-- What the interpreter computes between two statements. -/
def check {α : Type} (x : Except Err α) : Prog α := ExceptT.mk (Proc.ret x)

/-- `datetime.now(UTC)`. -/
def datetimeNow : Prog Int := Interleaving.Prog.stmt fun _ db => some (.ok db.now, db)

/-- `uuid4()`, drawn by process `p`. -/
def uuid4 (p : Nat) : Prog Nat :=
  Interleaving.Prog.stmt fun _ db => some (.ok db.nextId, db.draw p)

/-- What an observer sees outside any statement. -/
def observe (evs : List Event) : Prog Unit :=
  Interleaving.Prog.stmt fun _ db => some (.ok (), db.record evs)

/-- An actor that `unit_of_work` accepts. -/
def validActor (actor : String) : Bool :=
  actor.toList.any (fun c => !c.isWhitespace) && decide (actor.toList.length ≤ 128)

/-- The first statement of a transaction. -/
def beginTx (t : TxId) : Prog Unit := sql fun db => some (.ok (), db.started t)

/-- The end of a transaction; an observer sees `evs` if it succeeds. -/
def commitTx (t : TxId) (evs : List Event) : Prog Unit :=
  Interleaving.Prog.stmt fun w db =>
    if w.fails then some (.error databaseError, db.rollback t)
    else some (.ok (), (db.commit t).record evs)

def rollbackTx (t : TxId) : Prog Unit :=
  Interleaving.Prog.stmt fun _ db => some (.ok (), db.rollback t)

/-- A block in one transaction: committed when the block returns, undone when it raises. -/
def unitOfWork {α : Type} (t : TxId) (actor : String) (body : Prog α)
    (seen : α → List Event := fun _ => []) : Prog α :=
  if validActor actor then
    tryCatch
      (do
        beginTx t
        let a ← body
        commitTx t (seen a)
        pure a)
      (fun e => do
        rollbackTx t
        throw e)
  else
    throw ⟨.valueError, "A nonempty actor (at most 128 characters) is required"⟩

end SelfHealing
