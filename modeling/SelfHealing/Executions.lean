/-
Execution records.

There is one record for each idempotency key.  It is inserted once, whoever comes
first, and then moves from `PENDING` to `RUNNING` to an end, each time by a write
that names the version it was decided on.  The table is modelled by its unique key;
callers that know a record by its id know its key as well.
-/
import SelfHealing.Database

namespace SelfHealing

open Interleaving ReadCommitted

/-- The transitions that `finish_execution` allows. -/
def ExecutionStatus.allowed : ExecutionStatus → List ExecutionStatus
  | .pending => [.running]
  | .running => [.succeeded, .failed]
  | .failed => [.rolledback]
  | .succeeded | .rolledback => []

/-- The record belongs to this incident, step, resource and container. -/
def Execution.belongsTo (execution : Execution) (incidentId stepId resourceId : Nat)
    (containerId : Option String) : Bool :=
  decide (execution.incidentId = incidentId) && decide (execution.stepId = stepId) &&
  decide (execution.resourceId = resourceId) &&
  match containerId, execution.containerId with
  | some expected, some actual => decide (actual = expected)
  | _, _ => true

/-- The columns that `finish_execution` sets. -/
def Execution.finished (now : Int) (expectedVersion : Nat) (status : ExecutionStatus)
    (result : ExecutionResult) (uncertaintyReason : Option String) (row : Execution) : Execution :=
  { row with
    status := status
    result := result
    version := expectedVersion + 1
    uncertaintyReason :=
      match uncertaintyReason with
      | some reason => some reason
      | none => row.uncertaintyReason
    startedAt := if status = .running then some now else row.startedAt
    finishedAt := if status = .running then row.finishedAt else some now }

section Repository

variable (t : TxId) (actor : String)

def foreignKeyError : Err :=
  ⟨.conflictError, "Idempotency key already belongs to a different execution"⟩

/-- `INSERT ... ON CONFLICT DO NOTHING RETURNING`: waits for a concurrent insert of the same
key. -/
def insertExecution (key : String) (execution : Execution) : Prog (Option Execution) :=
  sql fun db =>
    let c := db.executions key
    if c.free t then
      match c.visible t with
      | some _ => some (.ok none, db)
      | none => some (.ok (some execution), db.setExecution key (c.write t (some execution)))
    else none

def getExecution (key : String) : Prog (Option Execution) :=
  select fun db => (db.executions key).visible t

def recordExecution (intent : ExecutionIntent) (lockToken : Option Nat) : Prog Execution := do
  let step ← select fun db => db.steps.find? (fun step => step.id = intent.stepId)
  let plan ← select fun db =>
    step.bind fun step => db.plans.find? (fun plan => plan.id = step.planId)
  match step, plan with
  | some step, some plan =>
      if plan.incidentId ≠ intent.incidentId ∨ step.resourceId ≠ intent.resourceId then
        throw ⟨.valueError, "Execution does not match its plan, incident and resource"⟩
      let id ← uuid4 t.pid
      let inserted ← insertExecution t intent.idempotencyKey
        { id := id, incidentId := intent.incidentId, planId := some intent.planId,
          stepId := intent.stepId, resourceId := intent.resourceId,
          attemptNumber := intent.attemptNumber, containerId := some intent.containerId,
          bindingGeneration := some intent.bindingGeneration, lockToken := lockToken,
          actor := actor, preState := intent.preState, status := .pending, version := 1,
          result := .empty, uncertaintyReason := none, startedAt := none, finishedAt := none }
      let found ←
        match inserted with
        | some execution => pure (some execution)
        | none => getExecution t intent.idempotencyKey
      match found with
      | none =>
          throw ⟨.runtimeError, s!"Execution with idempotency key '{intent.idempotencyKey}' " ++
            "conflicted on insert but could not be located in the database."⟩
      | some execution =>
          if execution.belongsTo intent.incidentId intent.stepId intent.resourceId
              (some intent.containerId) then
            pure execution
          else throw foreignKeyError
  | _, _ => throw ⟨.valueError, "Execution does not match its plan, incident and resource"⟩

/-- The record with this id. -/
def Execution.withId (id : Nat) (row : Option Execution) : Option Execution :=
  row.filter (fun row => row.id = id)

/-- What `finish_execution` checks of the row that it has read. -/
def Execution.admitsFinish (expectedVersion : Nat) (status : ExecutionStatus)
    (row : Option Execution) : Except Err Unit :=
  match row with
  | none => throw ⟨.conflictError, "Missing execution or stale version"⟩
  | some execution =>
      if execution.version ≠ expectedVersion then
        throw ⟨.conflictError, "Missing execution or stale version"⟩
      else if status ∉ execution.status.allowed then
        throw ⟨.valueError, "Illegal execution transition"⟩
      else pure ()

def finishExecution (key : String) (id expectedVersion : Nat) (status : ExecutionStatus)
    (result : ExecutionResult) (uncertaintyReason : Option String := none) : Prog Execution := do
  let found ← select fun db => Execution.withId id ((db.executions key).visible t)
  check (Execution.admitsFinish expectedVersion status found)
  let updated ← sql fun db =>
    let c := db.executions key
    match (Execution.withId id (c.visible t)).filter (fun row => row.version = expectedVersion) with
    | none => some (.ok none, db)
    | some row =>
        let row := row.finished (db.txTime t) expectedVersion status result uncertaintyReason
        if c.free t then some (.ok (some row), db.setExecution key (c.write t (some row)))
        else none
  match updated with
  | some execution => pure execution
  | none => throw ⟨.conflictError, "Concurrent execution transition"⟩

end Repository

/-! ### Callers -/

/-- The calls that write execution records. -/
inductive ExecutionCall
  | record (intent : ExecutionIntent) (lockToken : Option Nat)
  | finish (key : String) (id expectedVersion : Nat) (status : ExecutionStatus)
      (result : ExecutionResult) (uncertaintyReason : Option String)

/-- The program of a call, made in transaction `t`. -/
def ExecutionCall.prog (t : TxId) (actor : String) : ExecutionCall → Prog Execution
  | .record intent lockToken => recordExecution t actor intent lockToken
  | .finish key id expectedVersion status result uncertaintyReason =>
      finishExecution t key id expectedVersion status result uncertaintyReason

/-- A block in one transaction: its calls, and whether their exceptions are caught; in the end
it may raise on its own account. -/
structure ExecutionTx where
  actor : String
  calls : List (ExecutionCall × Bool)
  raises : Option Err

/-- The calls, one after the other. -/
def runExecutionCalls (t : TxId) (actor : String) : List (ExecutionCall × Bool) → Prog Unit
  | [] => pure ()
  | (call, caught) :: rest => do
      tryCatch
        (do
          let _ ← call.prog t actor
          pure ())
        (fun e => if caught then pure () else throw e)
      runExecutionCalls t actor rest

def ExecutionTx.prog (p : Nat) (tx : ExecutionTx) : Prog Unit :=
  unitOfWork ⟨p, 0⟩ tx.actor do
    runExecutionCalls ⟨p, 0⟩ tx.actor tx.calls
    match tx.raises with
    | some e => throw e
    | none => pure ()

/-- Time passes, or somebody commits a plan. -/
inductive ExecutionEnv
  | elapse (elapsed : Int)
  | planned (plan : RemediationPlan) (steps : List RemediationStep)

/-- Any number of callers, while time passes and plans are made. -/
def executionMachine : Machine World ExecutionTx ExecutionEnv Db where
  prog := fun p tx => do
    let _ ← (tx.prog p).run
    pure ()
  ready := fun _ _ _ => True
  crash := Db.crash
  env := fun e db =>
    match e with
    | .elapse elapsed => some { db with now := db.now + elapsed }
    | .planned plan steps =>
        some { db with plans := plan :: db.plans, steps := steps ++ db.steps }
  admits := fun _ _ => True

end SelfHealing
