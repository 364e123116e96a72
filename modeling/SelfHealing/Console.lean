/-
The demo controls of the console.

An operator's command is registered first, in a transaction that holds an advisory lock, so that
registrations come one after the other in whatever process they are made.  Then it is sent to the
fault injector, outside any transaction and for as long as that takes, and what came of it is
written to the command in a transaction that holds no such lock.
-/
import SelfHealing.Database

namespace SelfHealing

open Interleaving ReadCommitted

/-- The command that everybody sees. -/
def Db.command (db : Db) (i : Nat) : Option DemoCommand := (db.commands i).committed

/-- The command as an operator sends it. -/
structure FaultCommand where
  scenarioId : DemoScenario
  action : FaultAction
  idempotencyKey : Nat
deriving DecidableEq, Repr

/-- Whether local demo controls are enabled, and the environment is another than production. -/
structure DemoSettings where
  demoControlsEnabled : Bool
  production : Bool
deriving DecidableEq, Repr

section Statements

variable (t : TxId)

/-- `SELECT pg_advisory_xact_lock(714108)`. -/
def lockCommands : Prog Unit :=
  sql fun db =>
    if db.advisory = none ∨ db.advisory = some t then
      some (.ok (), { db with advisory := some t })
    else none

/-- The commands in sight that pass a test. -/
def Db.commandsWhere (db : Db) (test : DemoCommand → Bool) : List DemoCommand :=
  (db.commandIds.filterMap fun i => (db.commands i).visible t).filter test

/-- The first of them. -/
def selectCommand (test : DemoCommand → Bool) : Prog (Option DemoCommand) :=
  select fun db => (db.commandsWhere t test).head?

def DemoCommand.isPending (command : DemoCommand) : Bool := decide (command.status = .pending)

/-- Uncertain, and not reconciled. -/
def DemoCommand.unreconciled (command : DemoCommand) : Bool :=
  decide (command.status = .uncertain) && decide (command.reconciledBy = none)

/-- A row whose key somebody else is writing just now. -/
def DemoCommand.contended (key : Nat) (c : Cell TxId DemoCommand) : Bool :=
  !c.free t && (c.pending.any fun q =>
    q.values.any fun v => v.any fun command => decide (command.idempotencyKey = key))

/-- `INSERT INTO demo_commands`: waits for those who write a row of the same key, and is refused if
there is one. -/
def insertCommand (command : DemoCommand) : Prog Unit :=
  sql fun db =>
    let c := db.commands command.id
    let key := command.idempotencyKey
    if !c.free t || db.commandIds.any (fun j => DemoCommand.contended t key (db.commands j)) then
      none
    else if (c.visible t).isSome ||
        (db.commandsWhere t fun row => decide (row.idempotencyKey = key)) ≠ [] then
      some (.error integrityError, db)
    else
      some (.ok (), { db.setCommand command.id (c.write t (some command)) with
        commandIds := command.id :: db.commandIds })

/-- An `UPDATE` sets the columns that differ from what was loaded. -/
def DemoCommand.flushed (loaded changed row : DemoCommand) : DemoCommand :=
  { row with
    status := if changed.status = loaded.status then row.status else changed.status
    result := if changed.result = loaded.result then row.result else changed.result }

/-- `flush`: nothing at all if nothing differs, else an `UPDATE` that must find the row. -/
def flushCommand (loaded changed : DemoCommand) (seen : List Event := []) : Prog Unit :=
  if changed = loaded then pure ()
  else
    sql fun db =>
      let c := db.commands loaded.id
      match c.visible t with
      | none => some (.error databaseError, db)
      | some row =>
          if c.free t then
            some (.ok (), (db.setCommand loaded.id
              (c.write t (some (DemoCommand.flushed loaded changed row)))).record seen)
          else none

end Statements

/-! ### Registration -/

/-- A command that is there already, or one that is to be sent. -/
inductive Registration
  | existing (command : DemoCommand)
  | registered (commandId : Nat)
deriving DecidableEq, Repr

section Registration

variable (t : TxId) (actor : String) (body : FaultCommand)

/-- A key that was used for something else. -/
def checkExisting (existing : DemoCommand) : Except Err Registration :=
  if (existing.actor, existing.scenarioId, existing.action) ≠ (actor, body.scenarioId, body.action)
  then throw ⟨.httpException 409, "Idempotency key belongs to a different command"⟩
  else pure (.existing existing)

/-- A pending command stands in the way of all but a clear of its scenario, after 30 seconds. -/
def checkPending (now : Int) (pending : DemoCommand) : Except Err Unit :=
  if body.action ≠ .clear ∨ now - pending.createdAt < seconds 30 ∨
      body.scenarioId ≠ pending.scenarioId then
    throw ⟨.httpException 409,
      "A fault command is pending; after 30 seconds clear the same scenario to reconcile it"⟩
  else pure ()

def checkUncertain (uncertain : Option DemoCommand) : Except Err Unit :=
  match uncertain with
  | none => pure ()
  | some command =>
      let scenario := command.scenarioId.value
      throw ⟨.httpException 409,
        s!"Clear {scenario} to reconcile its uncertain command before injecting again"⟩

/-- `faults`, as far as a registration reads it. -/
def checkFaults : FaultsAnswer → Except Err Unit
  | .unavailable => throw ⟨.httpException 503, "Fault injector unavailable"⟩
  | .active [] => pure ()
  | .active _ =>
      throw ⟨.httpException 409, "Clear the existing fault before starting another scenario"⟩

/-- What has to be so for a fault to be injected: nothing uncertain is left, and no fault is
active. -/
def admitInject : Prog Unit := do
  let uncertain ← selectCommand t DemoCommand.unreconciled
  check (checkUncertain uncertain)
  Interleaving.Prog.stmt fun w db => some (checkFaults w.faults, db)

def addCommand : Prog Registration := do
  let id ← uuid4 t.pid
  let now ← select fun db => db.txTime t
  insertCommand t
    { id := id, idempotencyKey := body.idempotencyKey, scenarioId := body.scenarioId,
      action := body.action, actor := actor, status := .pending, result := [], createdAt := now }
  pure (.registered id)

/-- The first transaction of a command.  A stale pending command is demoted when the session is
flushed, before the new row is added. -/
def registerCommand : Prog Registration := do
  lockCommands t
  let existing ← selectCommand t fun row => decide (row.idempotencyKey = body.idempotencyKey)
  match existing with
  | some existing => check (checkExisting actor body existing)
  | none =>
      let pending ← selectCommand t DemoCommand.isPending
      match pending with
      | some pending =>
          let now ← datetimeNow
          check (checkPending body now pending)
          flushCommand t pending { pending with status := .uncertain }
          addCommand t actor body
      | none =>
          if body.action = .inject then admitInject t
          addCommand t actor body

end Registration

/-! ### The call, and what comes of it -/

/-- What the client makes of the answer: the result and the status to be stored. -/
def CommandAnswer.outcome : CommandAnswer → Except Err (JsonObject × DemoStatus)
  | .succeeded payload => pure (payload, .succeeded)
  | .failed =>
      pure ([("message", JsonObject.text ("Command outcome is uncertain. Inspect the fault state " ++
        "before issuing another command."))], .uncertain)
  | .raised e => throw e

/-- The `POST` to the fault injector, which may take any time to be answered. -/
def postCommand (p commandId key : Nat) : Prog (JsonObject × DemoStatus) := do
  observe [.posted p commandId key]
  Interleaving.Prog.stmt fun w db => some (w.command.outcome, db)

/-- Every uncertain command of the scenario records who has reconciled it. -/
def reconcileCommands (t : TxId) (commandId : Nat) : List DemoCommand → Prog Unit
  | [] => pure ()
  | prior :: rest => do
      let value := JsonObject.text (toString commandId)
      flushCommand t prior
        { prior with result := JsonObject.set "reconciled_by" value prior.result }
      reconcileCommands t commandId rest

/-- The second transaction of a command. -/
def finalizeCommand (t : TxId) (body : FaultCommand) (commandId : Nat) (payload : JsonObject)
    (status : DemoStatus) : Prog DemoCommand := do
  let found ← select fun db => (db.commands commandId).visible t
  match found with
  | none => throw ⟨.attributeError, "'NoneType' object has no attribute 'result'"⟩
  | some item =>
      let changed := { item with result := payload, status := status }
      flushCommand t item changed [.answered t.pid item.id]
      if body.action = .clear ∧ status = .succeeded then
        let uncertain ← select fun db => db.commandsWhere t fun row =>
          decide (row.scenarioId = body.scenarioId) && decide (row.status = .uncertain)
        reconcileCommands t commandId uncertain
      pure changed

/-- `command`, the endpoint. -/
def demoCommand (p : Nat) (settings : DemoSettings) (username : String) (body : FaultCommand) :
    Prog DemoCommand := do
  if !settings.demoControlsEnabled || settings.production then
    throw ⟨.httpException 403, "Local demo controls are disabled"⟩
  let actor := s!"user:{username}"
  let registration ← unitOfWork ⟨p, 0⟩ actor (registerCommand ⟨p, 0⟩ actor body)
    (fun registration =>
      match registration with
      | .existing _ => []
      | .registered id => [.registered p id body.idempotencyKey body.action])
  match registration with
  | .existing command => pure command
  | .registered id =>
      let outcome ← postCommand p id body.idempotencyKey
      unitOfWork ⟨p, 0⟩ actor (finalizeCommand ⟨p, 0⟩ body id outcome.1 outcome.2)

/-- A call of the endpoint. -/
structure DemoRequest where
  settings : DemoSettings
  username : String
  body : FaultCommand
deriving DecidableEq, Repr

/-- Any number of API processes, each call under a number of its own, and the clock. -/
def consoleMachine (admits : Db → Db → Prop) : Machine World DemoRequest Nat Db where
  prog := fun p request => do
    let _ ← (demoCommand p request.settings request.username request.body).run
    pure ()
  ready := fun p _ db => db.unseen p
  crash := Db.crash
  env := fun elapsed db => some { db with now := db.now + elapsed }
  admits := admits

instance (admits : Db → Db → Prop) (p : Nat) (request : DemoRequest) (db : Db) :
    Decidable ((consoleMachine admits).ready p request db) :=
  inferInstanceAs (Decidable (db.unseen p))

instance (admits : Db → Db → Prop) [h : ∀ s s', Decidable (admits s s')] (s s' : Db) :
    Decidable ((consoleMachine admits).admits s s') := h s s'

end SelfHealing
