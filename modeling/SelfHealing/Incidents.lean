/-
Incidents.

An incident is a row that only moves along `transitions`.  Every write names the
version it was decided on, and is refused if the row has moved since; that is how
callers that know nothing of each other share it.  A transaction is any sequence of
calls, each of which may raise, and the block goes on after those that its caller
catches.
-/
import SelfHealing.Database

namespace SelfHealing

open Interleaving ReadCommitted

/-! ### The state machine -/

/-- `TRANSITIONS`. -/
def IncidentState.transitions : IncidentState → List IncidentState
  | .detected => [.triaged]
  | .triaged => [.diagnosed, .escalated]
  | .diagnosed => [.planned, .escalated]
  | .planned => [.pendingApproval, .executing, .escalated]
  | .pendingApproval => [.approved, .escalated]
  | .approved => [.executing, .escalated]
  | .executing => [.verifying, .failed]
  | .verifying => [.resolved, .diagnosed, .escalated]
  | .failed => [.rolledback, .escalated]
  | .resolved => []
  | .rolledback => []
  | .escalated => []

def validateTransition (current target : IncidentState) : Except Err Unit :=
  if target ∈ current.transitions then pure ()
  else throw ⟨.valueError, s!"Illegal incident transition: {current.value} -> {target.value}"⟩

namespace Incident

/-- A move to `target` is a retry. -/
def retries (incident : Incident) (target : IncidentState) : Bool :=
  decide (incident.state = .verifying) && decide (target = .diagnosed)

/-- What `transition` checks of the row that it has read. -/
def admitsTransition (incident : Incident) (expectedVersion : Int) (target : IncidentState) :
    Except Err Unit := do
  if (incident.version : Int) ≠ expectedVersion then
    throw ⟨.conflictError, "Stale incident version"⟩
  validateTransition incident.state target
  if incident.state = .planned ∧ target ≠ .escalated then
    let required : IncidentState :=
      if incident.approvalRequired then .pendingApproval else .executing
    if target ≠ required then
      throw ⟨.valueError, "Transition does not match approval requirement"⟩
  if incident.retries target = true ∧ incident.retryLimit ≤ incident.attempts then
    throw ⟨.valueError, "Retry limit exhausted"⟩

/-- The columns that `transition` sets on a row, having read `incident`. -/
def transitioned (now : Int) (expectedVersion : Int) (target : IncidentState)
    (incident row : Incident) : Incident :=
  { row with
    state := target
    version := (expectedVersion + 1).toNat
    updatedAt := now
    attempts := if incident.retries target then incident.attempts + 1 else row.attempts
    resolvedAt := if target = .resolved then some now else row.resolvedAt }

/-- The row is in the index `uq_active_incident`, under this key. -/
def active (key : String) (incident : Incident) : Bool :=
  decide (incident.correlationKey = key) && !incident.state.terminal

end Incident

/-- The incident that everybody sees. -/
def Db.incident (db : Db) (i : Nat) : Option Incident := (db.incidents i).committed

/-! ### The repository -/

section Repository

variable (t : TxId)

/-- `UPDATE incidents ... WHERE id = ... RETURNING`.  `set` is the row written, if the row in
sight is picked; one that is picked and locked by somebody else is waited for and looked at
again. -/
def updateIncident (incidentId : Nat) (set : Int → Incident → Option Incident) :
    Prog (Option Incident) :=
  sql fun db =>
    let c := db.incidents incidentId
    match (c.visible t).bind (set (db.txTime t)) with
    | some row =>
        if c.free t then some (.ok (some row), db.setIncident incidentId (c.write t (some row)))
        else none
    | none => some (.ok none, db)

/-- Somebody else is writing a row of the index under this key. -/
def Incident.contended (key : String) (c : Cell TxId Incident) : Bool :=
  !c.free t && (c.chain.head?.join.any (Incident.active key) ||
    c.committed.any (Incident.active key))

/-- `INSERT INTO incidents`: waits for those who write a row of the same key, and is refused if
there is one. -/
def insertIncident (incident : Incident) : Prog Unit :=
  sql fun db =>
    let c := db.incidents incident.id
    let key := incident.correlationKey
    if !c.free t || db.incidentIds.any (fun j => Incident.contended t key (db.incidents j)) then
      none
    else if (c.visible t).isSome ||
        db.incidentIds.any (fun j => ((db.incidents j).visible t).any (Incident.active key)) then
      some (.error integrityError, db)
    else
      some (.ok (), { db.setIncident incident.id (c.write t (some incident)) with
        incidentIds := incident.id :: db.incidentIds })

def insertOutboxEvent (id : Nat) (event : OutboxEvent) : Prog Unit :=
  sql fun db => some (.ok (), db.setOutbox id ((db.outbox id).write t (some event)))

def getIncident (incidentId : Nat) : Prog (Option Incident) :=
  select fun db => (db.incidents incidentId).visible t

def getActiveIncidentByCorrelationKey (key : String) : Prog (Option Incident) :=
  select fun db =>
    (db.incidentIds.filterMap fun i => (db.incidents i).visible t).find? (Incident.active key)

/-- `create_incident`.  A negative retry limit breaks a constraint of the table. -/
def createIncident (resourceId : Nat) (correlationKey : String) (severity : Severity)
    (approvalRequired : Bool := false) (retryLimit : Int := 2) : Prog Incident := do
  let id ← uuid4 t.pid
  let now ← select fun db => db.txTime t
  let incident : Incident :=
    { id := id, resourceId := resourceId, correlationKey := correlationKey, severity := severity,
      state := .detected, approvalRequired := approvalRequired,
      retryLimit := retryLimit.toNat, updatedAt := now }
  if retryLimit < 0 then throw integrityError
  insertIncident t incident
  pure incident

/-- `get_or_create_incident`.  An insert that is refused has written nothing, so that going back
to the savepoint undoes nothing. -/
def getOrCreateIncident (resourceId : Nat) (correlationKey : String) (severity : Severity)
    (approvalRequired : Bool := false) : Prog (Incident × Bool) := do
  let found ← getActiveIncidentByCorrelationKey t correlationKey
  match found with
  | some incident => pure (incident, false)
  | none =>
      tryCatch
        (do
          let incident ← createIncident t resourceId correlationKey severity approvalRequired
          pure (incident, true))
        (fun e =>
          if e.exc = .integrityError then do
            let found ← getActiveIncidentByCorrelationKey t correlationKey
            match found with
            | some incident => pure (incident, false)
            | none => throw e
          else throw e)

/-- `require_incident_approval`.  The trigger on the table sets the time of the update. -/
def requireIncidentApproval (incidentId : Nat) (expectedVersion : Int) : Prog Incident := do
  let result ← updateIncident t incidentId fun now row =>
    if (row.version : Int) = expectedVersion ∧ row.state = .planned ∧ row.approvalRequired = false
    then some { row with
      approvalRequired := true, version := (expectedVersion + 1).toNat, updatedAt := now }
    else none
  match result with
  | some incident => pure incident
  | none =>
      throw ⟨.conflictError, "Incident changed before approval routing was enabled"⟩

/-- `transition`: the row is read and checked, and written if it still has the version that was
checked. -/
def transition (actor : String) (incidentId : Nat) (expectedVersion : Int)
    (target : IncidentState) : Prog Incident := do
  let found ← getIncident t incidentId
  match found with
  | none => throw ⟨.lookupError, "Incident not found"⟩
  | some incident =>
      check (incident.admitsTransition expectedVersion target)
      let result ← updateIncident t incidentId fun now row =>
        if (row.version : Int) = expectedVersion then
          some (incident.transitioned now expectedVersion target row)
        else none
      match result with
      | none => throw ⟨.conflictError, "Concurrent incident transition"⟩
      | some updated =>
          if target = .approved then
            let id ← uuid4 t.pid
            insertOutboxEvent t id
              { eventType := "incident.approved", aggregateType := "incident",
                aggregateId := incidentId, aggregateVersion := (expectedVersion + 1).toNat,
                state := .approved, severity := updated.severity,
                correlationKey := updated.correlationKey, resourceId := updated.resourceId,
                status := "PENDING", actor := actor }
          pure updated

/-! #### Other records -/

/-- Add a row. -/
def insertRow (row : NewRow) : Prog Unit := sql fun db => some (.ok (), db.add t row)

/-- Add a row to a table that nothing here reads. -/
def insertElsewhere : Prog Unit := sql fun db => some (.ok (), db)

def createEscalationRecord (incidentId : Nat) (title summary rootCause : String)
    (escalationReason : Option String) : Prog Unit := do
  let id ← uuid4 t.pid
  insertRow t (.escalation
    { id := id, incidentId := incidentId, title := title, summary := summary,
      rootCause := rootCause, escalationReason := escalationReason })

def createAttentionItem : Prog Unit := do
  let _ ← uuid4 t.pid
  insertElsewhere

end Repository

/-! ### Callers -/

/-- The calls that write incidents. -/
inductive IncidentCall
  | create (resourceId : Nat) (correlationKey : String) (severity : Severity)
      (approvalRequired : Bool) (retryLimit : Int)
  | getOrCreate (resourceId : Nat) (correlationKey : String) (severity : Severity)
      (approvalRequired : Bool)
  | requireApproval (incidentId : Nat) (expectedVersion : Int)
  | transition (incidentId : Nat) (expectedVersion : Int) (target : IncidentState)

/-- The program of a call, made in transaction `t`. -/
def IncidentCall.prog (t : TxId) (actor : String) : IncidentCall → Prog Incident
  | .create resourceId correlationKey severity approvalRequired retryLimit =>
      createIncident t resourceId correlationKey severity approvalRequired retryLimit
  | .getOrCreate resourceId correlationKey severity approvalRequired => do
      let (incident, _) ← getOrCreateIncident t resourceId correlationKey severity approvalRequired
      pure incident
  | .requireApproval incidentId expectedVersion =>
      requireIncidentApproval t incidentId expectedVersion
  | .transition incidentId expectedVersion target =>
      SelfHealing.transition t actor incidentId expectedVersion target

/-- A block in one transaction: its calls, and whether their exceptions are caught; in the end
it may raise on its own account. -/
structure IncidentTx where
  actor : String
  calls : List (IncidentCall × Bool)
  raises : Option Err

/-- The calls, one after the other. -/
def runCalls (t : TxId) (actor : String) : List (IncidentCall × Bool) → Prog Unit
  | [] => pure ()
  | (call, caught) :: rest => do
      tryCatch
        (do
          let _ ← call.prog t actor
          pure ())
        (fun e => if caught then pure () else throw e)
      runCalls t actor rest

def IncidentTx.prog (p : Nat) (tx : IncidentTx) : Prog Unit :=
  unitOfWork ⟨p, 0⟩ tx.actor do
    runCalls ⟨p, 0⟩ tx.actor tx.calls
    match tx.raises with
    | some e => throw e
    | none => pure ()

/-- Any number of callers, while time passes. -/
def incidentMachine : Machine World IncidentTx Nat Db where
  prog := fun p tx => do
    let _ ← (tx.prog p).run
    pure ()
  ready := fun _ _ _ => True
  crash := Db.crash
  env := fun elapsed db => some { db with now := db.now + elapsed }
  admits := fun _ _ => True

instance (p : Nat) (tx : IncidentTx) (db : Db) : Decidable (incidentMachine.ready p tx db) :=
  .isTrue trivial

instance (s s' : Db) : Decidable (incidentMachine.admits s s') := .isTrue trivial

/-- The committed history of an incident, newest version first. -/
def Db.history (db : Db) (i : Nat) : List Incident := (db.incidents i).versions.filterMap id

end SelfHealing
