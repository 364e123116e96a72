/-
Incident leases.

A worker processes an incident under a lease: a row that names its owner, a token
drawn for this acquisition and a time at which it lapses.  The functions on
`WorkflowLease` are what the repository's statements do to that row; the programs
after them are the repository methods, statement by statement, and
`IncidentLeaseManager.hold` with the heartbeat that runs beside its body.
-/
import SelfHealing.Database

namespace SelfHealing

open Interleaving ReadCommitted

namespace WorkflowLease

/-- The lease may be taken over: it has lapsed, or it is the caller's own. -/
def available (now : Int) (owner : String) (lease : WorkflowLease) : Bool :=
  decide (lease.expiresAt ≤ now) || decide (lease.owner = owner)

/-- `INSERT ... ON CONFLICT DO UPDATE ... WHERE`: the row written, if any is. -/
def acquire (now : Int) (owner : String) (token : Nat) (ttl : Int) (version : Nat)
    (row : Option WorkflowLease) : Option WorkflowLease :=
  let lease : WorkflowLease :=
    { owner := owner, token := token, acquiredAt := now, expiresAt := now + seconds ttl,
      incidentVersion := version }
  match row with
  | none => some lease
  | some current => if current.available now owner then some lease else none

/-- The token is that of a lease that has not lapsed. -/
def verifies (now : Int) (token : Nat) : Option WorkflowLease → Bool
  | none => false
  | some lease => decide (lease.token = token) && decide (now < lease.expiresAt)

/-- `UPDATE ... WHERE token = ... AND expires_at > now()`: the row written, if any is. -/
def renew (now : Int) (token : Nat) (ttl : Int) (row : Option WorkflowLease) :
    Option WorkflowLease :=
  match row with
  | none => none
  | some lease =>
      if lease.token = token ∧ now < lease.expiresAt then
        some { lease with expiresAt := now + seconds ttl }
      else none

/-- `DELETE ... WHERE token = ...`: whether the row goes. -/
def released (token : Nat) : Option WorkflowLease → Bool
  | none => false
  | some lease => decide (lease.token = token)

/-- `DELETE ... WHERE expires_at <= now()`: whether the row goes. -/
def lapsed (now : Int) : Option WorkflowLease → Bool
  | none => false
  | some lease => decide (lease.expiresAt ≤ now)

/-- The constraint `chk_workflow_lease_expiry`. -/
def checked (lease : WorkflowLease) : Bool := decide (lease.acquiredAt < lease.expiresAt)

end WorkflowLease

/-- The lease that everybody sees. -/
def Db.lease (db : Db) (i : Nat) : Option WorkflowLease := (db.leases i).committed

/-! ### The repository -/

section Repository

variable (t : TxId) (incidentId : Nat)

-- An `UPDATE` or `DELETE` passes over a row that its `WHERE` does not pick.  It waits for one
-- that it picks and somebody else has locked, and looks at it again.

/-- The upsert of `acquire_incident_lease`.  A conflicting row is locked even if it is left as
it is. -/
def upsertLease (owner : String) (token : Nat) (ttl : Int) (version : Nat) : Prog (Option Nat) :=
  sql fun db =>
    let c := db.leases incidentId
    if c.free t then
      if ttl ≤ 0 then some (.error integrityError, db)
      else
        match WorkflowLease.acquire (db.txTime t) owner token ttl version (c.visible t) with
        | some lease => some (.ok (some token), db.setLease incidentId (c.write t (some lease)))
        | none => some (.ok none, db.setLease incidentId (c.lock t))
    else none

def acquireIncidentLease (owner : String) (ttl : Int) (version : Option Nat) : Prog Nat := do
  let token ← uuid4 t.pid
  let incident ← select fun db => (db.incidents incidentId).visible t
  match incident with
  | none => throw ⟨.lookupError, "Incident not found"⟩
  | some incident =>
      match version.filter (fun v => incident.version ≠ v) with
      | some v =>
          throw ⟨.conflictError,
            s!"Incident version mismatch: expected {v}, found {incident.version}"⟩
      | none =>
          let result ← upsertLease t incidentId owner token ttl incident.version
          match result with
          | some token => pure token
          | none => throw ⟨.conflictError, "Incident is currently leased by another worker"⟩

def verifyIncidentLease (token : Nat) (expectedVersion : Option Nat) : Prog Bool := do
  let lease ← select fun db => (db.leases incidentId).visible t
  let now ← datetimeNow
  if WorkflowLease.verifies now token lease then
    match expectedVersion with
    | none => pure true
    | some v =>
        let incident ← select fun db => (db.incidents incidentId).visible t
        pure (incident.any fun i => i.version = v)
  else pure false

def renewIncidentLease (token : Nat) (ttl : Int) : Prog Bool :=
  sql fun db =>
    let c := db.leases incidentId
    match WorkflowLease.renew (db.txTime t) token ttl (c.visible t) with
    | some lease =>
        if c.free t then
          if lease.checked then some (.ok true, db.setLease incidentId (c.write t (some lease)))
          else some (.error integrityError, db)
        else none
    | none => some (.ok false, db)

def releaseIncidentLease (token : Nat) : Prog Unit :=
  sql fun db =>
    let c := db.leases incidentId
    if WorkflowLease.released token (c.visible t) then
      if c.free t then some (.ok (), db.setLease incidentId (c.write t none)) else none
    else some (.ok (), db)

/-- `cleanup_expired_leases`, as it meets the row of one incident. -/
def cleanupExpiredLease : Prog Unit :=
  sql fun db =>
    let c := db.leases incidentId
    if WorkflowLease.lapsed (db.txTime t) (c.visible t) then
      if c.free t then some (.ok (), db.setLease incidentId (c.write t none)) else none
    else some (.ok (), db)

end Repository

/-! ### The lease manager -/

/-- The tasks that touch leases. -/
inductive LeaseTask
  /-- A `hold` block of a worker, whose body lasts for a number of heartbeats. -/
  | hold (incidentId : Nat) (workerId : String) (ttl : Int) (expectedVersion : Option Nat)
      (beats : Nat)
  /-- The sweep of lapsed leases over the given incidents. -/
  | cleanup (incidentIds : List Nat)

section Manager

variable (p : Nat) (incidentId : Nat) (workerId : String) (ttl : Int)

/-- The heartbeat.  A renewal that raises is logged and tried again; one that finds the lease
gone ends the heartbeat, and the body runs on without it. -/
def renewLoop (token : Nat) : Nat → Prog Unit
  | 0 => pure ()
  | n + 1 => do
      let success ← tryCatch
        (unitOfWork ⟨p, 0⟩ workerId (renewIncidentLease ⟨p, 0⟩ incidentId token ttl))
        (fun _ => pure true)
      if success then renewLoop token n else pure ()

/-- `IncidentLeaseManager.hold`: the lease is acquired, the body runs beside the heartbeat, and
the lease is released, an error of the release being logged only. -/
def hold (expectedVersion : Option Nat) (beats : Nat) : Prog Unit := do
  let token ← unitOfWork ⟨p, 0⟩ workerId
    (acquireIncidentLease ⟨p, 0⟩ incidentId workerId ttl expectedVersion)
    (fun _ => [.entered p incidentId workerId])
  renewLoop p incidentId workerId ttl token beats
  observe [.left p incidentId]
  tryCatch
    (unitOfWork ⟨p, 0⟩ workerId (releaseIncidentLease ⟨p, 0⟩ incidentId token))
    (fun _ => pure ())

/-- The rows of the sweep, one after the other. -/
def cleanupRows : List Nat → Prog Unit
  | [] => pure ()
  | i :: rest => do
      cleanupExpiredLease ⟨p, 0⟩ i
      cleanupRows rest

end Manager

/-- The program of a task. -/
def LeaseTask.prog (p : Nat) : LeaseTask → Prog Unit
  | .hold incidentId workerId ttl expectedVersion beats =>
      SelfHealing.hold p incidentId workerId ttl expectedVersion beats
  | .cleanup incidentIds => unitOfWork ⟨p, 0⟩ "worker:recovery" (cleanupRows p incidentIds)

/-- What happens to leases from outside: time passes, and incidents are written. -/
inductive LeaseEnv
  | tick (elapsed : Nat)
  | incident (i : Nat) (c : Cell TxId Incident)

def LeaseEnv.apply : LeaseEnv → Db → Option Db
  | .tick elapsed, db => some { db with now := db.now + elapsed }
  | .incident i c, db => some (db.setIncident i c)

/-- One operation on the lease of an incident, in a transaction of its own and from start to
end, or something that happens from outside. -/
inductive LeaseStep (i : Nat) : Db → Db → Prop
  | env {db db' : Db} (e : LeaseEnv) (h : e.apply db = some db') : LeaseStep i db db'
  | acquire {db db' : Db} (t : TxId) (actor owner : String) (ttl : Int) (version : Option Nat)
      (r : Except Err Nat)
      (h : (unitOfWork t actor (acquireIncidentLease t i owner ttl version)).Ends db r db') :
      LeaseStep i db db'
  | verify {db db' : Db} (t : TxId) (actor : String) (token : Nat) (version : Option Nat)
      (r : Except Err Bool)
      (h : (unitOfWork t actor (verifyIncidentLease t i token version)).Ends db r db') :
      LeaseStep i db db'
  | renew {db db' : Db} (t : TxId) (actor : String) (token : Nat) (ttl : Int)
      (r : Except Err Bool)
      (h : (unitOfWork t actor (renewIncidentLease t i token ttl)).Ends db r db') :
      LeaseStep i db db'
  | release {db db' : Db} (t : TxId) (actor : String) (token : Nat) (r : Except Err Unit)
      (h : (unitOfWork t actor (releaseIncidentLease t i token)).Ends db r db') :
      LeaseStep i db db'
  | cleanup {db db' : Db} (t : TxId) (actor : String) (r : Except Err Unit)
      (h : (unitOfWork t actor (cleanupExpiredLease t i)).Ends db r db') : LeaseStep i db db'

/-- Any sequence of operations on the lease of incident `i`. -/
def LeaseRun (i : Nat) : Db → Db → Prop := Relation.ReflTransGen (LeaseStep i)

/-- Workers and their tasks. -/
def leaseMachine (admits : Db → Db → Prop) : Machine World LeaseTask LeaseEnv Db where
  prog := fun p task => do
    let _ ← (task.prog p).run
    pure ()
  ready := fun p _ db => db.unseen p
  crash := Db.crash
  env := LeaseEnv.apply
  admits := admits

instance (admits : Db → Db → Prop) (p : Nat) (task : LeaseTask) (db : Db) :
    Decidable ((leaseMachine admits).ready p task db) :=
  inferInstanceAs (Decidable (db.unseen p))

instance (admits : Db → Db → Prop) [h : ∀ s s', Decidable (admits s s')] (s s' : Db) :
    Decidable ((leaseMachine admits).admits s s') := h s s'

/-- The body of a `hold` block of process `p` on the incident is running, for this worker. -/
def inBody (p incidentId : Nat) (worker : String) : List Event → Bool
  | [] => false
  | .entered q j w :: rest =>
      if q = p ∧ j = incidentId then decide (w = worker) else inBody p incidentId worker rest
  | .left q j :: rest =>
      if q = p ∧ j = incidentId then false else inBody p incidentId worker rest
  | .crashed q :: rest => if q = p then false else inBody p incidentId worker rest
  | _ :: rest => inBody p incidentId worker rest

/-- No two bodies of `hold` blocks on the same incident run at once. -/
def ExclusiveBodies (db : Db) : Prop :=
  ∀ i p q w w', inBody p i w db.log = true → inBody q i w' db.log = true → p = q

end SelfHealing
