/-
Resource locks.

A resource is locked for an actor for a number of seconds, and may be quarantined,
which no expiry ends.  The lock is taken by an upsert whose condition the database
checks; it is given back by a session that first reads the row and then deletes it by
its key.
-/
import SelfHealing.Automation

namespace SelfHealing

open Interleaving ReadCommitted

namespace ResourceLock

/-- The lock may be taken: it is not quarantined, and has lapsed or is the caller's own. -/
def available (now : Int) (owner : String) (lock : ResourceLock) : Bool :=
  !lock.quarantined && (decide (lock.expiresAt ≤ now) || decide (lock.owner = owner))

/-- `INSERT ... ON CONFLICT DO UPDATE ... WHERE` of `acquire_lock`: the row written, if any is. -/
def acquire (now : Int) (owner : String) (token : Nat) (duration : Int)
    (row : Option ResourceLock) : Option ResourceLock :=
  match row with
  | none =>
      some { owner := owner, token := token, acquiredAt := now,
             expiresAt := now + seconds duration, quarantined := false,
             quarantineReason := none, quarantinedAt := none }
  | some current =>
      if current.available now owner then
        some { current with owner := owner, token := token, acquiredAt := now,
                            expiresAt := now + seconds duration }
      else none

/-- `INSERT ... ON CONFLICT DO UPDATE` of `quarantine_resource`. -/
def quarantine (now : Int) (token : Nat) (reason : String) (row : Option ResourceLock) :
    ResourceLock :=
  { owner := "system:quarantine"
    token := (row.map ResourceLock.token).getD token
    acquiredAt := (row.map ResourceLock.acquiredAt).getD now
    expiresAt := now + seconds (365 * 86400)
    quarantined := true
    quarantineReason := some reason
    quarantinedAt := some now }

/-- `UPDATE ... WHERE` of `renew_lock`: the row written, if any is. -/
def renew (now : Int) (owner : String) (token : Nat) (duration : Int)
    (row : Option ResourceLock) : Option ResourceLock :=
  match row with
  | none => none
  | some lock =>
      if lock.token = token ∧ lock.owner = owner ∧ now < lock.expiresAt ∧ lock.quarantined = false
      then some { lock with expiresAt := now + seconds duration }
      else none

/-- The constraint of the table. -/
def checked (lock : ResourceLock) : Bool := decide (lock.acquiredAt < lock.expiresAt)

/-- The upsert of the repository's own `acquire_lock`, which asks only whether the lock has
lapsed. -/
def takeOver (now : Int) (owner : String) (token : Nat) (duration : Int)
    (row : Option ResourceLock) : Option ResourceLock :=
  match row with
  | none =>
      some { owner := owner, token := token, acquiredAt := now,
             expiresAt := now + seconds duration, quarantined := false,
             quarantineReason := none, quarantinedAt := none }
  | some current =>
      if current.expiresAt ≤ now then
        some { current with owner := owner, token := token, acquiredAt := now,
                            expiresAt := now + seconds duration }
      else none

/-- `DELETE ... WHERE` of the repository's own `release_lock`: whether the row goes. -/
def ownedBy (owner : String) (token : Nat) : Option ResourceLock → Bool
  | none => false
  | some lock => decide (lock.token = token) && decide (lock.owner = owner)

end ResourceLock

/-- The lock that everybody sees. -/
def Db.lock (db : Db) (r : Nat) : Option ResourceLock := (db.locks r).committed

section Service

variable (t : TxId) (actor : String) (resourceId : Nat)

def quarantinedError (reason : Option String) : Err :=
  let reason := reason.getD "None"
  ⟨.quarantinedResourceError, s!"Resource {resourceId} is quarantined: {reason}"⟩

def getLock : Prog (Option ResourceLock) := select fun db => (db.locks resourceId).visible t

/-- What `check_safety` checks of the controls. -/
def AutomationControl.checkSafety (control : Option AutomationControl) : Except Err Unit :=
  match control with
  | none => pure ()
  | some control =>
      if control.mode = .disabled then
        throw ⟨.quarantinedResourceError, "Global automation is currently DISABLED"⟩
      else if toString resourceId ∈ control.emergencyStoppedResources then
        throw ⟨.quarantinedResourceError,
          s!"Resource {resourceId} is on the emergency stop list"⟩
      else pure ()

/-- What `check_safety` checks of the lock. -/
def ResourceLock.checkSafety (lock : Option ResourceLock) : Except Err Unit :=
  match lock with
  | none => pure ()
  | some lock =>
      if lock.quarantined then throw (quarantinedError resourceId lock.quarantineReason)
      else pure ()

/-- `check_safety`.  `held` are the controls if the session has loaded them before: they are not
read again then. -/
def checkSafety (held : Option AutomationControl) : Prog Unit := do
  let control ←
    match held with
    | some control => pure (some control)
    | none => select fun db => db.control.visible t
  check (AutomationControl.checkSafety resourceId control)
  let lock ← getLock t resourceId
  check (ResourceLock.checkSafety resourceId lock)

/-- The upsert of `acquire_lock`.  A conflicting row is locked even if it is left as it is. -/
def upsertLock (token : Nat) (duration : Int) : Prog (Option Nat) :=
  sql fun db =>
    let c := db.locks resourceId
    if c.free t then
      match ResourceLock.acquire (db.txTime t) actor token duration (c.visible t) with
      | some lock => some (.ok (some token), db.setLock resourceId (c.write t (some lock)))
      | none => some (.ok none, db.setLock resourceId (c.lock t))
    else none

def acquireLock (duration : Int := 120) : Prog Nat := do
  if duration < 1 ∨ 3600 < duration then
    throw ⟨.valueError, "Lock duration must be between 1 and 3600 seconds"⟩
  checkSafety t resourceId none
  let token ← uuid4 t.pid
  let result ← upsertLock t actor resourceId token duration
  match result with
  | some token => pure token
  | none =>
      let lock ← getLock t resourceId
      check (ResourceLock.checkSafety resourceId lock)
      let owner := (lock.map ResourceLock.owner).getD "unknown"
      throw ⟨.resourceLockedError,
        s!"Resource {resourceId} is currently locked by another worker ({owner})"⟩

/-- `DELETE` of a loaded row: by its key, whatever it holds by then. -/
def deleteLock : Prog Unit :=
  sql fun db =>
    let c := db.locks resourceId
    match c.visible t with
    | none => some (.ok (), db)
    | some _ =>
        if c.free t then some (.ok (), db.setLock resourceId (c.write t none)) else none

/-- The exception of an `UPDATE` of a loaded row that is there no more. -/
def staleDataError : Err :=
  ⟨.databaseError,
    "UPDATE statement on table 'resource_locks' expected to update 1 row(s); 0 were matched."⟩

/-- `UPDATE` of a loaded row, by its key: the columns that `release_lock` changes. -/
def disownLock (token : Nat) (expiresAt : Int) : Prog Unit :=
  sql fun db =>
    let c := db.locks resourceId
    match c.visible t with
    | none => some (.error staleDataError, db)
    | some row =>
        if c.free t then
          some (.ok (), db.setLock resourceId (c.write t
            (some { row with token := token, owner := "system:quarantine",
                             expiresAt := expiresAt })))
        else none

def releaseLock (token : Nat) : Prog Unit := do
  let found ← getLock t resourceId
  match found with
  | none => pure ()
  | some lock =>
      if lock.token ≠ token ∨ lock.owner ≠ actor then
        throw ⟨.lockOwnershipError, "Lock token or owner does not match current holder"⟩
      else if lock.quarantined then
        let fresh ← uuid4 t.pid
        let now ← datetimeNow
        disownLock t resourceId fresh (now + seconds (365 * 86400))
      else deleteLock t resourceId

def quarantineResource (reason : String) : Prog Unit := do
  let token ← uuid4 t.pid
  sql fun db =>
    let c := db.locks resourceId
    if c.free t then
      some (.ok (), db.setLock resourceId
        (c.write t (some (ResourceLock.quarantine (db.txTime t) token reason (c.visible t)))))
    else none

def renewLock (token : Nat) (duration : Int := 120) : Prog Bool :=
  sql fun db =>
    let c := db.locks resourceId
    match ResourceLock.renew (db.txTime t) actor token duration (c.visible t) with
    | some lock =>
        if c.free t then
          if lock.checked then some (.ok true, db.setLock resourceId (c.write t (some lock)))
          else some (.error integrityError, db)
        else none
    | none => some (.ok false, db)

def clearQuarantine : Prog Unit := do
  let found ← getLock t resourceId
  match found with
  | none => pure ()
  | some lock => if lock.quarantined then deleteLock t resourceId else pure ()

end Service

/-! ### The repository's own locks -/

namespace ControlPlaneRepository

variable (t : TxId) (actor : String) (resourceId : Nat)

def upsertLock (token : Nat) (duration : Int) : Prog (Option Nat) :=
  sql fun db =>
    let c := db.locks resourceId
    if c.free t then
      match ResourceLock.takeOver (db.txTime t) actor token duration (c.visible t) with
      | some lock => some (.ok (some token), db.setLock resourceId (c.write t (some lock)))
      | none => some (.ok none, db.setLock resourceId (c.lock t))
    else none

def acquireLock (duration : Int := 120) : Prog Nat := do
  if duration < 1 ∨ 3600 < duration then
    throw ⟨.valueError, "Lock duration must be between 1 and 3600 seconds"⟩
  let token ← uuid4 t.pid
  let result ← upsertLock t actor resourceId token duration
  match result with
  | some token => pure token
  | none => throw ⟨.conflictError, "Resource is locked"⟩

def deleteOwned (token : Nat) : Prog Bool :=
  sql fun db =>
    let c := db.locks resourceId
    if ResourceLock.ownedBy actor token (c.visible t) then
      if c.free t then some (.ok true, db.setLock resourceId (c.write t none)) else none
    else some (.ok false, db)

def releaseLock (token : Nat) : Prog Unit := do
  let deleted ← deleteOwned t actor resourceId token
  if deleted then pure ()
  else throw ⟨.conflictError, "Lock token or owner does not match"⟩

end ControlPlaneRepository

/-! ### Sequences of operations -/

/-- The operations on locks, of the service and of the repository. -/
inductive LockOp
  | acquire (actor : String) (resourceId : Nat) (duration : Int)
  | renew (actor : String) (resourceId token : Nat) (duration : Int)
  | release (actor : String) (resourceId token : Nat)
  | quarantine (actor : String) (resourceId : Nat) (reason : String)
  | clearQuarantine (actor : String) (resourceId : Nat)
  | repositoryAcquire (actor : String) (resourceId : Nat) (duration : Int)
  | repositoryRelease (actor : String) (resourceId token : Nat)
deriving DecidableEq, Repr

/-- What an operation returns. -/
inductive LockAnswer
  | token (n : Nat)
  | renewed (b : Bool)
  | done
deriving DecidableEq, Repr

namespace LockOp

def actor : LockOp → String
  | acquire actor _ _ | renew actor _ _ _ | release actor _ _ | quarantine actor _ _
  | clearQuarantine actor _ | repositoryAcquire actor _ _ | repositoryRelease actor _ _ => actor

/-- The resource the operation is about. -/
def resourceId : LockOp → Nat
  | acquire _ r _ | renew _ r _ _ | release _ r _ | quarantine _ r _ | clearQuarantine _ r
  | repositoryAcquire _ r _ | repositoryRelease _ r _ => r

/-- What the operation does in its transaction. -/
def prog (t : TxId) : LockOp → Prog LockAnswer
  | acquire actor r duration => do
      let token ← SelfHealing.acquireLock t actor r duration
      pure (.token token)
  | renew actor r token duration => do
      let renewed ← renewLock t actor r token duration
      pure (.renewed renewed)
  | release actor r token => do
      SelfHealing.releaseLock t actor r token
      pure .done
  | quarantine _ r reason => do
      quarantineResource t r reason
      pure .done
  | clearQuarantine _ r => do
      SelfHealing.clearQuarantine t r
      pure .done
  | repositoryAcquire actor r duration => do
      let token ← ControlPlaneRepository.acquireLock t actor r duration
      pure (.token token)
  | repositoryRelease actor r token => do
      ControlPlaneRepository.releaseLock t actor r token
      pure .done

def perform (t : TxId) (op : LockOp) : Prog LockAnswer := unitOfWork t op.actor (op.prog t)

end LockOp

/-- An operation that was performed, between which states, and what it returned or raised. -/
structure LockEntry where
  op : LockOp
  before : Db
  answer : Except Err LockAnswer
  after : Db

/-- Any sequence of operations, each in a transaction of its own and from start to end.  In
between, time passes and anything happens but to the locks.  The entries are newest first. -/
inductive LockRun (db₀ : Db) : List LockEntry → Db → Prop
  | start : LockRun db₀ [] db₀
  | meanwhile {run : List LockEntry} {db : Db} (db' : Db) (hlocks : db'.locks = db.locks)
      (h : LockRun db₀ run db) : LockRun db₀ run db'
  | operate {run : List LockEntry} {db db' : Db} (t : TxId) (op : LockOp)
      (answer : Except Err LockAnswer) (hends : (op.perform t).Ends db answer db')
      (h : LockRun db₀ run db) : LockRun db₀ (⟨op, db, answer, db'⟩ :: run) db'

end SelfHealing
