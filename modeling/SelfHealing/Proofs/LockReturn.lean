/-
What becomes of the resource lock of a call.

Once the lock transaction of `execute` has committed, the resource is locked for the caller, and
`execute` has to end in a transaction that gives the lock back or quarantines the resource.  It
does so after a dispatch whose transactions all succeed.  It does not when there is nothing to
dispatch, because the record was finished or `RUNNING` when the lock transaction read it; nor when
the snapshot after a restart raises; nor when the database refuses the transaction at the end.

The call is looked at on its own, from any state in which it may have come to its lock
transaction.  What Docker and the database may answer is a predicate, and all the runs with such
answers are meant.  `returns_lock_iff` says for which states and which answers the lock is
returned.
-/
import SelfHealing.Proofs.Quarantine
import SelfHealing.Proofs.AtMostOnce
import SelfHealing.Proofs.AdapterSteps
import SelfHealing.Lib.UniqueIndex

namespace SelfHealing

open Interleaving Interleaving.Prog ReadCommitted

/-! ### What is said of a call

A promise about all runs of a program is `Always`, and the way to break it is `Can`: some run that
ends otherwise.
-/

section Statement

variable (p : Nat) (ad : DockerExecutionAdapter) (intent : ExecutionIntent)

/-- The transaction in which the lock is acquired. -/
def lockTransaction : Prog Claim :=
  unitOfWork ⟨p, 0⟩ ad.actor (claimExecution p ad intent) (Claim.seen p ad intent)

/-- What `execute` does after it. -/
def executeClaimed (pre : ContainerSnapshot) : Claim → Prog ExecutionOutcome
  | .settled outcome => pure outcome
  | .dispatch token id version =>
      tryCatch (dispatch p ad intent pre token id version) fun e => do
        observe [.returned p intent]
        throw e

theorem executeLocked_eq (pre : ContainerSnapshot) :
    executeLocked p ad intent pre
      = lockTransaction p ad intent >>= executeClaimed p ad intent pre := by
  unfold executeLocked lockTransaction
  congr 1

/-- The resource is not locked, or it is quarantined. -/
def Unlocked (resourceId : Nat) (db : Db) : Prop :=
  ∀ lock, db.lock resourceId = some lock → lock.quarantined = true

/-- However the call returns or raises after its lock transaction has committed, with answers
within `A`, the resource is unlocked or quarantined. -/
def ReturnsLock (A : World → Prop) (pre : ContainerSnapshot) (db : Db) : Prop :=
  (lockTransaction p ad intent).Always A
    (fun claim => (executeClaimed p ad intent pre claim).Always A
      (fun _ => Unlocked intent.resourceId) (fun _ => Unlocked intent.resourceId))
    (fun _ _ => True) db

/-- The transaction of the call has written nothing. -/
structure NothingOpen (db : Db) : Prop where
  lock : (db.locks intent.resourceId).own ⟨p, 0⟩ = []
  execution : (db.executions intent.idempotencyKey).own ⟨p, 0⟩ = []

/-- The record of the key, if there is one, is still to be dispatched. -/
def Undispatched (db : Db) : Prop :=
  ∀ e, (db.executions intent.idempotencyKey).committed = some e →
    e.status = .pending ∨ e.status = .rolledback

/-- A restart that returns is followed by an inspection that answers. -/
def InspectsRestarts (A : World → Prop) : Prop :=
  hexContainerId intent.containerId = true → (∃ w, A w ∧ w.restart = .answered ()) →
    ∀ w, A w → ∃ attrs, w.inspect = .answered attrs

end Statement

/-! ### What leaves the locks and the records alone -/

/-- Neither the locks nor the records are touched. -/
structure SameLocks (s s' : Db) : Prop where
  locks : s'.locks = s.locks
  executions : s'.executions = s.executions

theorem SameLocks.refl (s : Db) : SameLocks s s := ⟨rfl, rfl⟩

theorem SameLocks.trans {s s₁ s₂ : Db} (h : SameLocks s s₁)
    (h' : SameLocks s₁ s₂) : SameLocks s s₂ :=
  ⟨h'.locks.trans h.locks, h'.executions.trans h.executions⟩

section SameLocks

variable {A : World → Prop} {db : Db}

theorem always_sameLocks {α : Type} {x : Prog α} (hx : Within SameLocks x) :
    x.Always A (fun _ => SameLocks db) (fun _ => SameLocks db) db :=
  Within.always hx SameLocks.refl (fun _ _ _ h h' => h.trans h')

theorem sameLocks_inspectContainer (leftover : Option String) (containerId : String) :
    Within SameLocks (inspectContainer leftover containerId) :=
  inspectContainer_within SameLocks.refl (fun _ _ => ⟨rfl, rfl⟩) leftover containerId

theorem sameLocks_takeSnapshot (leftover : Option String) (containerId : String) :
    Within SameLocks (takeSnapshot leftover containerId) :=
  Within.bind (sameLocks_inspectContainer leftover containerId) (fun _ => within_pure _)

theorem sameLocks_observe (evs : List Event) : Within SameLocks (observe evs) := by
  refine within_stmt ?_
  intro w s r s' hf
  simp only [Option.some.injEq, Prod.mk.injEq] at hf
  rw [← hf.2]
  exact ⟨rfl, rfl⟩

theorem sameLocks_dispatchNow (p : Nat) (intent : ExecutionIntent) :
    Within SameLocks (dispatchNow p intent) := by
  refine within_stmt ?_
  intro w s r s' hf
  simp only [Option.some.injEq, Prod.mk.injEq] at hf
  rw [← hf.2]
  exact ⟨rfl, rfl⟩

end SameLocks

/-! ### The lock transaction -/

section Claiming

variable {A : World → Prop} {db : Db} {t : TxId} {actor : String} {r : Nat}

/-- The transaction sees the lock as the actor's own. -/
def LockedFor (t : TxId) (r : Nat) (actor : String) (token : Nat) (s : Db) : Prop :=
  ∃ lock, (s.locks r).visible t = some lock ∧ lock.token = token ∧ lock.owner = actor ∧
    lock.quarantined = false

theorem acquire_taken {now : Int} {token : Nat} {duration : Int} {row : Option ResourceLock}
    {lock : ResourceLock} (h : ResourceLock.acquire now actor token duration row = some lock) :
    lock.token = token ∧ lock.owner = actor ∧ lock.quarantined = false := by
  unfold ResourceLock.acquire at h
  cases row with
  | none =>
      simp only [Option.some.injEq] at h
      rw [← h]
      exact ⟨rfl, rfl, rfl⟩
  | some current =>
      simp only at h
      by_cases hfree : current.available now actor = true
      · rw [if_pos hfree, Option.some.injEq] at h
        rw [← h]
        refine ⟨rfl, rfl, ?_⟩
        simp only [ResourceLock.available, Bool.and_eq_true, Bool.not_eq_true'] at hfree
        exact hfree.1
      · rw [if_neg hfree] at h
        cases h

theorem always_acquireLock_taken (duration : Int) :
    (acquireLock t actor r duration).Always A
      (fun token s => LockedFor t r actor token s ∧ s.executions = db.executions)
      (fun _ _ => True) db := by
  have htrue : ∀ (w : World), A w → w.fails = true → True := fun _ _ _ => trivial
  unfold acquireLock
  by_cases hd : duration < 1 ∨ 3600 < duration
  · simp only [if_pos hd]
    exact always_bind.mpr ((always_throw _).mpr trivial)
  simp only [if_neg hd]
  unfold checkSafety
  refine always_bind.mpr (always_bind.mpr (always_select htrue ?_))
  refine always_bind.mpr (always_check (fun _ _ => ?_) (fun _ _ => trivial))
  refine always_bind.mpr (always_select htrue (always_check (fun _ _ => ?_) (fun _ _ => trivial)))
  refine always_bind.mpr (always_uuid4
    (always_bind.mpr (always_sql htrue ?_ (fun _ _ _ => trivial))))
  intro result s hf
  simp only at hf
  split at hf
  swap
  · cases hf
  split at hf
  · rename_i lock hlock
    simp only [Option.some.injEq, Prod.mk.injEq, Except.ok.injEq] at hf
    rw [← hf.1, ← hf.2]
    refine (always_pure _).mpr ⟨⟨lock, ?_, acquire_taken hlock⟩, rfl⟩
    simp [Db.setLock]
  · simp only [Option.some.injEq, Prod.mk.injEq, Except.ok.injEq] at hf
    rw [← hf.1]
    refine always_bind.mpr (always_select htrue ?_)
    exact always_bind.mpr (always_check (fun _ _ => (always_throw _).mpr trivial)
      (fun _ _ => trivial))

/-- The record that is inserted, or the one that was there. -/
theorem always_recordExecution (intent : ExecutionIntent) (token : Option Nat) :
    (recordExecution t actor intent token).Always A
      (fun e s => s.locks = db.locks ∧ (s.executions intent.idempotencyKey).visible t = some e ∧
        ((db.executions intent.idempotencyKey).visible t = some e ∨
          (db.executions intent.idempotencyKey).visible t = none ∧ e.status = .pending))
      (fun _ _ => True) db := by
  have htrue : ∀ (w : World), A w → w.fails = true → True := fun _ _ _ => trivial
  unfold recordExecution
  refine always_bind.mpr (always_select htrue ?_)
  refine always_bind.mpr (always_select htrue ?_)
  split
  swap
  · exact (always_throw _).mpr trivial
  rename_i step plan _ _
  by_cases hplan : plan.incidentId ≠ intent.incidentId ∨ step.resourceId ≠ intent.resourceId
  · simp only [if_pos hplan]
    exact always_bind.mpr ((always_throw _).mpr trivial)
  simp only [if_neg hplan]
  refine always_bind.mpr (always_uuid4
    (always_bind.mpr (always_sql htrue ?_ (fun _ _ _ => trivial))))
  intro inserted s hf
  simp only at hf
  split at hf
  swap
  · cases hf
  split at hf
  · -- The key was there: the record is fetched.
    rename_i old hold
    simp only [Option.some.injEq, Prod.mk.injEq, Except.ok.injEq] at hf
    rw [← hf.1, ← hf.2]
    refine always_bind.mpr (always_select htrue ?_)
    rw [hold]
    simp only
    split
    · refine (always_pure _).mpr ⟨rfl, hold, Or.inl hold⟩
    · exact (always_throw _).mpr trivial
  · rename_i hnone
    simp only [Option.some.injEq, Prod.mk.injEq, Except.ok.injEq] at hf
    rw [← hf.1, ← hf.2]
    refine always_bind.mpr ((always_pure _).mpr ?_)
    simp only
    split
    · refine (always_pure _).mpr ⟨rfl, ?_, Or.inr ⟨hnone, rfl⟩⟩
      simp [Db.setExecution]
    · exact (always_throw _).mpr trivial

/-- The record is moved by one version, unless it may not be. -/
theorem always_finishExecution {X : Err → Db → Prop} (key : String) (id version : Nat)
    (status : ExecutionStatus) (result : ExecutionResult) (reason : Option String)
    (hfails : ∀ w, A w → w.fails = true → X databaseError db)
    (hbad : ∀ e, Execution.admitsFinish version status
      (Execution.withId id ((db.executions key).visible t)) = .error e → X e db) :
    (finishExecution t key id version status result reason).Always A
      (fun e s => s.locks = db.locks ∧ (s.executions key).visible t = some e ∧ e.id = id ∧
        e.version = version + 1 ∧ e.status = status ∧
        ∃ old, (db.executions key).visible t = some old ∧ status ∈ old.status.allowed) X db := by
  unfold finishExecution
  refine always_bind.mpr (always_select hfails ?_)
  refine always_bind.mpr (always_check ?_ hbad)
  intro u hadm
  cases hrow : Execution.withId id ((db.executions key).visible t) with
  | none =>
      rw [hrow] at hadm
      cases hadm
  | some old =>
      rw [hrow] at hadm
      obtain ⟨hold, hid⟩ := Option.filter_eq_some_iff.mp hrow
      simp only [Execution.admitsFinish] at hadm
      by_cases hver : old.version ≠ version
      · rw [if_pos hver] at hadm
        cases hadm
      rw [if_neg hver] at hadm
      by_cases hall : status ∉ old.status.allowed
      · rw [if_pos hall] at hadm
        cases hadm
      have hfound : (Execution.withId id ((db.executions key).visible t)).filter
          (fun row => row.version = version) = some old := by
        rw [hrow]
        exact Option.filter_eq_some_iff.mpr ⟨rfl, by simpa using hver⟩
      refine always_bind.mpr (always_sql hfails ?_ ?_)
      · intro updated s hf
        simp only [hfound] at hf
        split at hf
        swap
        · cases hf
        simp only [Option.some.injEq, Prod.mk.injEq, Except.ok.injEq] at hf
        rw [← hf.1, ← hf.2]
        refine (always_pure _).mpr ⟨rfl, ?_, of_decide_eq_true hid, rfl, rfl, old, hold, ?_⟩
        · simp [Db.setExecution]
        · simpa using hall
      · intro e s hf
        simp only [hfound] at hf
        split at hf
        · simp at hf
        · cases hf

/-- What the lock transaction is about to commit. -/
def Claimed (p : Nat) (ad : DockerExecutionAdapter) (intent : ExecutionIntent) (db : Db)
    (claim : Claim) (s : Db) : Prop :=
  match claim with
  | .settled _ =>
      (∃ token, LockedFor ⟨p, 0⟩ intent.resourceId ad.actor token s) ∧
        ∃ e, (db.executions intent.idempotencyKey).visible ⟨p, 0⟩ = some e ∧
          e.status ≠ .pending ∧ e.status ≠ .rolledback
  | .dispatch token id version =>
      LockedFor ⟨p, 0⟩ intent.resourceId ad.actor token s ∧
        (∃ e, (s.executions intent.idempotencyKey).visible ⟨p, 0⟩ = some e ∧ e.id = id ∧
          e.version = version ∧ e.status = .running) ∧
        ∀ e, (db.executions intent.idempotencyKey).visible ⟨p, 0⟩ = some e → e.status = .pending

theorem always_claimExecution (p : Nat) (ad : DockerExecutionAdapter) (intent : ExecutionIntent) :
    (claimExecution p ad intent).Always A (Claimed p ad intent db) (fun _ _ => True) db := by
  have htrue : ∀ (w : World), A w → w.fails = true → True := fun _ _ _ => trivial
  unfold claimExecution
  refine always_bind.mpr ((always_acquireLock_taken 120).mono ?_ (fun _ _ h => h))
  intro token s₁ h₁
  obtain ⟨htaken, hexec⟩ := h₁
  refine always_bind.mpr ((always_recordExecution intent (some token)).mono ?_ (fun _ _ h => h))
  intro record s₂ h₂
  obtain ⟨hlocks, hvis, hwas⟩ := h₂
  rw [hexec] at hwas
  have htaken₂ : LockedFor ⟨p, 0⟩ intent.resourceId ad.actor token s₂ := by
    unfold LockedFor
    rw [hlocks]
    exact htaken
  have hsettled : record.status ≠ .pending →
      (db.executions intent.idempotencyKey).visible ⟨p, 0⟩ = some record := by
    intro hne
    rcases hwas with hwas | ⟨-, hpending⟩
    · exact hwas
    · exact absurd hpending hne
  -- To `RUNNING` a record goes from `PENDING` only.
  have hdispatch : (do
      let running ← finishExecution ⟨p, 0⟩ intent.idempotencyKey record.id record.version .running
        (.dispatchIntent intent)
      pure (.dispatch token record.id running.version) : Prog Claim).Always A
        (Claimed p ad intent db) (fun _ _ => True) s₂ := by
    refine always_bind.mpr ((always_finishExecution _ _ _ _ _ _ htrue (fun _ _ => trivial)).mono ?_
      (fun _ _ h => h))
    intro e s₃ h₃
    obtain ⟨hlocks₃, hvis₃, hid, -, hrunning, old, hold, hallowed⟩ := h₃
    rw [hvis, Option.some.injEq] at hold
    refine (always_pure _).mpr ⟨?_, ⟨e, hvis₃, hid, rfl, hrunning⟩, ?_⟩
    · unfold LockedFor
      rw [hlocks₃]
      exact htaken₂
    · intro found hfound
      have hpending : record.status = .pending := by
        rw [← hold] at hallowed
        cases hst : record.status with
        | pending => rfl
        | running => rw [hst] at hallowed; simp [ExecutionStatus.allowed] at hallowed
        | succeeded => rw [hst] at hallowed; simp [ExecutionStatus.allowed] at hallowed
        | failed => rw [hst] at hallowed; simp [ExecutionStatus.allowed] at hallowed
        | rolledback => rw [hst] at hallowed; simp [ExecutionStatus.allowed] at hallowed
      rcases hwas with hwas | ⟨hnone, -⟩
      · rw [hwas, Option.some.injEq] at hfound
        rw [← hfound]
        exact hpending
      · rw [hnone] at hfound
        cases hfound
  have hfinal : ∀ outcome s, record.status ≠ .pending → record.status ≠ .rolledback →
      LockedFor ⟨p, 0⟩ intent.resourceId ad.actor token s →
      Claimed p ad intent db (.settled outcome) s :=
    fun _ _ hpending hback hlocked => ⟨⟨token, hlocked⟩, record, hsettled hpending, hpending, hback⟩
  cases hst : record.status with
  | succeeded =>
      exact (always_pure _).mpr (hfinal _ _ (by simp [hst]) (by simp [hst]) htaken₂)
  | failed =>
      exact (always_pure _).mpr (hfinal _ _ (by simp [hst]) (by simp [hst]) htaken₂)
  | running =>
      refine always_bind.mpr ((always_sameLocks (sameLocks_takeSnapshot _ _)).mono ?_
        (fun _ _ _ => trivial))
      intro post s₃ h₃
      refine always_bind.mpr ((always_finishExecution _ _ _ _ _ _ htrue
        (fun _ _ => trivial)).mono ?_ (fun _ _ h => h))
      intro e s₄ h₄
      refine (always_pure _).mpr (hfinal _ _ (by simp [hst]) (by simp [hst]) ?_)
      unfold LockedFor
      rw [h₄.1, h₃.locks]
      exact htaken₂
  | pending => exact hdispatch
  | rolledback => exact hdispatch

/-- The call holds the lock, and its record is `RUNNING`. -/
structure Claiming (p : Nat) (ad : DockerExecutionAdapter) (intent : ExecutionIntent)
    (token id version : Nat) (s : Db) : Prop where
  lock : ∃ lock, s.lock intent.resourceId = some lock ∧ lock.token = token ∧
    lock.owner = ad.actor ∧ lock.quarantined = false
  record : ∃ e, (s.executions intent.idempotencyKey).committed = some e ∧ e.id = id ∧
    e.version = version ∧ e.status = .running
  idle : NothingOpen p intent s

/-- What the lock transaction has committed. -/
theorem always_lockTransaction (p : Nat) (ad : DockerExecutionAdapter) (intent : ExecutionIntent)
    (hidle : NothingOpen p intent db) :
    (lockTransaction p ad intent).Always A
      (fun claim s => match claim with
        | .settled _ => ¬ Unlocked intent.resourceId s ∧ ¬ Undispatched intent db
        | .dispatch token id version =>
            Claiming p ad intent token id version s ∧ Undispatched intent db)
      (fun _ _ => True) db := by
  have hwas : (db.executions intent.idempotencyKey).visible ⟨p, 0⟩ =
      (db.executions intent.idempotencyKey).committed :=
    Cell.visible_eq_committed hidle.execution
  unfold lockTransaction
  refine always_unitOfWork trivial trivial ((always_claimExecution p ad intent).mono ?_
    (fun _ _ h => h))
  intro claim s h
  refine ⟨trivial, ?_⟩
  have hlock : ((s.commit ⟨p, 0⟩).record (Claim.seen p ad intent claim)).lock intent.resourceId =
      (s.locks intent.resourceId).visible ⟨p, 0⟩ := Cell.committed_commit
  cases claim with
  | settled outcome =>
      obtain ⟨⟨token, lock, hvis, -, -, hq⟩, e, he, hpending, hrolled⟩ := h
      refine ⟨?_, ?_⟩
      · intro hun
        have := hun lock (by rw [hlock]; exact hvis)
        rw [hq] at this
        cases this
      · intro hun
        have he' : (db.executions intent.idempotencyKey).committed = some e := by
          rw [← hwas]
          exact he
        rcases hun e he' with hst | hst
        · exact hpending hst
        · exact hrolled hst
  | dispatch token id version =>
      obtain ⟨⟨lock, hvis, hlk⟩, ⟨e, he, hrec⟩, hpending⟩ := h
      refine ⟨⟨⟨lock, ?_, hlk⟩, ⟨e, ?_, hrec⟩, ⟨Cell.own_commit, Cell.own_commit⟩⟩, ?_⟩
      · rw [hlock]
        exact hvis
      · exact Cell.committed_commit.trans he
      · intro found hfound
        refine Or.inl (hpending found ?_)
        exact hwas.trans hfound

end Claiming

/-! ### The transaction at the end

It gives the lock back or sets the owner of a quarantine; or it is refused, and then the lock is as
it was.
-/

section Ending

variable {A : World → Prop} {s : Db} {t : TxId} {actor : String} {r : Nat}
variable {p : Nat} {ad : DockerExecutionAdapter} {intent : ExecutionIntent} {token id version : Nat}

/-- The owner deletes its lock. -/
theorem always_releaseLock_gone (hsure : ∀ w, A w → w.fails = false)
    (h : LockedFor t r actor token s) :
    (releaseLock t actor r token).Always A (fun _ s' => (s'.locks r).visible t = none)
      (fun _ _ => False) s := by
  have hnever : ∀ w, A w → w.fails = true → False := by
    intro w hw hf
    rw [hsure w hw] at hf
    cases hf
  obtain ⟨lock, hvis, htoken, howner, hq⟩ := h
  unfold releaseLock
  refine always_bind.mpr (always_select hnever ?_)
  rw [hvis]
  simp only
  rw [if_neg (by simp [htoken, howner]), if_neg (by simp [hq])]
  refine always_sql hnever ?_ ?_
  · intro u s' hf
    simp only [hvis] at hf
    split at hf
    · simp only [Option.some.injEq, Prod.mk.injEq] at hf
      rw [← hf.2]
      simp [Db.setLock]
    · cases hf
  · intro e s' hf
    simp only [hvis] at hf
    split at hf
    · simp at hf
    · cases hf

theorem always_quarantineResource_set (hsure : ∀ w, A w → w.fails = false) (reason : String) :
    (quarantineResource t r reason).Always A
      (fun _ s' => ∃ lock, (s'.locks r).visible t = some lock ∧ lock.quarantined = true)
      (fun _ _ => False) s := by
  have hnever : ∀ w, A w → w.fails = true → False := by
    intro w hw hf
    rw [hsure w hw] at hf
    cases hf
  unfold quarantineResource
  refine always_bind.mpr (always_uuid4 (always_sql hnever ?_ ?_))
  · intro u s' hf
    simp only at hf
    split at hf
    · simp only [Option.some.injEq, Prod.mk.injEq] at hf
      rw [← hf.2]
      simp only [Db.setLock, Function.update_self, Cell.visible_write]
      exact ⟨_, rfl, rfl⟩
    · cases hf
  · intro e s' hf
    simp only at hf
    split at hf
    · simp at hf
    · cases hf

/-- The record is finished and the lock dealt with, or the run waits for ever. -/
theorem always_endDispatch (hsure : ∀ w, A w → w.fails = false)
    (hactor : validActor ad.actor = true) (h : Claiming p ad intent token id version s)
    {status : ExecutionStatus} (hstatus : status ∈ ExecutionStatus.running.allowed)
    (result : ExecutionResult) (reason : Option String) {unlock : Prog Unit}
    (hunlock : ∀ s₁, LockedFor ⟨p, 0⟩ intent.resourceId ad.actor token s₁ →
      unlock.Always A (fun _ s' => ∀ lock,
        (s'.locks intent.resourceId).visible ⟨p, 0⟩ = some lock → lock.quarantined = true)
        (fun _ _ => False) s₁) :
    (endDispatch p ad intent id version status result reason unlock).Always A
      (fun _ => Unlocked intent.resourceId) (fun _ _ => False) s := by
  obtain ⟨⟨lock, hlock, hown⟩, ⟨e, he, hid, hver, hst⟩, hidle⟩ := h
  have hvis : (s.executions intent.idempotencyKey).visible ⟨p, 0⟩ = some e := by
    rw [Cell.visible_eq_committed hidle.execution]
    exact he
  have hadm : Execution.admitsFinish version status
      (Execution.withId id ((s.executions intent.idempotencyKey).visible ⟨p, 0⟩)) = .ok () := by
    have hfound : Execution.withId id (some e) = some e :=
      Option.filter_eq_some_iff.mpr ⟨rfl, by simpa using hid⟩
    rw [hvis, hfound]
    unfold Execution.admitsFinish
    simp only
    rw [if_neg (by simp [hver]), if_neg (by simp [hst, hstatus])]
    rfl
  unfold endDispatch
  refine always_unitOfWork_sure hsure hactor (always_bind.mpr ?_)
  refine (always_finishExecution _ _ _ _ _ _ ?_ ?_).mono ?_ (fun _ _ h => h)
  · intro w hw hf
    rw [hsure w hw] at hf
    cases hf
  · intro err herr
    rw [show Execution.admitsFinish version status (Execution.withId id
      (((s.started ⟨p, 0⟩).executions intent.idempotencyKey).visible ⟨p, 0⟩)) = .ok () from hadm]
      at herr
    cases herr
  · intro row s₁ h₁
    have htaken : LockedFor ⟨p, 0⟩ intent.resourceId ad.actor token s₁ := by
      refine ⟨lock, ?_, hown⟩
      rw [h₁.1]
      exact (Cell.visible_eq_committed hidle.lock).trans hlock
    refine (hunlock s₁ htaken).mono ?_ (fun _ _ h => h)
    intro u s₂ h₂ l hl
    exact h₂ l (Cell.committed_commit.symm.trans hl)

end Ending

/-! ### The dispatch -/

section Dispatch

variable {A : World → Prop} {s : Db}
variable {p : Nat} {ad : DockerExecutionAdapter} {intent : ExecutionIntent} {token id version : Nat}

theorem Claiming.same {s' : Db} (h : Claiming p ad intent token id version s)
    (hsame : SameLocks s s') : Claiming p ad intent token id version s' := by
  obtain ⟨hlock, hrec, hidle⟩ := h
  refine ⟨?_, ?_, ⟨?_, ?_⟩⟩
  · show ∃ lock, (s'.locks intent.resourceId).committed = some lock ∧ _
    rw [hsame.locks]
    exact hlock
  · rw [hsame.executions]
    exact hrec
  · rw [hsame.locks]
    exact hidle.lock
  · rw [hsame.executions]
    exact hidle.execution

theorem Claiming.not_unlocked (h : Claiming p ad intent token id version s) :
    ¬ Unlocked intent.resourceId s := by
  obtain ⟨lock, hlock, -, -, hq⟩ := h.lock
  intro hun
  have := hun lock hlock
  rw [hq] at this
  cases this

/-- A snapshot is taken where the container is inspected. -/
theorem always_takeSnapshot_answered (hhex : hexContainerId intent.containerId = true)
    (hinspect : ∀ w, A w → ∃ attrs, w.inspect = .answered attrs) :
    (takeSnapshot none intent.containerId).Always A (fun _ => SameLocks s) (fun _ _ => False)
      s := by
  unfold takeSnapshot inspectContainer
  rw [if_pos hhex]
  refine always_bind.mpr (always_stmt.mpr (fun w hw => ?_))
  obtain ⟨attrs, hattrs⟩ := hinspect w hw
  simp only [hattrs]
  refine ⟨?_, ?_⟩
  · intro a s' hf
    simp only [Option.some.injEq, Prod.mk.injEq] at hf
    rw [← hf.2]
    exact (always_pure _).mpr ⟨rfl, rfl⟩
  · intro e s' hf
    simp at hf

/-- The end of a restart: it has returned only if Docker lets restarts return. -/
theorem always_restartContainer :
    (restartContainer p intent).Always A
      (fun answer s' => SameLocks s s' ∧ (answer = .ok () →
        hexContainerId intent.containerId = true ∧ ∃ w, A w ∧ w.restart = .answered ()))
      (fun _ _ => False) s := by
  unfold restartContainer observe
  refine always_bind.mpr (always_stmt.mpr (fun w _ => ⟨?_, fun e s' hf => by simp at hf⟩))
  intro u s₁ hf
  simp only [Option.some.injEq, Prod.mk.injEq] at hf
  rw [← hf.2]
  unfold endRestart
  refine always_stmt.mpr (fun w hw => ⟨?_, ?_⟩)
  · intro answer s' hf
    simp only at hf
    split at hf
    · rename_i hhex
      split at hf
      · simp only [Option.some.injEq, Prod.mk.injEq, Except.ok.injEq] at hf
        rw [← hf.1, ← hf.2]
        exact ⟨⟨rfl, rfl⟩, fun h => by cases h⟩
      · simp only [Option.some.injEq, Prod.mk.injEq, Except.ok.injEq] at hf
        rw [← hf.1, ← hf.2]
        exact ⟨⟨rfl, rfl⟩, fun h => by cases h⟩
      · rename_i hanswer
        simp only [Option.some.injEq, Prod.mk.injEq, Except.ok.injEq] at hf
        rw [← hf.2]
        exact ⟨⟨rfl, rfl⟩, fun _ => ⟨hhex, w, hw, hanswer⟩⟩
    · simp only [Option.some.injEq, Prod.mk.injEq, Except.ok.injEq] at hf
      rw [← hf.1, ← hf.2]
      exact ⟨⟨rfl, rfl⟩, fun h => by cases h⟩
  · intro e s' hf
    simp only at hf
    split at hf
    · split at hf
      · simp at hf
      · simp at hf
      · simp at hf
    · simp at hf

/-- Reconciliation raises nothing. -/
theorem always_reconcile (time : Option Int) (pre : Option ContainerSnapshot) :
    (reconcile intent time pre).Always A (fun _ => SameLocks s) (fun _ _ => False) s := by
  refine always_tryCatch (always_bind.mpr ?_)
  refine (always_sameLocks (sameLocks_takeSnapshot _ _)).mono ?_ ?_
  · intro post s' hsame
    exact (always_pure _).mpr hsame
  · intro e s' hsame
    exact (always_pure _).mpr hsame

/-- Whatever Docker has answered, the call ends in a transaction that deals with the lock. -/
theorem always_concludeDispatch (hsure : ∀ w, A w → w.fails = false)
    (hactor : validActor ad.actor = true) (h : Claiming p ad intent token id version s)
    {answer : Except Err Unit}
    (hok : answer = .ok () → hexContainerId intent.containerId = true ∧
      ∀ w, A w → ∃ attrs, w.inspect = .answered attrs)
    (pre : ContainerSnapshot) (time : Int) :
    (concludeDispatch p ad intent pre token id version time answer).Always A
      (fun _ => Unlocked intent.resourceId) (fun _ _ => False) s := by
  have hrelease : ∀ s₁, LockedFor ⟨p, 0⟩ intent.resourceId ad.actor token s₁ →
      (releaseLock ⟨p, 0⟩ ad.actor intent.resourceId token).Always A (fun _ s' => ∀ lock,
        (s'.locks intent.resourceId).visible ⟨p, 0⟩ = some lock → lock.quarantined = true)
        (fun _ _ => False) s₁ := by
    intro s₁ htaken
    refine (always_releaseLock_gone hsure htaken).mono ?_ (fun _ _ h => h)
    intro u s' hgone lock hlock
    rw [hgone] at hlock
    cases hlock
  unfold concludeDispatch
  cases answer with
  | ok u =>
      obtain ⟨hhex, hinspect⟩ := hok rfl
      refine always_bind.mpr ((always_takeSnapshot_answered hhex hinspect).mono ?_
        (fun _ _ h => h))
      intro post s₁ hsame
      refine always_bind.mpr ((always_endDispatch hsure hactor (h.same hsame) (by decide) _ _
        hrelease).mono ?_ (fun _ _ h => h))
      intro u s₂ hun
      exact (always_pure _).mpr hun
  | error e =>
      simp only
      by_cases hgone : e.exc = .containerNotFoundError
      · rw [if_pos hgone]
        refine always_bind.mpr ((always_endDispatch hsure hactor h (by decide) _ _
          hrelease).mono ?_ (fun _ _ h => h))
        intro u s₂ hun
        exact (always_pure _).mpr hun
      rw [if_neg hgone]
      refine always_bind.mpr ((always_reconcile _ _).mono ?_ (fun _ _ h => h))
      intro recon s₁ hsame
      by_cases hproved : recon.reconciledSuccess = true
      · rw [if_pos hproved]
        refine always_bind.mpr ((always_endDispatch hsure hactor (h.same hsame) (by decide) _ _
          hrelease).mono ?_ (fun _ _ h => h))
        intro u s₂ hun
        exact (always_pure _).mpr hun
      · rw [if_neg hproved]
        refine always_bind.mpr ((always_endDispatch hsure hactor (h.same hsame) (by decide) _ _
          ?_).mono ?_ (fun _ _ h => h))
        · intro s₂ _
          refine (always_quarantineResource_set hsure _).mono ?_ (fun _ _ h => h)
          intro u s₃ hq lock hlock
          obtain ⟨lock', hlock', hq'⟩ := hq
          rw [hlock', Option.some.injEq] at hlock
          rw [← hlock]
          exact hq'
        · intro u s₂ hun
          exact (always_pure _).mpr hun

/-- A call with a dispatch to make, where the database refuses nothing. -/
theorem always_executeClaimed (hsure : ∀ w, A w → w.fails = false)
    (hactor : validActor ad.actor = true) (hinspects : InspectsRestarts intent A)
    (h : Claiming p ad intent token id version s) (pre : ContainerSnapshot) :
    (executeClaimed p ad intent pre (.dispatch token id version)).Always A
      (fun _ => Unlocked intent.resourceId) (fun _ => Unlocked intent.resourceId) s := by
  have hdispatch : (dispatch p ad intent pre token id version).Always A
      (fun _ => Unlocked intent.resourceId) (fun _ _ => False) s := by
    unfold dispatch
    refine always_bind.mpr (always_stmt.mpr (fun w _ => ⟨?_, fun e s' hf => by simp at hf⟩))
    intro time s₁ hf
    simp only [Option.some.injEq, Prod.mk.injEq] at hf
    rw [← hf.2]
    have h₁ : Claiming p ad intent token id version (s.note (.dispatched p intent s.now)) :=
      h.same ⟨rfl, rfl⟩
    refine always_bind.mpr (always_restartContainer.mono ?_ (fun _ _ h => h))
    intro answer s₂ h₂
    refine always_concludeDispatch hsure hactor (h₁.same h₂.1) ?_ pre time
    intro hanswer
    obtain ⟨hhex, hrestart⟩ := h₂.2 hanswer
    exact ⟨hhex, hinspects hhex hrestart⟩
  refine always_tryCatch (hdispatch.mono (fun _ _ h => h) ?_)
  intro e s' hfalse
  exact hfalse.elim

/-! ### The lock that stays

This is the other direction: for each way to leave the lock there is a run that takes it.  The runs
are put together from the rules for what can happen, from the first statement after the lock
transaction to the end, and each of them breaks the promise by the state in which it ends.
-/

/-- The call raises after the snapshot, with the lock in its place. -/
theorem can_raise {e : Err} (hw : ∃ w, A w) (h : ¬ Unlocked intent.resourceId s) :
    (do observe [.returned p intent]; throw e : Prog ExecutionOutcome).Can A
      (fun _ s' => ¬ Unlocked intent.resourceId s') (fun _ s' => ¬ Unlocked intent.resourceId s')
      s := by
  obtain ⟨w, hw⟩ := hw
  refine can_bind (can_stmt hw rfl ?_)
  exact (can_throw e).mpr h

/-- The database may refuse the transaction at the end. -/
theorem can_endDispatch_refused (hactor : validActor ad.actor = true) {w : World} (hw : A w)
    (hfails : w.fails = true) {Q : Unit → Db → Prop} (h : ¬ Unlocked intent.resourceId s)
    (status : ExecutionStatus) (result : ExecutionResult) (reason : Option String)
    (unlock : Prog Unit) :
    (endDispatch p ad intent id version status result reason unlock).Can A Q
      (fun _ s' => ¬ Unlocked intent.resourceId s') s := by
  refine can_unitOfWork_refused hactor hw hfails ?_
  intro hun
  refine h ?_
  intro lock hlock
  exact hun lock (Cell.committed_rollback.trans hlock)

theorem Unlocked.same {s' : Db} {r : Nat} (hsame : SameLocks s s') (h : Unlocked r s') :
    Unlocked r s := by
  intro lock hlock
  refine h lock ?_
  show (s'.locks r).committed = some lock
  rw [hsame.locks]
  exact hlock

/-- A snapshot is taken or raises, whatever the answer. -/
theorem can_takeSnapshot {leftover : Option String} {containerId : String}
    {Q : ContainerSnapshot → Db → Prop} {X : Err → Db → Prop} {w : World} (hw : A w) (hQ : ∀ post s', SameLocks s s' → Q post s')
    (hX : ∀ e s', SameLocks s s' → X e s') : (takeSnapshot leftover containerId).Can A Q X s := by
  unfold takeSnapshot inspectContainer
  by_cases hhex : hexContainerId containerId = true
  swap
  · rw [if_neg hhex]
    exact can_bind ((can_throw _).mpr (hX _ _ (SameLocks.refl s)))
  rw [if_pos hhex]
  cases hinspect : w.inspect with
  | noClient =>
      refine can_bind (can_stmt (r := .error noDockerClient) hw ?_ (hX _ s (SameLocks.refl s)))
      rw [hinspect]
  | raised text =>
      refine can_bind (can_stmt (r := .error (inspectError containerId text)) hw ?_
        (hX _ s (SameLocks.refl s)))
      rw [hinspect]
  | answered attrs =>
      have hnoted : SameLocks s (s.note (.inspected leftover containerId attrs)) := ⟨rfl, rfl⟩
      refine can_bind (can_stmt (r := .ok attrs) hw ?_ ((can_pure _).mpr (hQ _ _ hnoted)))
      rw [hinspect]

/-- It raises where the container is not inspected. -/
theorem can_takeSnapshot_raised {leftover : Option String} {containerId : String}
    {Q : ContainerSnapshot → Db → Prop} {X : Err → Db → Prop} {w : World} (hw : A w)
    (hraised : ∀ attrs, w.inspect ≠ .answered attrs)
    (hX : ∀ e, X e s) : (takeSnapshot leftover containerId).Can A Q X s := by
  unfold takeSnapshot inspectContainer
  by_cases hhex : hexContainerId containerId = true
  swap
  · rw [if_neg hhex]
    exact can_bind ((can_throw _).mpr (hX _))
  rw [if_pos hhex]
  cases hinspect : w.inspect with
  | noClient =>
      refine can_bind (can_stmt (r := .error noDockerClient) hw ?_ (hX _))
      rw [hinspect]
  | raised text =>
      refine can_bind (can_stmt (r := .error (inspectError containerId text)) hw ?_ (hX _))
      rw [hinspect]
  | answered attrs => exact absurd hinspect (hraised attrs)

theorem can_reconcile {time : Option Int} {pre : Option ContainerSnapshot}
    {Q : ReconciliationOutcome → Db → Prop} {X : Err → Db → Prop} {w : World} (hw : A w)
    (hQ : ∀ recon s', SameLocks s s' → Q recon s') : (reconcile intent time pre).Can A Q X s := by
  refine can_tryCatch (can_bind (can_takeSnapshot hw ?_ ?_))
  · intro post s' hsame
    exact (can_pure _).mpr (hQ _ s' hsame)
  · intro e s' hsame
    exact (can_pure _).mpr (hQ _ s' hsame)

/-- A restart is over, whatever the answer. -/
theorem can_restartContainer {Q : Except Err Unit → Db → Prop} {X : Err → Db → Prop} {w : World}
    (hw : A w) (hQ : ∀ answer s', SameLocks s s' → Q answer s') :
    (restartContainer p intent).Can A Q X s := by
  unfold restartContainer
  refine can_bind (can_stmt hw rfl ?_)
  show Prog.Can A (endRestart p intent) Q X (s.record [.restartIssued p intent])
  unfold endRestart
  by_cases hhex : hexContainerId intent.containerId = true
  swap
  · refine can_stmt (r := .ok (.error (invalidContainerId intent.containerId))) hw ?_
      (hQ _ ((s.record [.restartIssued p intent]).record [.restartEnded p intent]) ⟨rfl, rfl⟩)
    simp only [if_neg hhex]
  cases hrestart : w.restart with
  | noClient =>
      refine can_stmt (r := .ok (.error noDockerClient)) hw ?_
        (hQ _ ((s.record [.restartIssued p intent]).record [.restartEnded p intent]) ⟨rfl, rfl⟩)
      simp only [if_pos hhex, hrestart]
  | raised text =>
      refine can_stmt
        (r := .ok (.error (restartError intent.containerId intent.timeoutSeconds text))) hw ?_
        (hQ _ ((s.record [.restartIssued p intent]).record [.restartEnded p intent]) ⟨rfl, rfl⟩)
      simp only [if_pos hhex, hrestart]
  | answered u =>
      refine can_stmt (r := .ok (.ok ())) hw ?_
        (hQ _ (((s.record [.restartIssued p intent]).record [.restartEnded p intent]).note
          (.restarted p intent)) ⟨rfl, rfl⟩)
      simp only [if_pos hhex, hrestart]

/-- It has returned, where Docker lets restarts return. -/
theorem can_restartContainer_returned {Q : Except Err Unit → Db → Prop} {X : Err → Db → Prop}
    {w : World} (hw : A w) (hhex : hexContainerId intent.containerId = true)
    (hrestart : w.restart = .answered ()) (hQ : ∀ s', SameLocks s s' → Q (.ok ()) s') :
    (restartContainer p intent).Can A Q X s := by
  unfold restartContainer
  refine can_bind (can_stmt hw rfl ?_)
  show Prog.Can A (endRestart p intent) Q X (s.record [.restartIssued p intent])
  unfold endRestart
  refine can_stmt (r := .ok (.ok ())) hw ?_
    (hQ (((s.record [.restartIssued p intent]).record [.restartEnded p intent]).note
      (.restarted p intent)) ⟨rfl, rfl⟩)
  simp only [if_pos hhex, hrestart]

/-- Whatever Docker has answered, the end can be refused. -/
theorem can_concludeDispatch_refused (hactor : validActor ad.actor = true) {w : World} (hw : A w)
    (hfails : w.fails = true) (h : ¬ Unlocked intent.resourceId s) (pre : ContainerSnapshot)
    (time : Int) (answer : Except Err Unit) :
    (concludeDispatch p ad intent pre token id version time answer).Can A
      (fun _ s' => ¬ Unlocked intent.resourceId s') (fun _ s' => ¬ Unlocked intent.resourceId s')
      s := by
  unfold concludeDispatch
  cases answer with
  | ok u =>
      refine can_bind (can_takeSnapshot hw ?_ ?_)
      · intro post s' hsame
        refine can_bind (can_endDispatch_refused hactor hw hfails ?_ _ _ _ _)
        exact fun hun => h (Unlocked.same hsame hun)
      · intro e s' hsame hun
        exact h (Unlocked.same hsame hun)
  | error e =>
      simp only
      by_cases hgone : e.exc = .containerNotFoundError
      · rw [if_pos hgone]
        exact can_bind (can_endDispatch_refused hactor hw hfails h _ _ _ _)
      rw [if_neg hgone]
      refine can_bind (can_reconcile hw ?_)
      intro recon s' hsame
      have h' : ¬ Unlocked intent.resourceId s' := fun hun => h (Unlocked.same hsame hun)
      by_cases hproved : recon.reconciledSuccess = true
      · rw [if_pos hproved]
        exact can_bind (can_endDispatch_refused hactor hw hfails h' _ _ _ _)
      · rw [if_neg hproved]
        exact can_bind (can_endDispatch_refused hactor hw hfails h' _ _ _ _)

/-- The call after its lock transaction, from the Docker call on. -/
theorem can_executeClaimed {w : World} (hw : A w) (pre : ContainerSnapshot)
    (h : ∀ time s', SameLocks s s' → (do
      let answer ← restartContainer p intent
      concludeDispatch p ad intent pre token id version time answer : Prog ExecutionOutcome).Can A
        (fun _ s' => ¬ Unlocked intent.resourceId s') (fun _ s' => ¬ Unlocked intent.resourceId s')
        s') :
    (executeClaimed p ad intent pre (.dispatch token id version)).Can A
      (fun _ s' => ¬ Unlocked intent.resourceId s') (fun _ s' => ¬ Unlocked intent.resourceId s')
      s := by
  refine can_tryCatch (can_bind (can_stmt hw rfl ?_))
  refine (h s.now (s.note (.dispatched p intent s.now)) ⟨rfl, rfl⟩).mono (fun _ _ h => h) ?_
  intro e s' hun
  exact can_raise ⟨w, hw⟩ hun

/-- It leaves the lock if the database may refuse its last transaction. -/
theorem can_executeClaimed_refused (hactor : validActor ad.actor = true) {w : World} (hw : A w)
    (hfails : w.fails = true) (h : ¬ Unlocked intent.resourceId s) (pre : ContainerSnapshot) :
    (executeClaimed p ad intent pre (.dispatch token id version)).Can A
      (fun _ s' => ¬ Unlocked intent.resourceId s') (fun _ s' => ¬ Unlocked intent.resourceId s')
      s := by
  refine can_executeClaimed hw pre ?_
  intro time s₁ h₁
  refine can_bind (can_restartContainer hw ?_)
  intro answer s₂ h₂
  refine can_concludeDispatch_refused hactor hw hfails ?_ pre time answer
  exact fun hun => h (Unlocked.same (h₁.trans h₂) hun)

/-- And if a restart may return and the snapshot after it raise. -/
theorem can_executeClaimed_unseen {w v : World} (hw : A w)
    (hhex : hexContainerId intent.containerId = true) (hrestart : w.restart = .answered ())
    (hv : A v) (hraised : ∀ attrs, v.inspect ≠ .answered attrs)
    (h : ¬ Unlocked intent.resourceId s) (pre : ContainerSnapshot) :
    (executeClaimed p ad intent pre (.dispatch token id version)).Can A
      (fun _ s' => ¬ Unlocked intent.resourceId s') (fun _ s' => ¬ Unlocked intent.resourceId s')
      s := by
  refine can_executeClaimed hw pre ?_
  intro time s₁ h₁
  refine can_bind (can_restartContainer_returned hw hhex hrestart ?_)
  intro s₂ h₂
  refine can_bind (can_takeSnapshot_raised hv hraised ?_)
  intro e hun
  exact h (Unlocked.same (h₁.trans h₂) hun)

end Dispatch

/-! ### When the lock is returned -/

/-- A transaction can commit only for an actor it accepts. -/
theorem validActor_of_can {α : Type} {A : World → Prop} {t : TxId} {actor : String} {body : Prog α}
    {seen : α → List Event} {Q : α → Db → Prop} {db : Db}
    (h : (unitOfWork t actor body seen).Can A Q (fun _ _ => False) db) :
    validActor actor = true := by
  by_contra hnot
  unfold unitOfWork at h
  rw [if_neg hnot, can_throw] at h
  exact h

/-- No run both keeps to a postcondition and can break it. -/
theorem not_always_of_can {α : Type} {A : World → Prop} {x : Prog α} {R : Db → Prop} {s : Db}
    (hcan : x.Can A (fun _ s' => ¬ R s') (fun _ s' => ¬ R s') s) :
    ¬ x.Always A (fun _ => R) (fun _ => R) s := by
  intro h
  obtain ⟨r, s', -, hout⟩ := (hcan.and h).ends
  cases r with
  | ok a => exact hout.1 hout.2
  | error e => exact hout.1 hout.2

/-- **When a call returns its lock.**  From any state in which its lock transaction can commit,
`execute` leaves the resource unlocked or quarantined, however it returns or raises after that, if
and only if the record was still to be dispatched, the database refuses nothing, and a restart
that returns is followed by an inspection that answers. -/
theorem returns_lock_iff (A : World → Prop) (p : Nat) (ad : DockerExecutionAdapter)
    (intent : ExecutionIntent) (pre : ContainerSnapshot) (db : Db)
    (hidle : NothingOpen p intent db)
    (hcommits : (lockTransaction p ad intent).Can A (fun _ _ => True) (fun _ _ => False) db) :
    ReturnsLock p ad intent A pre db ↔
      Undispatched intent db ∧ (∀ w, A w → w.fails = false) ∧ InspectsRestarts intent A := by
  have hactor : validActor ad.actor = true := validActor_of_can hcommits
  have hspec := always_lockTransaction (A := A) p ad intent hidle
  constructor
  · intro hreturns
    -- Some run of the lock transaction commits; what follows it must not leave the lock.
    obtain ⟨r, s, -, hout⟩ := ((hcommits.and hspec).and hreturns).ends
    cases r with
    | error e => exact hout.1.1.elim
    | ok claim =>
        obtain ⟨⟨-, hclaim⟩, hafter⟩ := hout
        cases claim with
        | settled outcome => exact absurd ((always_pure _).mp hafter) hclaim.1
        | dispatch token id version =>
            have hlocked := hclaim.1.not_unlocked
            refine ⟨hclaim.2, ?_, ?_⟩
            · intro w hw
              by_contra hfails
              exact not_always_of_can (can_executeClaimed_refused hactor hw (by simpa using hfails)
                hlocked pre) hafter
            · intro hhex hrestart v hv
              obtain ⟨w, hw, hrestart⟩ := hrestart
              by_contra hraised
              exact not_always_of_can (can_executeClaimed_unseen hw hhex hrestart hv
                (fun attrs heq => hraised ⟨attrs, heq⟩) hlocked pre) hafter
  · intro hcond
    obtain ⟨hun, hsure, hinspects⟩ := hcond
    refine hspec.mono ?_ (fun _ _ h => h)
    intro claim s hclaim
    cases claim with
    | settled outcome => exact absurd hun hclaim.2
    | dispatch token id version =>
        exact always_executeClaimed hsure hactor hinspects hclaim.1 pre

/-- What the container of the restart looked like before. -/
def demoSnapshot : ContainerSnapshot :=
  { containerId := "0123456789ab", name := "demo-api", status := "running" }

/-- A restart that Docker makes and shows, of a plan that has no record yet. -/
theorem returns_lock_iff_clean :
    ReturnsLock 1 ⟨0, "worker:a"⟩ restartDemo (fun w => w = runningContainer) demoSnapshot
      demoPlanned := by
  refine (returns_lock_iff (fun w => w = runningContainer) 1 ⟨0, "worker:a"⟩ restartDemo
    demoSnapshot demoPlanned ⟨rfl, rfl⟩ ?_).mpr ⟨?_, ?_, ?_⟩
  · have hws : ∀ w ∈ List.replicate 20 runningContainer, w = runningContainer := by
      intro w hw
      exact List.eq_of_mem_replicate hw
    exact can_of_passes hws (by decide +kernel)
  · intro e he
    cases he
  · rintro w rfl
    rfl
  · rintro _ _ w rfl
    exact ⟨_, rfl⟩

/-- A run that ends with the lock in its place. -/
theorem not_returnsLock_of_passes {p : Nat} {ad : DockerExecutionAdapter}
    {intent : ExecutionIntent} {pre : ContainerSnapshot} {db : Db} (ws ws' : List World)
    (h : (lockTransaction p ad intent).passes ws db (fun r s =>
      match r with
      | .ok claim => (executeClaimed p ad intent pre claim).passes ws' s (fun _ s' =>
          (s'.lock intent.resourceId).any fun lock => !lock.quarantined)
      | .error _ => false) = true) :
    ¬ ReturnsLock p ad intent (fun _ => True) pre db := by
  intro hreturns
  obtain ⟨r, s, hends, htest⟩ := ends_of_passes h
  cases r with
  | error e => cases htest
  | ok claim =>
      obtain ⟨r', s', hends', hlocked⟩ := ends_of_passes htest
      have hun : Unlocked intent.resourceId s' := by
        have hout := (Always.of_ends hreturns hends).of_ends hends'
        cases r' with
        | ok outcome => exact hout
        | error e => exact hout
      obtain ⟨lock, hlock, hq⟩ := (Option.any_eq_true _ _).mp hlocked
      rw [hun lock hlock] at hq
      cases hq

/-- Another call has made the restart between the early check and the lock transaction. -/
def demoRestarted : Db :=
  { demoPlanned with
    executions := Function.update demoPlanned.executions "restart-1" (Cell.ofRow
      { id := 8, incidentId := 1, planId := some 2, stepId := 3, resourceId := 4,
        attemptNumber := 1, containerId := some "0123456789ab", bindingGeneration := some 1,
        lockToken := some 7, actor := "worker:b", preState := some demoSnapshot,
        status := .succeeded, version := 3, result := .snapshot demoSnapshot,
        uncertaintyReason := none, startedAt := some 0, finishedAt := some 0 }) }

/-- The lock stays when the record is finished already, and when the snapshot after the restart
raises. -/
theorem lock_left_behind :
    ¬ ReturnsLock 1 ⟨0, "worker:a"⟩ restartDemo (fun _ => True) demoSnapshot demoRestarted ∧
      ¬ ReturnsLock 1 ⟨0, "worker:a"⟩ restartDemo (fun _ => True) demoSnapshot demoPlanned := by
  refine ⟨?_, ?_⟩
  · refine not_returnsLock_of_passes (List.replicate 20 runningContainer) [] ?_
    decide +kernel
  · refine not_returnsLock_of_passes (List.replicate 20 runningContainer)
      (List.replicate 3 runningContainer ++
        List.replicate 2 { inspect := .raised "connection refused" }) ?_
    decide +kernel

end SelfHealing
