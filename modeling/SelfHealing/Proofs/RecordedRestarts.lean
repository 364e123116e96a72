/-
Whether a completed restart is recorded.

When Docker has restarted the container and a snapshot has been taken, `execute` finishes the record
and releases the lock, both in one transaction.  The restart may have taken longer than the lock
lasts, and then the lock can be another worker's; or the resource was quarantined meanwhile.
Releasing it raises in that case, and what the transaction has written to the record is undone: the
record stays `RUNNING`, although the restart was made and seen.

The other way to lose the record is that the database refuses a statement of the last transaction.
That is a condition on its answers, and it is read off the exception with which the transaction
ends (`raisedBy_lastTransaction`).

The call is followed step by step.  The others may do anything between two steps, to the lock above
all, except that nobody else finishes the record.
-/
import SelfHealing.Lib.Answers
import SelfHealing.Proofs.LockReturn
import SelfHealing.Proofs.MutationExclusion

namespace SelfHealing

open Interleaving Interleaving.Prog ReadCommitted

/-! ### A call whose restart has returned -/

section Statement

variable (p : Nat) (ad : DockerExecutionAdapter) (intent : ExecutionIntent)

/-- What a transaction of `p` has written to the record, the others leave alone. -/
def Isolated (s s' : Db) : Prop :=
  (s'.executions intent.idempotencyKey).own ⟨p, 0⟩ = (s.executions intent.idempotencyKey).own ⟨p, 0⟩

/-- And from the version on that the call has made of it, nobody else writes the record. -/
structure Unfinished (id version : Nat) (s s' : Db) : Prop where
  isolated : Isolated p intent s s'
  kept : ∀ row, (s.executions intent.idempotencyKey).committed = some row → row.id = id →
    version ≤ row.version → (s'.executions intent.idempotencyKey).committed = some row

theorem Unfinished.refl {id version : Nat} (s : Db) : Unfinished p intent id version s s :=
  ⟨rfl, fun _ hrow _ _ => hrow⟩

/-- The beginning of the last transaction, up to the lock. -/
def finishRestart (id version : Nat) (post : ContainerSnapshot) : Prog Execution := do
  beginTx ⟨p, 0⟩
  finishExecution ⟨p, 0⟩ intent.idempotencyKey id version .succeeded (.snapshot post) none

/-- The last transaction: the record is finished, and the lock is given back. -/
def lastTransaction (token id version : Nat) (post : ContainerSnapshot) : Prog Unit :=
  endDispatch p ad intent id version .succeeded (.snapshot post) none
    (releaseLock ⟨p, 0⟩ ad.actor intent.resourceId token)

/-- A call, from its lock transaction on: it has leave to dispatch, the restart has returned
normally, the snapshot after it was taken, and the last transaction has ended with `r`. -/
structure RestartedCall (token id version : Nat) (post : ContainerSnapshot)
    (claimed during ended : List (Db × Db)) (r : Except Err Unit) : Prop where
  claimed : (lockTransaction p ad intent).Took claimed (.ok (.dispatch token id version))
  during : ∃ noted restarted looked time, during = noted ++ restarted ++ looked ∧
    (dispatchNow p intent).Took noted (.ok time) ∧
    (restartContainer p intent).Took restarted (.ok (.ok ())) ∧
    (takeSnapshot none intent.containerId).Took looked (.ok post)
  ended : (lastTransaction p ad intent token id version post).Took ended r

/-- The database refuses nothing. -/
def Accepts (w : World) : Prop := w.fails = false

/-- In this state `release_lock` looks the lock up, with the record finished before it; and these
are the steps after that. -/
def LooksUpLock (id version : Nat) (post : ContainerSnapshot) (ended : List (Db × Db)) (s : Db)
    (rest : List (Db × Db)) : Prop :=
  ∃ front row, ended = front ++ (s, s) :: rest ∧
    (finishRestart p intent id version post).Took front (.ok row)

/-- The lock, as the transaction sees it, is gone or still the caller's.  One that is marked as
quarantined all the same is written and not deleted, two steps later: then its row is there. -/
def StillHeld (token : Nat) (s : Db) (rest : List (Db × Db)) : Prop :=
  ∀ lock, (s.locks intent.resourceId).visible ⟨p, 0⟩ = some lock →
    lock.token = token ∧ lock.owner = ad.actor ∧
    (lock.quarantined = true → ∀ drawn clock s₁ s₂ after,
      rest = drawn :: clock :: (s₁, s₂) :: after →
      ((s₁.locks intent.resourceId).visible ⟨p, 0⟩).isSome)

/-- The record says that the restart has succeeded. -/
def RestartRecorded (id : Nat) (s : Db) : Prop :=
  ∃ row, (s.executions intent.idempotencyKey).committed = some row ∧ row.id = id ∧
    row.status = .succeeded

end Statement

section Call

variable {p : Nat} {ad : DockerExecutionAdapter} {intent : ExecutionIntent}
  {token id version : Nat} {post : ContainerSnapshot} {claimed during ended : List (Db × Db)}
  {r : Except Err Unit}

/-- Such a call is one of `execute`, under its dispatch lock. -/
theorem RestartedCall.took (h :
    RestartedCall p ad intent token id version post claimed during ended r)
    (pre : ContainerSnapshot) :
    (r = .ok () → (executeLocked p ad intent pre).Took (claimed ++ (during ++ ended))
      (.ok { status := .succeeded, executionId := some id,
             idempotencyKey := intent.idempotencyKey, postState := .snapshot post })) ∧
    ∀ e s, r = .error e → (executeLocked p ad intent pre).Took
      (claimed ++ (during ++ ended ++ [(s, s.record [.returned p intent])])) (.error e) := by
  obtain ⟨noted, restarted, looked, time, rfl, hnoted, hrestarted, hlooked⟩ := h.during
  rw [executeLocked_eq]
  constructor
  · rintro rfl
    refine Took.bind h.claimed (Took.tryCatch ?_)
    rw [List.append_assoc, List.append_assoc]
    refine Took.bind hnoted (Took.bind hrestarted (Took.bind hlooked ?_))
    rw [← List.append_nil ended]
    exact Took.bind h.ended (took_pure.mpr ⟨rfl, rfl⟩)
  · rintro e s rfl
    refine Took.bind h.claimed (Took.caught (e := e) ?_ ?_)
    · rw [List.append_assoc, List.append_assoc]
      exact Took.bind hnoted (Took.bind hrestarted (Took.bind hlooked (Took.raises h.ended)))
    · have hseen : (observe [.returned p intent]).Took [(s, s.record [.returned p intent])]
          (.ok ()) := Proc.Trace.step _ _ {} s _ _ [] _ rfl (Proc.Trace.ret _)
      exact Took.bind hseen (took_throw.mpr ⟨rfl, rfl⟩)

/-! ### What the parts have done -/

/-- The steps of `finish_execution`, and what it returns or raises. -/
inductive FinishSteps (t : TxId) (key : String) (id version : Nat) (status : ExecutionStatus)
    (result : ExecutionResult) (reason : Option String) :
    List (Db × Db) → Except Err Execution → Prop
  | refused (s : Db) : FinishSteps t key id version status result reason [(s, s)]
      (.error databaseError)
  | rejected (s : Db) (e : Err) (h : Execution.admitsFinish version status
      (Execution.withId id ((s.executions key).visible t)) = .error e) :
      FinishSteps t key id version status result reason [(s, s)] (.error e)
  | unwritten (s s₁ : Db) : FinishSteps t key id version status result reason [(s, s), (s₁, s₁)]
      (.error databaseError)
  | overtaken (s s₁ : Db) (e : Err)
    (h : (Execution.withId id ((s₁.executions key).visible t)).filter
      (fun row => row.version = version) = none) :
      FinishSteps t key id version status result reason [(s, s), (s₁, s₁)] (.error e)
  | finished (s s₁ : Db) (row : Execution) (hid : row.id = id)
    (hversion : row.version = version + 1)
      (hstatus : row.status = status) : FinishSteps t key id version status result reason
        [(s, s), (s₁, s₁.setExecution key ((s₁.executions key).write t (some row)))] (.ok row)

theorem took_finishExecution {t : TxId} {key : String} {status : ExecutionStatus}
    {result : ExecutionResult} {reason : Option String} {l : List (Db × Db)}
    {q : Except Err Execution}
    (h : (finishExecution t key id version status result reason).Took l q) :
    FinishSteps t key id version status result reason l q := by
  unfold finishExecution at h
  rcases took_bind h with ⟨found, l₁, l₂, rfl, hread, hrest⟩ | ⟨e, hread, rfl⟩
  swap
  · obtain ⟨s, rfl, heq | hbad⟩ := took_select hread
    · simp only [Except.error.injEq] at heq
      rw [heq]
      exact .refused s
    · simp at hbad
  obtain ⟨s, rfl, rfl⟩ := took_select_ok hread
  rcases took_bind hrest with ⟨u, l₃, l₄, rfl, hcheck, hupdate⟩ | ⟨e, hcheck, rfl⟩
  swap
  · obtain ⟨rfl, hrejected⟩ := took_check hcheck
    exact .rejected s e hrejected.symm
  obtain ⟨rfl, -⟩ := took_check hcheck
  rcases took_bind hupdate with ⟨updated, l₅, l₆, rfl, hwrite, hend⟩ | ⟨e, hwrite, rfl⟩
  swap
  · obtain ⟨s₁, s₂, rfl, ⟨heq, rfl⟩ | hf⟩ := took_sql hwrite
    · simp only [Except.error.injEq] at heq
      rw [heq]
      exact .unwritten s s₂
    · simp only at hf
      split at hf
      · simp at hf
      · split at hf
        · simp at hf
        · simp at hf
  obtain ⟨s₁, s₂, rfl, ⟨hbad, -⟩ | hf⟩ := took_sql hwrite
  · simp at hbad
  simp only at hf
  split at hf
  · rename_i hnone
    simp only [Option.some.injEq, Prod.mk.injEq, Except.ok.injEq] at hf
    obtain ⟨rfl, rfl⟩ := hf
    obtain ⟨rfl, rfl⟩ := took_throw.mp hend
    exact .overtaken s s₁ _ hnone
  · rename_i old hold
    split at hf
    · simp only [Option.some.injEq, Prod.mk.injEq, Except.ok.injEq] at hf
      obtain ⟨rfl, rfl⟩ := hf
      obtain ⟨rfl, rfl⟩ := took_pure.mp hend
      obtain ⟨hfound, -⟩ := Option.filter_eq_some_iff.mp hold
      obtain ⟨-, hid⟩ := Option.filter_eq_some_iff.mp hfound
      exact .finished s s₁ _ (of_decide_eq_true hid) rfl rfl
    · simp at hf

/-! ### The record while it is `RUNNING` -/

/-- The record is `RUNNING`, in the version of the call. -/
def Running (intent : ExecutionIntent) (id version : Nat) (s : Db) : Prop :=
  ∃ row, (s.executions intent.idempotencyKey).committed = some row ∧ row.id = id ∧
    row.version = version ∧ row.status = .running

/-- And the call has written nothing on top of it. -/
structure StillRunning (p : Nat) (intent : ExecutionIntent) (id version : Nat) (s : Db) : Prop where
  running : Running intent id version s
  unwritten : (s.executions intent.idempotencyKey).own ⟨p, 0⟩ = []

theorem Running.others {s s' : Db} (h : Running intent id version s)
    (hothers : Unfinished p intent id version s s') : Running intent id version s' := by
  obtain ⟨row, hrow, hid, hversion, hrunning⟩ := h
  exact ⟨row, hothers.kept row hrow hid (by omega), hid, hversion, hrunning⟩

theorem Running.same {s s' : Db} (h : Running intent id version s)
    (hsame : (s'.executions intent.idempotencyKey).committed =
      (s.executions intent.idempotencyKey).committed) : Running intent id version s' := by
  unfold Running
  rw [hsame]
  exact h

theorem StillRunning.others {s s' : Db} (h : StillRunning p intent id version s)
    (hothers : Unfinished p intent id version s s') : StillRunning p intent id version s' := by
  refine ⟨h.running.others hothers, ?_⟩
  rw [hothers.isolated]
  exact h.unwritten

theorem StillRunning.same {s s' : Db} (h : StillRunning p intent id version s)
    (hsame : s'.executions = s.executions) : StillRunning p intent id version s' := by
  refine ⟨h.running.same (by rw [hsame]), ?_⟩
  rw [hsame]
  exact h.unwritten

/-- A record that is `RUNNING` has not succeeded. -/
theorem Running.not_recorded {s : Db} (h : Running intent id version s) :
    ¬ RestartRecorded intent id s := by
  obtain ⟨row, hrow, -, -, hrunning⟩ := h
  rintro ⟨row', hrow', -, hsucceeded⟩
  rw [hrow, Option.some.injEq] at hrow'
  rw [← hrow', hrunning] at hsucceeded
  cases hsucceeded

/-- It may be finished. -/
theorem StillRunning.admits {s : Db} (h : StillRunning p intent id version s) :
    Execution.admitsFinish version .succeeded
      (Execution.withId id ((s.executions intent.idempotencyKey).visible ⟨p, 0⟩)) = .ok () ∧
    (Execution.withId id ((s.executions intent.idempotencyKey).visible ⟨p, 0⟩)).filter
      (fun row => row.version = version) ≠ none := by
  obtain ⟨row, hrow, hid, hversion, hrunning⟩ := h.running
  have hvisible : (s.executions intent.idempotencyKey).visible ⟨p, 0⟩ = some row := by
    rw [Cell.visible_eq_committed h.unwritten]
    exact hrow
  have hfound : Execution.withId id (some row) = some row :=
    Option.filter_eq_some_iff.mpr ⟨rfl, by simpa using hid⟩
  have hfilter : (some row).filter (fun row : Execution => row.version = version) = some row :=
    Option.filter_eq_some_iff.mpr ⟨rfl, by simpa using hversion⟩
  rw [hvisible, hfound, hfilter]
  refine ⟨?_, by simp⟩
  unfold Execution.admitsFinish
  simp only
  rw [if_neg (by simp [hversion]), if_neg (by simp [hrunning, ExecutionStatus.allowed])]
  rfl

/-- The last step of a lock transaction that gives leave to dispatch. -/
theorem took_claimExecution {l : List (Db × Db)}
    (h : (claimExecution p ad intent).Took l (.ok (.dispatch token id version))) :
    ∃ front s row, l = front ++ [(s, s.setExecution intent.idempotencyKey
        ((s.executions intent.idempotencyKey).write ⟨p, 0⟩ (some row)))] ∧
      row.id = id ∧ row.version = version ∧ row.status = .running := by
  obtain ⟨taken, l₁, l₂, rfl, -, hrest⟩ := took_bind_ok h
  obtain ⟨record, l₃, l₄, rfl, -, hsettle⟩ := took_bind_ok hrest
  have hdispatch : (do
      let running ← finishExecution ⟨p, 0⟩ intent.idempotencyKey record.id record.version .running
        (.dispatchIntent intent)
      pure (.dispatch taken record.id running.version) : Prog Claim).Took l₄
        (.ok (.dispatch token id version)) →
      ∃ front s row, l₄ = front ++ [(s, s.setExecution intent.idempotencyKey
          ((s.executions intent.idempotencyKey).write ⟨p, 0⟩ (some row)))] ∧
        row.id = id ∧ row.version = version ∧ row.status = .running := by
    intro hrun
    obtain ⟨running, l₅, l₆, rfl, hfinish, hpure⟩ := took_bind_ok hrun
    obtain ⟨rfl, heq⟩ := took_pure.mp hpure
    simp only [Except.ok.injEq, Claim.dispatch.injEq] at heq
    obtain ⟨-, rfl, rfl⟩ := heq
    cases took_finishExecution hfinish with
    | finished s s₁ row hid hversion hstatus =>
        exact ⟨[(s, s)], s₁, running, by simp, hid, rfl, hstatus⟩
  obtain ⟨front, s, row, rfl, hrow⟩ : ∃ front s row, l₄ = front ++ [(s, s.setExecution
      intent.idempotencyKey ((s.executions intent.idempotencyKey).write ⟨p, 0⟩ (some row)))] ∧
        row.id = id ∧ row.version = version ∧ row.status = .running := by
    cases hst : record.status with
    | succeeded =>
        rw [hst] at hsettle
        obtain ⟨-, hbad⟩ := took_pure.mp hsettle
        simp at hbad
    | failed =>
        rw [hst] at hsettle
        obtain ⟨-, hbad⟩ := took_pure.mp hsettle
        simp at hbad
    | running =>
        rw [hst] at hsettle
        obtain ⟨post, l₅, l₆, -, -, hfinish⟩ := took_bind_ok hsettle
        obtain ⟨row, l₇, l₈, -, -, hpure⟩ := took_bind_ok hfinish
        obtain ⟨-, hbad⟩ := took_pure.mp hpure
        simp at hbad
    | pending =>
        rw [hst] at hsettle
        exact hdispatch hsettle
    | rolledback =>
        rw [hst] at hsettle
        exact hdispatch hsettle
  exact ⟨l₁ ++ (l₃ ++ front), s, row, by simp, hrow⟩

/-- **What the lock transaction has committed**: the record is `RUNNING`. -/
theorem stillRunning_of_claimed {first last : Db}
    (h : (lockTransaction p ad intent).Took claimed (.ok (.dispatch token id version)))
    (hothers : Between (Unfinished p intent id version) first claimed last) :
    StillRunning p intent id version last := by
  rcases took_unitOfWork_block h with ⟨-, e, hbad⟩ | hblock
  · simp at hbad
  cases hblock with
  | committed _ s s' l hbody =>
      obtain ⟨front, u, row, rfl, hid, hversion, hrunning⟩ := took_claimExecution hbody
      simp only [← List.cons_append, List.append_assoc, List.singleton_append] at hothers
      obtain ⟨mid, -, -, hwritten, hcommitted⟩ := hothers.split (Unfinished.refl p intent)
      have hown : (s'.executions intent.idempotencyKey).own ⟨p, 0⟩ =
          some row :: (u.executions intent.idempotencyKey).own ⟨p, 0⟩ := by
        rw [hwritten.isolated]
        simp [Db.setExecution]
      refine StillRunning.others ⟨⟨row, ?_, hid, hversion, hrunning⟩, Cell.own_commit⟩ hcommitted
      exact (Cell.commit_of_own hown).1

/-! ### While Docker is at work -/

theorem sameLocks_restartContainer (p : Nat) (intent : ExecutionIntent) :
    Within SameLocks (restartContainer p intent) := by
  refine Within.bind (sameLocks_observe _) (fun _ => within_stmt ?_)
  intro w s r s' hf
  simp only at hf
  split at hf
  · split at hf
    all_goals
      simp only [Option.some.injEq, Prod.mk.injEq] at hf
      rw [← hf.2]
      exact ⟨rfl, rfl⟩
  · simp only [Option.some.injEq, Prod.mk.injEq] at hf
    rw [← hf.2]
    exact ⟨rfl, rfl⟩

/-- Until the last transaction, the call leaves its record alone. -/
theorem RestartedCall.stillRunning
    (h : RestartedCall p ad intent token id version post claimed during ended r) {first last : Db}
    (hothers : Between (Unfinished p intent id version) first (claimed ++ during) last) :
    StillRunning p intent id version last := by
  obtain ⟨mid, hclaimed, hduring⟩ := hothers.split (Unfinished.refl p intent)
  obtain ⟨noted, restarted, looked, time, rfl, hnoted, hrestarted, hlooked⟩ := h.during
  refine hduring.keeps (P := StillRunning p intent id version)
    (fun _ _ hmove h => h.others hmove) ?_
    (stillRunning_of_claimed h.claimed hclaimed)
  intro q hq hstill
  have hsame : SameLocks q.1 q.2 := by
    rcases List.mem_append.mp hq with hq | hq
    · rcases List.mem_append.mp hq with hq | hq
      · exact (sameLocks_dispatchNow p intent).began hnoted.began q hq
      · exact (sameLocks_restartContainer p intent).began hrestarted.began q hq
    · exact (sameLocks_takeSnapshot _ _).began hlooked.began q hq
  exact hstill.same hsame.executions

/-! ### Refused statements

The exception of a refused statement is one that nothing else raises in the last transaction: the
checks of the record and of the lock raise others, and so does an update that finds its row gone.
The handler of the transaction raises again what it was given.
-/

section Refusals

variable {α : Type} {t : TxId}

/-- A statement that the database may refuse, whatever the refusal leaves of the transaction. -/
theorem raisedBy_refusal {f : Db → Option (Except Err α × Db)} {left : Db → Db}
    (h : ∀ s s', f s ≠ some (.error databaseError, s')) :
    RaisedBy Accepts databaseError (stmt fun w db =>
      if w.fails then some (.error databaseError, left db) else f db) := by
  refine raisedBy_stmt ?_ ?_
  · intro w s r s' hf hr
    by_cases hw : w.fails = true
    · rw [if_pos hw, Option.some.injEq, Prod.mk.injEq] at hf
      exact absurd hf.1.symm hr
    · exact ⟨w, by simpa [Accepts] using hw, hf⟩
  · intro w s s' hw hf
    rw [if_neg (by simpa [Accepts] using hw)] at hf
    exact h s s' hf

theorem raisedBy_sql {f : Db → Option (Except Err α × Db)}
    (h : ∀ s s', f s ≠ some (.error databaseError, s')) :
    RaisedBy Accepts databaseError (sql f) := raisedBy_refusal h

theorem raisedBy_select (f : Db → α) : RaisedBy Accepts databaseError (select f) :=
  raisedBy_sql (by simp)

/-- A statement that is not one of the database's. -/
theorem raisedBy_unasked {f : Db → α × Db} :
    RaisedBy Accepts databaseError (stmt fun _ db => some (.ok (f db).1, (f db).2)) :=
  raisedBy_stmt (fun _ _ _ _ hf _ => ⟨{}, rfl, hf⟩) (by simp)

theorem raisedBy_check {x : Except Err α} (h : x ≠ .error databaseError) :
    RaisedBy Accepts databaseError (check x) := by
  cases x with
  | ok a => exact raisedBy_pure a
  | error e => exact raisedBy_throw (fun heq => h (congrArg Except.error heq))

theorem raisedBy_unitOfWork {actor : String} {body : Prog α} {seen : α → List Event}
    (hbody : RaisedBy Accepts databaseError body) :
    RaisedBy Accepts databaseError (unitOfWork t actor body seen) := by
  have hbegin : RaisedBy Accepts databaseError (beginTx t) := raisedBy_sql (by simp)
  have hcommit : ∀ evs, RaisedBy Accepts databaseError (commitTx t evs) := by
    intro evs
    exact raisedBy_refusal (by simp)
  have hrollback : RaisedBy Accepts databaseError (rollbackTx t) :=
    raisedBy_unasked (f := fun db => ((), db.rollback t))
  unfold unitOfWork
  split
  swap
  · exact raisedBy_throw (by decide)
  refine raisedBy_tryCatch ?_ ?_ ?_
  · exact raisedBy_bind hbegin fun _ => raisedBy_bind hbody fun a =>
      raisedBy_bind (hcommit _) fun _ => raisedBy_pure a
  · intro e hne
    exact raisedBy_bind hrollback fun _ => raisedBy_throw hne
  · intro steps r htook
    obtain ⟨s, -, hr⟩ := took_undone htook
    exact hr

/-- What is wrong with a record that may not be finished is not for the database to say. -/
theorem admitsFinish_ne (status : ExecutionStatus) (row : Option Execution) :
    Execution.admitsFinish version status row ≠ .error databaseError := by
  unfold Execution.admitsFinish
  cases row with
  | none => simp [databaseError, throw, throwThe, MonadExceptOf.throw]
  | some execution =>
      dsimp only
      split
      · simp [databaseError, throw, throwThe, MonadExceptOf.throw]
      · split
        · simp [databaseError, throw, throwThe, MonadExceptOf.throw]
        · simp [pure, Except.pure]

theorem raisedBy_finishExecution (key : String) (status : ExecutionStatus)
    (result : ExecutionResult) (reason : Option String) :
    RaisedBy Accepts databaseError (finishExecution t key id version status result reason) := by
  unfold finishExecution
  refine raisedBy_bind (raisedBy_select _) fun found => ?_
  refine raisedBy_bind (raisedBy_check (admitsFinish_ne _ _)) fun _ => ?_
  refine raisedBy_bind (raisedBy_sql ?_) fun updated => ?_
  · intro s s' hf
    simp only at hf
    split at hf
    · simp at hf
    · split at hf
      · simp at hf
      · simp at hf
  · cases updated with
    | none => exact raisedBy_throw (by decide)
    | some row => exact raisedBy_pure row

theorem raisedBy_releaseLock (actor : String) (resourceId token : Nat) :
    RaisedBy Accepts databaseError (releaseLock t actor resourceId token) := by
  have hdraw : ∀ p, RaisedBy Accepts databaseError (uuid4 p) := fun p =>
    raisedBy_unasked (f := fun db => (db.nextId, db.draw p))
  have hclock : RaisedBy Accepts databaseError datetimeNow :=
    raisedBy_unasked (f := fun db => (db.now, db))
  have hstale : staleDataError ≠ databaseError := by decide
  unfold releaseLock
  refine raisedBy_bind (raisedBy_select _) fun found => ?_
  cases found with
  | none => exact raisedBy_pure ()
  | some lock =>
      dsimp only
      split
      · exact raisedBy_throw (by decide)
      split
      · refine raisedBy_bind (hdraw _) fun _ => raisedBy_bind hclock fun _ => raisedBy_sql ?_
        intro s s' hf
        simp only at hf
        split at hf
        · simp [hstale] at hf
        · split at hf
          · simp at hf
          · simp at hf
      · refine raisedBy_sql ?_
        intro s s' hf
        simp only at hf
        split at hf
        · simp at hf
        · split at hf
          · simp at hf
          · simp at hf

/-- **The last transaction raises that exception exactly where the database refuses a statement.** -/
theorem raisedBy_lastTransaction :
    RaisedBy Accepts databaseError (lastTransaction p ad intent token id version post) :=
  raisedBy_unitOfWork (raisedBy_bind (raisedBy_finishExecution _ _ _ _) fun _ =>
    raisedBy_releaseLock _ _ _)

end Refusals

/-! ### The last transaction

It is committed if and only if nothing in it raises.  What may raise in it are the refusals of the
database and the lookup of the lock; that the record is finished cannot fail otherwise, since
nobody has written it since the call made it `RUNNING`.
-/

/-- Releasing a lock does not touch the records. -/
theorem sameRecords_releaseLock (t : TxId) (actor : String) (resourceId token : Nat) :
    Within (fun s s' : Db => s'.executions = s.executions)
      (releaseLock t actor resourceId token) :=
  releaseLock_within (S := fun s s' => s'.executions = s.executions) (fun _ => rfl) (fun _ => rfl)
    (fun _ _ => rfl) actor token

/-- Unless the database refuses a statement, releasing succeeds exactly if the lock that is found is
gone or the caller's. -/
theorem took_releaseLock {l : List (Db × Db)} {q : Except Err Unit}
    (h : (releaseLock ⟨p, 0⟩ ad.actor intent.resourceId token).Took l q)
    (haccepted : q ≠ .error databaseError) :
    ∃ s rest, l = (s, s) :: rest ∧
      ∀ after, q = .ok () ↔ StillHeld p ad intent token s (rest ++ after) := by
  rcases took_bind h with ⟨found, l₁, l₂, rfl, hread, hrest⟩ | ⟨e, hread, rfl⟩
  swap
  · obtain ⟨s, -, heq | hbad⟩ := took_select hread
    · simp only [Except.error.injEq] at heq
      rw [heq] at haccepted
      exact absurd rfl haccepted
    · simp at hbad
  obtain ⟨s, rfl, hfound⟩ := took_select_ok hread
  refine ⟨s, l₂, rfl, fun after => ?_⟩
  unfold StillHeld
  rw [← hfound]
  cases found with
  | none =>
      obtain ⟨-, rfl⟩ := took_pure.mp hrest
      simp
  | some lock =>
      simp only [Option.some.injEq, forall_eq'] at hrest ⊢
      by_cases hother : lock.token ≠ token ∨ lock.owner ≠ ad.actor
      · rw [if_pos hother] at hrest
        obtain ⟨-, rfl⟩ := took_throw.mp hrest
        refine iff_of_false (by simp) ?_
        rintro ⟨htoken, howner, -⟩
        rcases hother with h | h
        · exact h htoken
        · exact h howner
      · rw [if_neg hother] at hrest
        simp only [not_or, ne_eq, not_not] at hother
        by_cases hq : lock.quarantined = true
        · rw [if_pos hq] at hrest
          rcases took_bind hrest with ⟨fresh, l₃, l₄, rfl, hfresh, hnow⟩ | ⟨e, hfresh, -⟩
          swap
          · obtain ⟨n, hbad⟩ := took_uuid4 hfresh
            simp at hbad
          rcases took_bind hnow with ⟨now, l₅, l₆, rfl, hclock, hdisown⟩ | ⟨e, hnow, -⟩
          swap
          · obtain ⟨s', -, hbad⟩ := took_datetimeNow hnow
            simp at hbad
          obtain ⟨w, u, u', rfl, -⟩ := took_stmt hfresh
          obtain ⟨v, rfl, -⟩ := took_datetimeNow hclock
          obtain ⟨s₁, s₂, rfl, ⟨hbad, -⟩ | hf⟩ := took_sql hdisown
          · exact absurd hbad haccepted
          simp only at hf
          cases hrow : (s₁.locks intent.resourceId).visible ⟨p, 0⟩ with
          | none =>
              rw [hrow] at hf
              simp only [Option.some.injEq, Prod.mk.injEq] at hf
              rw [← hf.1]
              refine iff_of_false (by simp) ?_
              rintro ⟨-, -, hthere⟩
              have hsome := hthere hq _ _ _ _ _ rfl
              rw [hrow] at hsome
              cases hsome
          | some row =>
              rw [hrow] at hf
              simp only at hf
              split at hf
              swap
              · simp at hf
              simp only [Option.some.injEq, Prod.mk.injEq] at hf
              refine iff_of_true hf.1.symm ⟨hother.1, hother.2, ?_⟩
              intro _ drawn clock t₁ t₂ later heq
              simp only [List.cons_append, List.nil_append, List.cons.injEq, Prod.mk.injEq] at heq
              rw [← heq.2.2.1.1, hrow]
              rfl
        · rw [if_neg hq] at hrest
          obtain ⟨s₁, s₂, rfl, ⟨hbad, -⟩ | hf⟩ := took_sql hrest
          · exact absurd hbad haccepted
          refine iff_of_true ?_ ⟨hother.1, hother.2, fun hquarantined => absurd hquarantined hq⟩
          simp only at hf
          split at hf
          · simp only [Option.some.injEq, Prod.mk.injEq] at hf
            exact hf.1.symm
          · split at hf
            · simp only [Option.some.injEq, Prod.mk.injEq] at hf
              exact hf.1.symm
            · simp at hf

/-- Nothing but a commit finishes a record. -/
theorem running_finishExecution (status : ExecutionStatus) (result : ExecutionResult)
    (reason : Option String) : Within (fun s s' : Db => Running intent id version s →
      Running intent id version s')
      (finishExecution ⟨p, 0⟩ intent.idempotencyKey id version status result reason) := by
  refine finishExecution_within (fun _ h => h) (fun s v h => ?_) id version status result reason
  exact h.same (by simp [Db.setExecution, Cell.committed])

/-- A last transaction that raises leaves the record `RUNNING`. -/
theorem running_of_raised {first last : Db} {e : Err}
    (h : (lastTransaction p ad intent token id version post).Took ended (.error e))
    (hothers : Between (Unfinished p intent id version) first ended last)
    (hrunning : Running intent id version first) : Running intent id version last := by
  have hsteps := took_unitOfWork_raised
    (S := fun s s' => Running intent id version s → Running intent id version s')
    (fun _ h => h) (fun _ h => h)
    (fun s h => h.same (show ((s.executions _).rollback ⟨p, 0⟩).committed = _ from
      Cell.committed_rollback))
    (Within.bind (running_finishExecution _ _ _) (fun _ =>
      (sameRecords_releaseLock _ _ _ _).mono (fun s s' hsame h => h.same (by rw [hsame])))) h
  exact hothers.keeps (fun _ _ hmove h => h.others hmove) hsteps hrunning

/-- The record can be finished, unless the database refuses a statement. -/
theorem refused_of_finish_raised {first last : Db} {l : List (Db × Db)} {e : Err}
    (h : (finishExecution ⟨p, 0⟩ intent.idempotencyKey id version .succeeded (.snapshot post)
      none).Took l (.error e))
    (hothers : Between (Unfinished p intent id version) first l last)
    (hstill : StillRunning p intent id version first) : e = databaseError := by
  generalize hq : (Except.error e : Except Err Execution) = q at h
  cases took_finishExecution h with
  | refused s => exact Except.error.inj hq
  | unwritten s s₁ => exact Except.error.inj hq
  | rejected s e' hrejected =>
      have hs := hstill.others hothers.1
      rw [hs.admits.1] at hrejected
      cases hrejected
  | overtaken s s₁ e' hnone =>
      have hs₁ := (hstill.others hothers.1).others hothers.2.1
      exact absurd hnone hs₁.admits.2
  | finished s s₁ row hid hversion hstatus => cases hq

/-- There is one state in which the lock is looked up. -/
theorem LooksUpLock.unique {s s' : Db} {rest rest' : List (Db × Db)}
    (h : LooksUpLock p intent id version post ended s rest)
    (h' : LooksUpLock p intent id version post ended s' rest') : s = s' ∧ rest = rest' := by
  have hlength : ∀ {front : List (Db × Db)} {row : Execution},
      (finishRestart p intent id version post).Took front (.ok row) → front.length = 3 := by
    intro front row hfront
    obtain ⟨u, l, l', rfl, hbegin, hfinish⟩ := took_bind_ok hfront
    obtain ⟨s, ⟨-, hbad⟩ | ⟨rfl, -⟩⟩ := took_beginTx hbegin
    · simp at hbad
    cases took_finishExecution hfinish with
    | finished s₁ s₂ row hid hversion hstatus => rfl
  obtain ⟨front, row, heq, hfront⟩ := h
  obtain ⟨front', row', heq', hfront'⟩ := h'
  rw [heq] at heq'
  obtain ⟨-, hrest⟩ := List.append_inj heq' ((hlength hfront).trans (hlength hfront').symm)
  obtain ⟨hstate, hrest⟩ := List.cons.inj hrest
  exact ⟨(Prod.mk.inj hstate).1, hrest⟩

/-- The lock is looked up when the record is finished. -/
theorem looksUpLock_of_finished {l : List (Db × Db)} {row : Execution}
    (h : (finishExecution ⟨p, 0⟩ intent.idempotencyKey id version .succeeded (.snapshot post)
      none).Took l (.ok row)) (s u : Db) (rest : List (Db × Db)) :
    LooksUpLock p intent id version post ((s, s.started ⟨p, 0⟩) :: (l ++ (u, u) :: rest)) u rest := by
  have hbegin : (beginTx ⟨p, 0⟩).Took [(s, s.started ⟨p, 0⟩)] (.ok ()) :=
    Proc.Trace.step _ _ {} s _ _ [] _ rfl (Proc.Trace.ret _)
  exact ⟨(s, s.started ⟨p, 0⟩) :: l, row, rfl, Took.bind hbegin h⟩

/-- What the last transaction commits when it returns. -/
theorem recorded_of_returned {first last : Db}
    (h : (lastTransaction p ad intent token id version post).Took ended (.ok ()))
    (hothers : Between (Unfinished p intent id version) first ended last) :
    RestartRecorded intent id last ∧ ∃ s rest,
      LooksUpLock p intent id version post ended s rest ∧ StillHeld p ad intent token s rest := by
  rcases took_unitOfWork_block h with ⟨-, e, hbad⟩ | hblock
  · simp at hbad
  cases hblock with
  | committed _ s s' l hbody =>
      obtain ⟨row, l₁, l₂, rfl, hfinish, hrelease⟩ := took_bind_ok hbody
      obtain ⟨u, rest, rfl, hheld⟩ := took_releaseLock hrelease (by simp)
      have hlooks := looksUpLock_of_finished hfinish s u
        (rest ++ [(s', (s'.commit ⟨p, 0⟩).record [.returned p intent])])
      refine ⟨?_, u, _, by simpa using hlooks, (hheld _).mp rfl⟩
      cases took_finishExecution hfinish with
      | finished v w row hid hversion hstatus =>
          -- the write stays on top while the lock is released
          simp only [List.cons_append, List.nil_append] at hothers
          obtain ⟨-, -, -, hafter⟩ := hothers
          obtain ⟨mid, hreleased, hcommit, hend⟩ := Between.split (l := (u, u) :: rest)
            (Unfinished.refl p intent) hafter
          have hwritten : ∃ vs, (mid.executions intent.idempotencyKey).own ⟨p, 0⟩ =
              some row :: vs := by
            refine hreleased.keeps (P := fun db => ∃ vs,
              (db.executions intent.idempotencyKey).own ⟨p, 0⟩ = some row :: vs) ?_ ?_ ?_
            · rintro x y hmove ⟨vs, hvs⟩
              exact ⟨vs, hmove.isolated.trans hvs⟩
            · rintro q hq ⟨vs, hvs⟩
              have hsame := (sameRecords_releaseLock _ _ _ _).began hrelease.began q hq
              exact ⟨vs, by rw [hsame, hvs]⟩
            · refine ⟨(w.executions intent.idempotencyKey).own ⟨p, 0⟩, ?_⟩
              simp [Db.setExecution]
          obtain ⟨vs, hvs⟩ := hwritten
          have hcommitted : (s'.executions intent.idempotencyKey).own ⟨p, 0⟩ = some row :: vs :=
            hcommit.isolated.trans hvs
          have hrow := (Cell.commit_of_own hcommitted).1
          exact ⟨row, hend.kept row hrow hid (by omega), hid, hstatus⟩

/-- Where the last transaction raises without a refusal of the database, it has looked the lock up,
and the lock was gone over to somebody else. -/
theorem not_held_of_raised {first last : Db} {e : Err} (hactor : validActor ad.actor = true)
    (h : (lastTransaction p ad intent token id version post).Took ended (.error e))
    (hothers : Between (Unfinished p intent id version) first ended last)
    (hstill : StillRunning p intent id version first)
    (haccepted : (Except.error e : Except Err Unit) ≠ .error databaseError) :
    ∃ s rest, LooksUpLock p intent id version post ended s rest ∧
      ¬ StillHeld p ad intent token s rest := by
  rcases took_unitOfWork_block h with ⟨hrefused, -⟩ | hblock
  · rw [hactor] at hrefused
    cases hrefused
  generalize hq : (Except.error e : Except Err Unit) = q at hblock haccepted
  cases hblock with
  | refused s₀ s' => exact absurd rfl haccepted
  | lost a s₀ s' s'' l hbody => exact absurd rfl haccepted
  | committed a s₀ s' l hbody => cases hq
  | raised e' s₀ s' l hbody =>
      rcases took_bind hbody with ⟨row, l₁, l₂, rfl, hfinish, hrelease⟩ | ⟨e'', hfinish, he⟩
      · obtain ⟨u, rest, rfl, hheld⟩ := took_releaseLock hrelease haccepted
        have hlooks := looksUpLock_of_finished hfinish s₀ u
          (rest ++ [(s', s'.rollback ⟨p, 0⟩)])
        refine ⟨u, _, by simpa using hlooks, fun hu => ?_⟩
        cases (hheld _).mpr hu
      · obtain ⟨hfirst, hrest⟩ := hothers
        obtain ⟨mid, hbody', -⟩ := Between.split (Unfinished.refl p intent) hrest
        have hbegun : StillRunning p intent id version (s₀.started ⟨p, 0⟩) :=
          (hstill.others hfirst).same rfl
        have hrefused := refused_of_finish_raised hfinish hbody' hbegun
        rw [he, hrefused] at haccepted
        exact absurd rfl haccepted

/-- **When a completed restart is recorded.**  For every call whose restart has returned normally
and whose snapshot after it was taken, whatever the others have done between its steps as long as
nobody else has written the record since: the record says `SUCCEEDED` in the end if and only if the
database has refused no statement of the last transaction, and the lock, when `release_lock` looks
it up there, is gone or still the caller's. -/
theorem restart_recorded_iff
    (h : RestartedCall p ad intent token id version post claimed during ended r) {first last : Db}
    (hothers : Between (Unfinished p intent id version) first (claimed ++ during ++ ended) last) :
    RestartRecorded intent id last ↔
      (lastTransaction p ad intent token id version post).TookWith Accepts ended r ∧
      ∀ s rest, LooksUpLock p intent id version post ended s rest →
        StillHeld p ad intent token s rest := by
  obtain ⟨mid, hbefore, hended⟩ := hothers.split (Unfinished.refl p intent)
  have hstill := h.stillRunning hbefore
  have haccepted : (lastTransaction p ad intent token id version post).TookWith Accepts ended r ↔
      r ≠ .error databaseError := raisedBy_lastTransaction.tookWith_iff h.ended
  rw [haccepted]
  cases r with
  | ok u =>
      obtain ⟨hrecorded, s, rest, hlooks, hheld⟩ := recorded_of_returned h.ended hended
      refine iff_of_true hrecorded ⟨by simp, fun s' rest' hlooks' => ?_⟩
      obtain ⟨rfl, rfl⟩ := hlooks'.unique hlooks
      exact hheld
  | error e =>
      have hrunning := running_of_raised h.ended hended hstill.running
      refine iff_of_false hrunning.not_recorded ?_
      rintro ⟨haccepted, hall⟩
      obtain ⟨s, rest, hlooks, hnot⟩ := not_held_of_raised (validActor_of_took h.claimed) h.ended
        hended hstill haccepted
      exact hnot (hall s rest hlooks)

end Call

/-- Run alone, a call comes to its last transaction, and its record ends with this status. -/
def restartsAlone (p : Nat) (ad : DockerExecutionAdapter) (intent : ExecutionIntent)
    (ws : List World) (db : Db) (status : ExecutionStatus) : Bool :=
  (lockTransaction p ad intent).passes ws db fun r s => match r with
    | .ok (.dispatch token id version) => (dispatchNow p intent).passes ws s fun r s => match r with
      | .error _ => false
      | .ok _ => (restartContainer p intent).passes ws s fun r s => match r with
        | .ok (.ok ()) => (takeSnapshot none intent.containerId).passes ws s fun r s => match r with
          | .error _ => false
          | .ok post => (endDispatch p ad intent id version .succeeded (.snapshot post) none
              (releaseLock ⟨p, 0⟩ ad.actor intent.resourceId token)).passes ws s fun _ s =>
            (s.executions intent.idempotencyKey).committed.any fun row =>
              decide (row.id = id ∧ row.status = status)
        | _ => false
    | _ => false

theorem restartedCall_of_alone {p : Nat} {ad : DockerExecutionAdapter} {intent : ExecutionIntent}
    {ws : List World} {db : Db} {status : ExecutionStatus}
    (h : restartsAlone p ad intent ws db status = true) :
    ∃ token id version post claimed during ended r first last row,
      RestartedCall p ad intent token id version post claimed during ended r ∧
      Between (Unfinished p intent id version) first (claimed ++ during ++ ended) last ∧
      (last.executions intent.idempotencyKey).committed = some row ∧ row.id = id ∧
      row.status = status := by
  have htrans : ∀ s t u : Db, s = t → t = u → s = u := fun _ _ _ h h' => h.trans h'
  obtain ⟨r, s₁, claimed, hclaimed, hfirst, h⟩ := alone_of_passes h
  split at h
  swap
  · simp at h
  rename_i token id version
  obtain ⟨r, s₂, noted, hnoted, hsecond, h⟩ := alone_of_passes h
  cases r with
  | error e => simp at h
  | ok time =>
      obtain ⟨r, s₃, restarted, hrestarted, hthird, h⟩ := alone_of_passes h
      split at h
      swap
      · simp at h
      obtain ⟨r, s₄, looked, hlooked, hfourth, h⟩ := alone_of_passes h
      cases r with
      | error e => simp at h
      | ok post =>
          obtain ⟨r, s₅, ended, hended, hfifth, h⟩ := alone_of_passes h
          obtain ⟨row, hrow, htest⟩ := (Option.any_eq_true _ _).mp h
          obtain ⟨hid, hstatus⟩ := of_decide_eq_true htest
          have halone : Between (fun s s' : Db => s = s') db
              (claimed ++ (noted ++ restarted ++ looked) ++ ended) s₅ :=
            (hfirst.append htrans ((hsecond.append htrans hthird).append htrans hfourth)).append
              htrans hfifth
          refine ⟨token, id, version, post, claimed, _, ended, r, db, s₅, row,
            ⟨hclaimed, ⟨noted, restarted, looked, time, rfl, hnoted, hrestarted, hlooked⟩, hended⟩,
            halone.mono ?_, hrow, hid, hstatus⟩
          rintro s _ rfl
          exact Unfinished.refl p intent s

/-- A restart that is recorded: the lock was still the caller's. -/
theorem restart_recorded_held :
    ∃ token id version post claimed during ended r last,
      RestartedCall 1 ⟨0, "worker:a"⟩ restartDemo token id version post claimed during ended r ∧
      RestartRecorded restartDemo id last ∧
      (lastTransaction 1 ⟨0, "worker:a"⟩ restartDemo token id version post).TookWith Accepts
        ended r ∧
      ∀ s rest, LooksUpLock 1 restartDemo id version post ended s rest →
        StillHeld 1 ⟨0, "worker:a"⟩ restartDemo token s rest := by
  have htest : restartsAlone 1 ⟨0, "worker:a"⟩ restartDemo (List.replicate 20 runningContainer)
      demoPlanned .succeeded = true := by decide +kernel
  obtain ⟨token, id, version, post, claimed, during, ended, r, first, last, row, hcall, hothers,
    hrow⟩ := restartedCall_of_alone htest
  have hrecorded : RestartRecorded restartDemo id last := ⟨row, hrow⟩
  exact ⟨token, id, version, post, claimed, during, ended, r, last, hcall, hrecorded,
    (restart_recorded_iff hcall hothers).mp hrecorded⟩

/-- A restart that may take as long as the catalog lets it. -/
def slowRestart : ExecutionIntent := { restartDemo with timeoutSeconds := 120 }

/-- **A completed restart that is not recorded.**  Docker takes longer than the lock lasts, and
another worker takes the lock over for another plan.  The restart returns normally, the container is
inspected after it, and the call is over; and the record, which only this call has written, says
`RUNNING`. -/
theorem restart_unrecorded :
    ∃ c : Config World Db,
      Reaches (executeMachine (fun _ _ => True)) (Config.idle demoPlannedTwice) c ∧
      c.state.docker.take 2 =
        [.inspected none "0123456789ab" { id := "0123456789ab", status := "running" },
          .restarted 0 slowRestart.dispatched] ∧
      .returned 0 slowRestart.dispatched ∈ c.state.log ∧
      (∀ e ∈ c.state.log, ∀ q intent, e = .called q intent →
        intent.idempotencyKey = "restart-1" → q = 0) ∧
      (c.state.executions "restart-1").committed.map Execution.status = some .running := by
  obtain ⟨c, hr, htest⟩ := Machine.reaches_of_exec (executeMachine (fun _ _ => True))
    (Config.idle demoPlannedTwice)
    (.start 0 ⟨⟨0, "worker:a"⟩, slowRestart⟩ :: List.replicate 20 (.run 0 runningContainer) ++
      .env (.tick 121000000) :: .start 1 ⟨⟨1, "worker:b"⟩, restartDemoAgain⟩ ::
      List.replicate 20 (.run 1 runningContainer) ++ List.replicate 9 (.run 0 runningContainer))
    (fun db => decide (db.docker.take 2 =
        [.inspected none "0123456789ab" { id := "0123456789ab", status := "running" },
          .restarted 0 slowRestart.dispatched] ∧
      .returned 0 slowRestart.dispatched ∈ db.log ∧
      (db.executions "restart-1").committed.map Execution.status = some .running) &&
      db.log.all fun e => match e with
        | .called q intent => decide (intent.idempotencyKey = "restart-1" → q = 0)
        | _ => true)
    (by decide +kernel)
  obtain ⟨htest, hcalled⟩ := Bool.and_eq_true_iff.mp htest
  obtain ⟨hdocker, hreturned, hrunning⟩ := of_decide_eq_true htest
  refine ⟨c, hr, hdocker, hreturned, ?_, hrunning⟩
  rintro e he q intent rfl
  exact of_decide_eq_true (List.all_eq_true.mp hcalled _ he)

end SelfHealing
