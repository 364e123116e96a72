/-
What the steps of the Docker adapter are.

The adapter reads the resources, the decisions and the approvals, and writes the records, the locks
and the controls only.  So whatever else a step of it is, on all other tables it is nothing, or the
end of a transaction of its process, or an event; and the only step that issues a restart is the one
in `restart_container`.  What holds of these few kinds of steps holds of `execute` and of `precheck`.

This is coarser than the protocol of `Proofs/AdapterProtocol`: it does not say when a step is made.
It is what the results about the workflow ask of the adapter, which is one node of many there.
-/
import SelfHealing.Adapter
import SelfHealing.Lib.History
import SelfHealing.Proofs.Rules

namespace SelfHealing

open Interleaving Interleaving.Prog ReadCommitted

/-- The tables that the adapter does not write are as they were, and nothing is seen. -/
structure OutsideKept (s s' : Db) : Prop where
  incidents : s'.incidents = s.incidents
  added : s'.added = s.added
  resources : s'.resources = s.resources
  decisions : s'.decisions = s.decisions
  now : s'.now = s.now
  log : s'.log = s.log
  scheduleIds : s'.scheduleIds = s.scheduleIds
  schedules : s'.schedules = s.schedules
  drawn : (s'.nextId = s.nextId ∧ s'.drawnBy = s.drawnBy) ∨
    ∃ q, s'.nextId = (s.draw q).nextId ∧ s'.drawnBy = (s.draw q).drawnBy
  clock : ∀ t, s'.txTime t = s.txTime t ∨ s'.txTime t = s.now

/-- What an observer sees of the adapter, but for the restart itself. -/
def Event.ofAdapter : Event → Bool
  | .called _ _ | .acquired _ _ _ | .restartEnded _ _ | .returned _ _ => true
  | _ => false

/-- Nothing else is seen. -/
def Harmless (evs : List Event) : Prop := ∀ e ∈ evs, e.ofAdapter = true

/-- A step of the adapter in process `p`, unless it issues a restart. -/
inductive AdapterStep (p : Nat) : Db → Db → Prop
  | outside {s s' : Db} (h : OutsideKept s s') : AdapterStep p s s'
  | observed {s s' : Db} (evs : List Event) (hevs : Harmless evs)
    (h : OutsideKept (s.record evs) s') :
      AdapterStep p s s'
  | commit (s : Db) (t : TxId) (ht : t.pid = p) (evs : List Event) (hevs : Harmless evs) :
      AdapterStep p s ((s.commit t).record evs)
  | rollback (s : Db) (t : TxId) (ht : t.pid = p) : AdapterStep p s (s.rollback t)

/-- The `now()` of a transaction is the time at which it was begun. -/
theorem txTime_started (s : Db) (t u : TxId) :
    (s.started t).txTime u = s.txTime u ∨ (s.started t).txTime u = s.now := by
  by_cases hu : u = t
  · rw [hu]
    exact .inr (Function.update_self ..)
  · exact .inl (Function.update_of_ne hu ..)

theorem harmless_nil : Harmless [] := fun _ he => absurd he List.not_mem_nil

theorem harmless_singleton {e : Event} (he : e.ofAdapter = true) : Harmless [e] :=
  fun _ he' => (List.mem_singleton.mp he') ▸ he

theorem OutsideKept.refl (s : Db) : OutsideKept s s :=
  ⟨rfl, rfl, rfl, rfl, rfl, rfl, rfl, rfl, .inl ⟨rfl, rfl⟩, fun _ => .inl rfl⟩

theorem AdapterStep.refl {p : Nat} (s : Db) : AdapterStep p s s := .outside (OutsideKept.refl s)

section Steps

variable {α : Type} {p : Nat}

/-! ### Statements -/

theorem adapterStep_sql {f : Db → Option (Except Err α × Db)}
    (h : ∀ s r s', f s = some (r, s') → AdapterStep p s s') : Within (AdapterStep p) (sql f) :=
  sql_within AdapterStep.refl h

theorem adapterStep_select (f : Db → α) : Within (AdapterStep p) (select f) :=
  select_within AdapterStep.refl f

theorem adapterStep_check (x : Except Err α) : Within (AdapterStep p) (check x) := ⟨trivial⟩

theorem adapterStep_datetimeNow : Within (AdapterStep p) datetimeNow :=
  datetimeNow_within AdapterStep.refl

theorem adapterStep_uuid4 (q : Nat) : Within (AdapterStep p) (uuid4 q) := by
  refine within_stmt ?_
  intro w s r s' hf
  simp only [Option.some.injEq, Prod.mk.injEq] at hf
  rw [← hf.2]
  exact .outside ⟨rfl, rfl, rfl, rfl, rfl, rfl, rfl, rfl, .inr ⟨q, rfl, rfl⟩, fun _ => .inl rfl⟩

theorem adapterStep_observe {evs : List Event} (h : Harmless evs) :
    Within (AdapterStep p) (observe evs) := by
  refine within_stmt ?_
  intro w s r s' hf
  simp only [Option.some.injEq, Prod.mk.injEq] at hf
  rw [← hf.2]
  exact .observed evs h (OutsideKept.refl _)

theorem adapterStep_unitOfWork {level : Nat} {actor : String} {body : Prog α}
    {seen : α → List Event} (hbody : Within (AdapterStep p) body) (hseen : ∀ a, Harmless (seen a)) :
    Within (AdapterStep p) (unitOfWork ⟨p, level⟩ actor body seen) :=
  unitOfWork_within AdapterStep.refl
    (fun s => .outside ⟨rfl, rfl, rfl, rfl, rfl, rfl, rfl, rfl, .inl ⟨rfl, rfl⟩,
      txTime_started s _⟩)
    (fun s => .rollback s ⟨p, level⟩ rfl) (fun a s => .commit s ⟨p, level⟩ rfl _ (hseen a)) hbody

theorem adapterStep_unitOfWork_unseen {level : Nat} {actor : String} {body : Prog α}
    (hbody : Within (AdapterStep p) body) :
    Within (AdapterStep p) (unitOfWork ⟨p, level⟩ actor body) :=
  adapterStep_unitOfWork hbody (fun _ => harmless_nil)

/-! ### Parts of the adapter

Each part is within the relation because its statements are, and the relation is closed under
sequence and handlers.
-/

/-- Looking at a container is nothing, or a call that is noted. -/
theorem inspectContainer_within {R : Db → Db → Prop} (hrefl : ∀ s, R s s)
    (hnoted : ∀ s act, R s (s.note act)) (leftover : Option String) (containerId : String) :
    Within R (inspectContainer leftover containerId) := by
  unfold inspectContainer
  by_cases hhex : hexContainerId containerId = true
  · rw [if_pos hhex]
    refine within_stmt ?_
    intro w s r s' hf
    split at hf
    · simp only [Option.some.injEq, Prod.mk.injEq] at hf
      rw [← hf.2]
      exact hrefl s
    · simp only [Option.some.injEq, Prod.mk.injEq] at hf
      rw [← hf.2]
      exact hrefl s
    · simp only [Option.some.injEq, Prod.mk.injEq] at hf
      rw [← hf.2]
      exact hnoted s _
  · rw [if_neg hhex]
    exact within_throw _

theorem adapterStep_inspectContainer (leftover : Option String) (containerId : String) :
    Within (AdapterStep p) (inspectContainer leftover containerId) :=
  inspectContainer_within AdapterStep.refl
    (fun _ _ => .outside ⟨rfl, rfl, rfl, rfl, rfl, rfl, rfl, rfl, .inl ⟨rfl, rfl⟩,
      fun _ => .inl rfl⟩)
    leftover containerId

theorem adapterStep_dispatchNow (p : Nat) (intent : ExecutionIntent) :
    Within (AdapterStep p) (dispatchNow p intent) := by
  refine within_stmt ?_
  intro w s r s' hf
  simp only [Option.some.injEq, Prod.mk.injEq] at hf
  rw [← hf.2]
  exact .outside ⟨rfl, rfl, rfl, rfl, rfl, rfl, rfl, rfl, .inl ⟨rfl, rfl⟩, fun _ => .inl rfl⟩

theorem adapterStep_takeSnapshot (leftover : Option String) (containerId : String) :
    Within (AdapterStep p) (takeSnapshot leftover containerId) :=
  Within.bind (adapterStep_inspectContainer leftover containerId) (fun _ => within_pure _)

theorem adapterStep_getAutomationControls (t : TxId) (actor : String) :
    Within (AdapterStep p) (getAutomationControls t actor) := by
  refine Within.bind (adapterStep_select _) (fun found => ?_)
  cases found with
  | some control => exact within_pure _
  | none =>
      refine Within.bind adapterStep_datetimeNow (fun now => Within.bind (adapterStep_sql ?_)
        (fun _ => within_pure _))
      intro s r s' hf
      simp only at hf
      split at hf
      · split at hf
        · simp only [Option.some.injEq, Prod.mk.injEq] at hf
          rw [← hf.2]
          exact AdapterStep.refl s
        · simp only [Option.some.injEq, Prod.mk.injEq] at hf
          rw [← hf.2]
          exact .outside ⟨rfl, rfl, rfl, rfl, rfl, rfl, rfl, rfl, .inl ⟨rfl, rfl⟩,
            fun _ => .inl rfl⟩
      · simp at hf

theorem adapterStep_checkSafety (t : TxId) (r : Nat) (held : Option AutomationControl) :
    Within (AdapterStep p) (checkSafety t r held) := by
  unfold checkSafety
  have hrest : ∀ control, Within (AdapterStep p) (do
      check (AutomationControl.checkSafety r control)
      let lock ← getLock t r
      check (ResourceLock.checkSafety r lock) : Prog Unit) :=
    fun _ => Within.bind (adapterStep_check _) (fun _ => Within.bind (adapterStep_select _)
      (fun _ => adapterStep_check _))
  cases held with
  | some control => exact Within.bind (within_pure _) hrest
  | none => exact Within.bind (adapterStep_select _) hrest

theorem adapterStep_precheckRecords (p : Nat) (ad : DockerExecutionAdapter)
    (intent : ExecutionIntent) :
    Within (AdapterStep p) (precheckRecords p ad intent) := by
  refine Within.bind (adapterStep_select _) (fun _ => Within.bind (adapterStep_check _) (fun _ =>
    Within.bind (adapterStep_select _) (fun _ => Within.bind (adapterStep_check _) (fun decision =>
      Within.bind (adapterStep_getAutomationControls _ _) (fun control => Within.bind ?_
        (fun _ => adapterStep_checkSafety _ _ _))))))
  unfold checkApproval
  split
  · exact Within.bind (adapterStep_select _) (fun _ => Within.bind adapterStep_datetimeNow
      (fun _ => adapterStep_check _))
  · exact within_pure _

theorem adapterStep_precheck (p : Nat) (ad : DockerExecutionAdapter) (intent : ExecutionIntent) :
    Within (AdapterStep p) (precheck p ad intent) := by
  have hrest : Within (AdapterStep p) (do
      let attrs ← tryCatch (inspectContainer none intent.containerId) fun e =>
        let text := e.message
        if e.exc = .containerNotFoundError then
          throw (targetRecreated
            s!"Target container {intent.containerId} not found in Docker daemon: {text}")
        else throw (precheckFailed s!"Docker inspection precheck failed: {text}")
      check (checkLabels intent attrs)
      unitOfWork ⟨p, 0⟩ ad.actor (precheckRecords p ad intent)
      takeSnapshot none intent.containerId : Prog ContainerSnapshot) := by
    refine Within.bind (Within.handle (adapterStep_inspectContainer _ _) (fun e => ?_)) (fun _ =>
      Within.bind (adapterStep_check _) (fun _ => Within.bind
        (adapterStep_unitOfWork_unseen (adapterStep_precheckRecords p ad intent))
        (fun _ => adapterStep_takeSnapshot _ _)))
    simp only
    split
    · exact within_throw _
    · exact within_throw _
  unfold precheck
  by_cases hservice : intent.serviceName ≠ "demo-api"
  · simp only [if_pos hservice]
    exact Within.bind (within_throw _) (fun _ => hrest)
  · simp only [if_neg hservice]
    exact hrest

/-- Finishing an execution writes its record, if anything. -/
theorem finishExecution_within {S : Db → Db → Prop} {t : TxId} {k : String} (hrefl : ∀ s, S s s)
    (hwrite : ∀ s v, S s (s.setExecution k ((s.executions k).write t v))) (id v : Nat)
    (status : ExecutionStatus) (result : ExecutionResult) (reason : Option String) :
    Within S (finishExecution t k id v status result reason) := by
  refine Within.bind (select_within hrefl _) (fun _ => Within.bind ⟨trivial⟩ (fun _ =>
    Within.bind (sql_within hrefl ?_) (fun updated => ?_)))
  · intro s r s' hf
    simp only at hf
    split at hf
    · simp only [Option.some.injEq, Prod.mk.injEq] at hf
      rw [← hf.2]
      exact hrefl s
    · split at hf
      · simp only [Option.some.injEq, Prod.mk.injEq] at hf
        rw [← hf.2]
        exact hwrite s _
      · simp at hf
  · cases updated with
    | none => exact within_throw _
    | some row => exact within_pure _

theorem adapterStep_finishExecution (t : TxId) (k : String) (id v : Nat) (status : ExecutionStatus)
    (result : ExecutionResult) (reason : Option String) :
    Within (AdapterStep p) (finishExecution t k id v status result reason) :=
  finishExecution_within AdapterStep.refl
    (fun _ _ => .outside ⟨rfl, rfl, rfl, rfl, rfl, rfl, rfl, rfl, .inl ⟨rfl, rfl⟩,
      fun _ => .inl rfl⟩)
    id v status result reason

theorem adapterStep_earlyCheck (p : Nat) (ad : DockerExecutionAdapter) (intent : ExecutionIntent) :
    Within (AdapterStep p) (earlyCheck p ad intent) := by
  refine Within.bind (adapterStep_select _) (fun found => ?_)
  cases found with
  | none => exact within_pure _
  | some existing =>
      simp only
      split
      · cases existing.status with
        | running =>
            exact Within.bind (adapterStep_takeSnapshot _ _) (fun post => Within.bind
              (adapterStep_unitOfWork_unseen (adapterStep_finishExecution _ _ _ _ _ _ _))
              (fun _ => within_pure _))
        | _ => exact within_pure _
      · exact within_throw _

theorem adapterStep_upsertLock (t : TxId) (actor : String) (r : Nat) (duration : Int) :
    Within (AdapterStep p) (do
      checkSafety t r none
      let token ← uuid4 t.pid
      let result ← upsertLock t actor r token duration
      match result with
      | some token => pure token
      | none =>
          let lock ← getLock t r
          check (ResourceLock.checkSafety r lock)
          let owner := (lock.map ResourceLock.owner).getD "unknown"
          throw ⟨.resourceLockedError,
            s!"Resource {r} is currently locked by another worker ({owner})"⟩ : Prog Nat) := by
  refine Within.bind (adapterStep_checkSafety _ _ _) (fun _ => Within.bind (adapterStep_uuid4 _)
    (fun token => Within.bind (adapterStep_sql ?_) (fun result => ?_)))
  · intro s q s' hf
    simp only at hf
    split at hf
    · split at hf
      all_goals
        simp only [Option.some.injEq, Prod.mk.injEq] at hf
        rw [← hf.2]
        exact .outside ⟨rfl, rfl, rfl, rfl, rfl, rfl, rfl, rfl, .inl ⟨rfl, rfl⟩, fun _ => .inl rfl⟩
    · simp at hf
  · cases result with
    | some token => exact within_pure _
    | none =>
        exact Within.bind (adapterStep_select _) (fun _ => Within.bind (adapterStep_check _)
          (fun _ => within_throw _))

theorem adapterStep_acquireLock (t : TxId) (actor : String) (r : Nat) (duration : Int) :
    Within (AdapterStep p) (acquireLock t actor r duration) := by
  have hrest := adapterStep_upsertLock (p := p) t actor r duration
  unfold acquireLock
  by_cases hd : duration < 1 ∨ 3600 < duration
  · simp only [if_pos hd]
    exact Within.bind (within_throw _) (fun _ => hrest)
  · simp only [if_neg hd]
    exact hrest

/-- The record that is found after an insert that may have been passed over. -/
theorem adapterStep_foundExecution (intent : ExecutionIntent) (found : Option Execution) :
    Within (AdapterStep p)
      (match found with
        | none =>
            throw ⟨.runtimeError, s!"Execution with idempotency key '{intent.idempotencyKey}' " ++
              "conflicted on insert but could not be located in the database."⟩
        | some execution =>
            if execution.belongsTo intent.incidentId intent.stepId intent.resourceId
                (some intent.containerId) then
              pure execution
            else throw foreignKeyError : Prog Execution) := by
  cases found with
  | none => exact within_throw _
  | some execution =>
      simp only
      split
      · exact within_pure _
      · exact within_throw _

theorem adapterStep_insertExecution (t : TxId) (key : String) (row : Execution) :
    Within (AdapterStep p) (insertExecution t key row) := by
  refine adapterStep_sql ?_
  intro s q s' hf
  simp only at hf
  split at hf
  · split at hf
    · simp only [Option.some.injEq, Prod.mk.injEq] at hf
      rw [← hf.2]
      exact AdapterStep.refl s
    · simp only [Option.some.injEq, Prod.mk.injEq] at hf
      rw [← hf.2]
      exact .outside ⟨rfl, rfl, rfl, rfl, rfl, rfl, rfl, rfl, .inl ⟨rfl, rfl⟩, fun _ => .inl rfl⟩
  · simp at hf

/-- The record is inserted, or found. -/
theorem adapterStep_claimRecord (t : TxId) (actor : String) (intent : ExecutionIntent)
    (token : Option Nat) :
    Within (AdapterStep p) (do
        let id ← uuid4 t.pid
        let inserted ← insertExecution t intent.idempotencyKey
          { id := id, incidentId := intent.incidentId, planId := some intent.planId,
            stepId := intent.stepId, resourceId := intent.resourceId,
            attemptNumber := intent.attemptNumber, containerId := some intent.containerId,
            bindingGeneration := some intent.bindingGeneration, lockToken := token,
            actor := actor, preState := intent.preState, status := .pending, version := 1,
            result := .empty, uncertaintyReason := none, startedAt := none,
            finishedAt := none }
        let found ←
          match inserted with
          | some execution => pure (some execution)
          | none => getExecution t intent.idempotencyKey
        match found with
        | none =>
            throw ⟨.runtimeError,
              s!"Execution with idempotency key '{intent.idempotencyKey}' " ++
              "conflicted on insert but could not be located in the database."⟩
        | some execution =>
            if execution.belongsTo intent.incidentId intent.stepId intent.resourceId
                (some intent.containerId) then
              pure execution
            else throw foreignKeyError : Prog Execution) := by
  refine Within.bind (adapterStep_uuid4 _)
    (fun id => Within.bind (adapterStep_insertExecution _ _ _) (fun inserted => ?_))
  cases inserted with
  | some execution => exact Within.bind (within_pure _) (adapterStep_foundExecution intent)
  | none => exact Within.bind (adapterStep_select _) (adapterStep_foundExecution intent)

theorem adapterStep_recordExecution (t : TxId) (actor : String) (intent : ExecutionIntent)
    (token : Option Nat) : Within (AdapterStep p) (recordExecution t actor intent token) := by
  unfold recordExecution
  refine Within.bind (adapterStep_select _) (fun step => Within.bind (adapterStep_select _)
    (fun plan => ?_))
  cases step with
  | none => exact within_throw _
  | some step =>
      cases plan with
      | none => exact within_throw _
      | some plan =>
          have hgo := adapterStep_claimRecord (p := p) t actor intent token
          simp only
          by_cases hmatch : plan.incidentId ≠ intent.incidentId ∨
              step.resourceId ≠ intent.resourceId
          · simp only [if_pos hmatch]
            exact Within.bind (within_throw _) (fun _ => hgo)
          · simp only [if_neg hmatch]
            exact hgo

theorem adapterStep_claimExecution (p : Nat) (ad : DockerExecutionAdapter)
    (intent : ExecutionIntent) :
    Within (AdapterStep p) (claimExecution p ad intent) := by
  refine Within.bind (adapterStep_acquireLock _ _ _ _) (fun token => Within.bind
    (adapterStep_recordExecution _ _ _ _) (fun record => ?_))
  cases record.status with
  | succeeded => exact within_pure _
  | failed => exact within_pure _
  | running =>
      exact Within.bind (adapterStep_takeSnapshot _ _) (fun _ => Within.bind
        (adapterStep_finishExecution _ _ _ _ _ _ _) (fun _ => within_pure _))
  | pending =>
      exact Within.bind (adapterStep_finishExecution _ _ _ _ _ _ _) (fun _ => within_pure _)
  | rolledback =>
      exact Within.bind (adapterStep_finishExecution _ _ _ _ _ _ _) (fun _ => within_pure _)

theorem adapterStep_reconcile (intent : ExecutionIntent) (time : Option Int)
    (pre : Option ContainerSnapshot) : Within (AdapterStep p) (reconcile intent time pre) :=
  Within.handle (Within.bind (adapterStep_takeSnapshot _ _) (fun _ => within_pure _))
    (fun _ => within_pure _)

/-- Releasing a lock draws a token at most, and writes the row of the lock. -/
theorem releaseLock_within {S : Db → Db → Prop} {t : TxId} {r : Nat} (hrefl : ∀ s, S s s)
    (hdraw : ∀ s, S s (s.draw t.pid))
    (hwrite : ∀ s v, S s (s.setLock r ((s.locks r).write t v))) (actor : String) (token : Nat) :
    Within S (releaseLock t actor r token) := by
  refine Within.bind (select_within hrefl _) (fun found => ?_)
  cases found with
  | none => exact within_pure _
  | some lock =>
      simp only
      split
      · exact within_throw _
      · split
        · refine Within.bind (within_stmt ?_) (fun _ => Within.bind (datetimeNow_within hrefl)
            (fun _ => sql_within hrefl ?_))
          · intro w s q s' hf
            simp only [Option.some.injEq, Prod.mk.injEq] at hf
            rw [← hf.2]
            exact hdraw s
          · intro s q s' hf
            simp only at hf
            split at hf
            · simp only [Option.some.injEq, Prod.mk.injEq] at hf
              rw [← hf.2]
              exact hrefl s
            · split at hf
              · simp only [Option.some.injEq, Prod.mk.injEq] at hf
                rw [← hf.2]
                exact hwrite s _
              · simp at hf
        · refine sql_within hrefl ?_
          intro s q s' hf
          simp only at hf
          split at hf
          · simp only [Option.some.injEq, Prod.mk.injEq] at hf
            rw [← hf.2]
            exact hrefl s
          · split at hf
            · simp only [Option.some.injEq, Prod.mk.injEq] at hf
              rw [← hf.2]
              exact hwrite s _
            · simp at hf

theorem adapterStep_releaseLock (t : TxId) (actor : String) (r token : Nat) :
    Within (AdapterStep p) (releaseLock t actor r token) :=
  releaseLock_within AdapterStep.refl
    (fun _ => .outside ⟨rfl, rfl, rfl, rfl, rfl, rfl, rfl, rfl, .inr ⟨t.pid, rfl, rfl⟩,
      fun _ => .inl rfl⟩)
    (fun _ _ => .outside ⟨rfl, rfl, rfl, rfl, rfl, rfl, rfl, rfl, .inl ⟨rfl, rfl⟩,
      fun _ => .inl rfl⟩) actor token

theorem adapterStep_quarantineResource (t : TxId) (r : Nat) (reason : String) :
    Within (AdapterStep p) (quarantineResource t r reason) := by
  refine Within.bind (adapterStep_uuid4 _) (fun _ => adapterStep_sql ?_)
  intro s q s' hf
  simp only at hf
  split at hf
  · simp only [Option.some.injEq, Prod.mk.injEq] at hf
    rw [← hf.2]
    exact .outside ⟨rfl, rfl, rfl, rfl, rfl, rfl, rfl, rfl, .inl ⟨rfl, rfl⟩, fun _ => .inl rfl⟩
  · simp at hf

theorem adapterStep_endDispatch (p : Nat) (ad : DockerExecutionAdapter) (intent : ExecutionIntent)
    (id v : Nat) (status : ExecutionStatus) (result : ExecutionResult) (reason : Option String)
    {unlock : Prog Unit} (hunlock : Within (AdapterStep p) unlock) :
    Within (AdapterStep p) (endDispatch p ad intent id v status result reason unlock) :=
  adapterStep_unitOfWork (Within.bind (adapterStep_finishExecution _ _ _ _ _ _ _)
    (fun _ => hunlock))
    (fun _ => harmless_singleton rfl)

theorem adapterStep_concludeDispatch (p : Nat) (ad : DockerExecutionAdapter)
    (intent : ExecutionIntent)
    (pre : ContainerSnapshot) (token id version : Nat) (time : Int) (answer : Except Err Unit) :
    Within (AdapterStep p) (concludeDispatch p ad intent pre token id version time answer) := by
  have hend : ∀ (status : ExecutionStatus) (result : ExecutionResult) (reason : Option String)
      {unlock : Prog Unit} (outcome : ExecutionOutcome), Within (AdapterStep p) unlock →
      Within (AdapterStep p) (do
        endDispatch p ad intent id version status result reason unlock
        pure outcome) :=
    fun _ _ _ _ _ hunlock => Within.bind (adapterStep_endDispatch _ _ _ _ _ _ _ _ hunlock)
      (fun _ => within_pure _)
  have hrelease := adapterStep_releaseLock (p := p) ⟨p, 0⟩ ad.actor intent.resourceId token
  unfold concludeDispatch
  cases answer with
  | ok u =>
      exact Within.bind (adapterStep_takeSnapshot _ _) (fun post => hend _ _ _ _ hrelease)
  | error e =>
      simp only
      split
      · exact hend _ _ _ _ hrelease
      · refine Within.bind (adapterStep_reconcile _ _ _) (fun recon => ?_)
        split
        · exact hend _ _ _ _ hrelease
        · exact hend _ _ _ _ (adapterStep_quarantineResource _ _ _)

theorem adapterStep_enterDispatch (p : Nat) (ad : DockerExecutionAdapter) (containerId : String) :
    Within (AdapterStep p) (enterDispatch p ad containerId) := by
  refine within_stmt ?_
  intro w s r s' hf
  split at hf
  · simp at hf
  · simp only [Option.some.injEq, Prod.mk.injEq] at hf
    rw [← hf.2]
    exact .outside ⟨rfl, rfl, rfl, rfl, rfl, rfl, rfl, rfl, .inl ⟨rfl, rfl⟩, fun _ => .inl rfl⟩

theorem adapterStep_leaveDispatch (ad : DockerExecutionAdapter) (containerId : String) :
    Within (AdapterStep p) (leaveDispatch ad containerId) := by
  refine within_stmt ?_
  intro w s r s' hf
  simp only [Option.some.injEq, Prod.mk.injEq] at hf
  rw [← hf.2]
  exact .outside ⟨rfl, rfl, rfl, rfl, rfl, rfl, rfl, rfl, .inl ⟨rfl, rfl⟩, fun _ => .inl rfl⟩

theorem adapterStep_claimed (p : Nat) (ad : DockerExecutionAdapter) (intent : ExecutionIntent) :
    Within (AdapterStep p) (unitOfWork ⟨p, 0⟩ ad.actor (claimExecution p ad intent)
      (Claim.seen p ad intent)) := by
  refine adapterStep_unitOfWork (adapterStep_claimExecution p ad intent) ?_
  intro claim
  cases claim with
  | settled outcome => exact harmless_nil
  | dispatch token id version => exact harmless_singleton rfl

theorem adapterStep_returned (p : Nat) (intent : ExecutionIntent) {e : Err} :
    Within (AdapterStep p) (do
      observe [.returned p intent]
      throw e : Prog α) :=
  Within.bind (adapterStep_observe (harmless_singleton rfl)) (fun _ => within_throw e)

/-- The end of a restart issues no other. -/
theorem adapterStep_endRestart (p : Nat) (intent : ExecutionIntent) :
    Within (AdapterStep p) (endRestart p intent) := by
  have hended : Harmless [.restartEnded p intent] := harmless_singleton rfl
  refine within_stmt ?_
  intro w s r s' hf
  simp only at hf
  split at hf
  · split at hf
    · simp only [Option.some.injEq, Prod.mk.injEq] at hf
      rw [← hf.2]
      exact .observed _ hended (OutsideKept.refl _)
    · simp only [Option.some.injEq, Prod.mk.injEq] at hf
      rw [← hf.2]
      exact .observed _ hended (OutsideKept.refl _)
    · simp only [Option.some.injEq, Prod.mk.injEq] at hf
      rw [← hf.2]
      exact .observed _ hended ⟨rfl, rfl, rfl, rfl, rfl, rfl, rfl, rfl, .inl ⟨rfl, rfl⟩,
        fun _ => .inl rfl⟩
  · simp only [Option.some.injEq, Prod.mk.injEq] at hf
    rw [← hf.2]
    exact .observed _ hended (OutsideKept.refl _)

end Steps

/-! ### The whole of it

A restart is issued in one place, and so `execute` alone is given with the permission to issue one.
All other parts are within the smaller relation, and a result that is about them only need not
speak of restarts at all.
-/

section Execute

variable {p : Nat} {S : Db → Db → Prop} (hstep : ∀ s s', AdapterStep p s s' → S s s')
  (hissued : ∀ s intent, S s (s.record [.restartIssued p intent]))

include hstep hissued

theorem restartContainer_within (intent : ExecutionIntent) :
    Within S (restartContainer p intent) := by
  refine Within.bind (within_stmt ?_) (fun _ => (adapterStep_endRestart p intent).mono hstep)
  intro w s r s' hf
  simp only [Option.some.injEq, Prod.mk.injEq] at hf
  rw [← hf.2]
  exact hissued s intent

theorem executeLocked_within (ad : DockerExecutionAdapter) (intent : ExecutionIntent)
    (pre : ContainerSnapshot) : Within S (executeLocked p ad intent pre) := by
  refine Within.bind ((adapterStep_claimed p ad intent).mono hstep) (fun claim => ?_)
  cases claim with
  | settled outcome => exact within_pure _
  | dispatch token id version =>
      refine Within.handle ?_ (fun e => (adapterStep_returned p intent).mono hstep)
      exact Within.bind ((adapterStep_dispatchNow p intent).mono hstep) (fun time => Within.bind
        (restartContainer_within hstep hissued intent) (fun answer =>
          (adapterStep_concludeDispatch _ _ _ _ _ _ _ _ _).mono hstep))

/-- **The steps of `execute`** are those of its parts, and the one that issues the restart. -/
theorem execute_within (ad : DockerExecutionAdapter) (intent : ExecutionIntent) :
    Within S (execute p ad intent) := by
  refine Within.bind ((adapterStep_observe (harmless_singleton rfl)).mono hstep) (fun _ =>
    Within.bind ((adapterStep_unitOfWork_unseen (adapterStep_earlyCheck p ad intent)).mono
      hstep) (fun early => ?_))
  cases early with
  | some outcome => exact within_pure _
  | none =>
      refine Within.bind ((adapterStep_takeSnapshot _ _).mono hstep) (fun pre => ?_)
      have hleave := fun {e : Err} => Within.bind
        ((adapterStep_leaveDispatch ad intent.containerId).mono hstep)
        (fun _ => within_throw (W := World) (α := ExecutionOutcome) e)
      exact Within.bind ((adapterStep_enterDispatch _ _ _).mono hstep) (fun _ => Within.bind
        (Within.handle (executeLocked_within hstep hissued _ _ _) (fun e => hleave))
          (fun outcome => Within.bind ((adapterStep_leaveDispatch _ _).mono hstep)
            (fun _ => within_pure _)))

end Execute

end SelfHealing
