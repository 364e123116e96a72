/-
No wake-up is dispatched twice.

The workers and the recovery services keep to the protocol of the rows: a run schedules a cooldown
when a verification has failed, and the wait for an approval, and a recovery service claims what it
has found due.  Whatever comes in between, a row that was found due stays the row of that wake-up.

This module puts the two before it together: the kinds of steps are known, and the protocol is, so
that what is left is to go through the programs from the inside out, and to begin.
-/
import SelfHealing.Proofs.ScheduleDispatch

namespace SelfHealing

open Interleaving Interleaving.Prog Interleaving.Protocol ReadCommitted

/-! ### A run -/

section Nodes

variable {α : Type} {admits : Db → Db → Prop} {p : Nat} {actor : String}

theorem keepsRows_scheduleRetry (state : IncidentGraphState) (found : Option Incident)
    (cooldownSeconds : Int) :
    KeepsRows admits p (scheduleRetry p actor state found cooldownSeconds) := by
  refine keepsRows_bind (keepsRows_worker
    (workerStep_leaveVerification permits_unscheduled.incident _ _ _)) (fun inc => ?_)
  refine keepsRows_bind (keepsRows_bind (keepsRows_worker workerStep_datetimeNow) (fun now => ?_))
    (fun _ => keepsRows_pure _)
  exact keepsRows_scheduleWakeup _ _ _ _ _

theorem keepsRows_settleVerdict (state : IncidentGraphState) (verdict : VerdictAnswer)
    (cooldownSeconds : Int) :
    KeepsRows admits p (settleVerdict p actor state verdict cooldownSeconds) := by
  have hescalate : ∀ found title summary cause reason, KeepsRows admits p (do
      let inc ← leaveVerification actor state ⟨p, 0⟩ found .escalated
      createEscalationRecord ⟨p, 0⟩ state.incidentId title summary cause reason
      createAttentionItem ⟨p, 0⟩
      pure inc : Prog (Option Incident)) := fun _ _ _ _ _ => keepsRows_worker <|
    Within.bind (workerStep_leaveVerification permits_unscheduled.incident _ _ _) (fun _ =>
      Within.bind (workerStep_createEscalationRecord (fun _ => trivial) _ _ _ _ _) (fun _ =>
        Within.bind workerStep_createAttentionItem (fun _ => within_pure _)))
  refine keepsRows_unitOfWork_unseen (keepsRows_bind (keepsRows_worker (workerStep_select _)) (fun found =>
    keepsRows_bind (keepsRows_worker workerStep_insertElsewhere) (fun _ => ?_)))
  split
  · exact keepsRows_bind (keepsRows_worker
      (workerStep_leaveVerification permits_unscheduled.incident _ _ _)) (fun _ => keepsRows_pure _)
  · split
    · exact keepsRows_bind (hescalate _ _ _ _ _) (fun _ => keepsRows_pure _)
    · simp only
      split
      · exact keepsRows_bind (keepsRows_scheduleRetry _ _ _) (fun _ => keepsRows_pure _)
      · exact keepsRows_bind (hescalate _ _ _ _ _) (fun _ => keepsRows_pure _)

theorem keepsRows_verifyNode (state : IncidentGraphState) (cooldownSeconds : Int) :
    KeepsRows admits p (verifyNode p actor state cooldownSeconds) := by
  have hrest : KeepsRows admits p (do
      let verdict ← service World.verify
      settleVerdict p actor state verdict cooldownSeconds) :=
    keepsRows_bind (keepsRows_worker (workerStep_service (fun _ _ he => absurd he List.not_mem_nil)))
      (fun _ => keepsRows_settleVerdict _ _ _)
  unfold verifyNode
  split
  · exact keepsRows_bind (keepsRows_unitOfWork_unseen (keepsRows_worker (workerStep_select _)))
      (fun _ => hrest)
  · exact hrest

theorem quiet_executeNode (ad : DockerExecutionAdapter) (state : IncidentGraphState) :
    Within (QuietStep p) (executeNode p actor (ad.provider p) state) := by
  have hworker : ∀ {α : Type} {x : Prog α},
      Within (WorkerStep p Unscheduled Untold (fun _ => True)) x → Within (QuietStep p) x :=
        fun h => h.mono (fun _ _ h => .inl h)
  have hadapter : ∀ {α : Type} {x : Prog α}, Within (AdapterStep p) x →
      Within (QuietStep p) x := fun h => h.mono (fun _ _ h => .inr h)
  have hissued : ∀ s intent, QuietStep p s (s.record [.restartIssued p intent]) := by
    intro s intent
    refine .inl (.seen s _ ?_)
    intro e he
    rw [List.mem_singleton.mp he]
    rfl
  refine Within.bind (hworker (workerStep_retrieveIntent permits_unscheduled _))
    (fun intent => Within.bind (Within.handle (Within.bind (hadapter (adapterStep_precheck _ _ _))
      (fun _ => within_pure _)) (fun _ => within_pure _)) (fun prechecked => ?_))
  cases prechecked with
  | some reason =>
      exact hworker (workerStep_escalatePrecheck permits_unscheduled (fun _ => trivial) _ _)
  | none =>
      refine Within.bind (hworker (workerStep_unitOfWork_unseen permits_unscheduled.transaction
          (workerStep_advanceIncident permits_unscheduled.incident _ _ _)))
        (fun _ => Within.bind (execute_within (fun _ _ h => .inr h) (fun s _ => hissued s _) _ _)
          (fun outcome => ?_))
      split
      · exact hworker (workerStep_recordSuccess permits_unscheduled _ _ _)
      · exact hworker (workerStep_recordFailure permits_unscheduled (fun _ => trivial) _ _)

theorem keepsRows_executeWithPolicy {x : Prog α} (node : WorkflowNode) (hx : KeepsRows admits p x) :
    KeepsRows admits p (executeWithPolicy node x) := by
  unfold executeWithPolicy
  split
  · exact keepsRows_handle hx (fun _ => keepsRows_handle hx (fun _ => hx))
  · exact hx

/-- **No node tells of a wake-up**, and what it writes of them it commits. -/
theorem keepsRows_node (services : WorkflowServices) {ad : DockerExecutionAdapter}
    (hadapter : services.adapter = ad.provider p) (node : WorkflowNode)
    (state : IncidentGraphState) :
    KeepsRows admits p ((incidentWorkflow p actor services).node node state) := by
  by_cases hexecute : node = .execute
  · subst hexecute
    refine keepsRows_executeWithPolicy .execute (keepsRows_of_quiet ?_)
    show Within _ (executeNode p actor services.adapter state)
    rw [hadapter]
    exact quiet_executeNode ad state
  · by_cases hverify : node = .verify
    · subst hverify
      exact keepsRows_executeWithPolicy .verify (keepsRows_verifyNode state _)
    · exact keepsRows_worker (workerStep_node (fun _ _ => trivial) (fun _ => trivial)
        permits_unscheduled services state node hexecute (fun h => absurd h hverify)
        (fun _ => rfl) (fun _ _ => rfl))

theorem keepsRows_pauseForApproval (i : Nat) (state : IncidentGraphState) :
    KeepsRows admits p (pauseForApproval p actor i state) := by
  refine keepsRows_bind (keepsRows_worker (workerStep_unitOfWork_unseen permits_unscheduled.transaction
    (workerStep_advanceIncident permits_unscheduled.incident _ _ _))) (fun inc => ?_)
  exact keepsRows_bind (keepsRows_scheduleWakeup _ _ _ _ _) (fun _ => keepsRows_pure _)

theorem keepsRows_runGraph (i token : Nat) (services : WorkflowServices) {ad : DockerExecutionAdapter}
    (hadapter : services.adapter = ad.provider p) (r : Reconstruction)
    (metadata : ResumeMetadata) :
    KeepsRows admits p (runGraph p actor i services r metadata token) := by
  refine keepsRows_bind (keepsRows_worker (workerStep_unitOfWork_unseen permits_unscheduled.transaction
    (workerStep_verifyIncidentLease _ _ _))) (fun held => ?_)
  split
  · exact keepsRows_throw _
  · refine keepsRows_bind (keepsRows_worker (workerStep_asked _)) (fun saved => ?_)
    refine keepsRows_bind (triple_invoke (keepsRows_node services hadapter) _ _ _) (fun state => ?_)
    split
    · exact keepsRows_pauseForApproval i state
    · exact keepsRows_pure _

theorem keepsRows_holding (i : Nat) (expectedVersion : Option Nat) {body : Nat → Prog α}
    (hbody : ∀ token, KeepsRows admits p (body token)) :
    KeepsRows admits p (holding p actor i expectedVersion body) := by
  have hrelease : ∀ token, KeepsRows admits p (do
      observe [.left p i]
      tryCatch (unitOfWork ⟨p, 0⟩ actor (releaseIncidentLease ⟨p, 0⟩ i token))
        (fun _ => pure ()) : Prog Unit) := by
    intro token
    refine keepsRows_worker (Within.bind (workerStep_observe ?_) (fun _ => Within.handle
      (workerStep_unitOfWork_unseen permits_unscheduled.transaction
        (workerStep_releaseIncidentLease permits_unscheduled.lease _ _))
      (fun _ => within_pure _)))
    intro e he
    rw [List.mem_singleton.mp he]
    rfl
  refine keepsRows_bind (keepsRows_worker (workerStep_unitOfWork permits_unscheduled.transaction
    (workerStep_acquireIncidentLease permits_unscheduled.lease _ _ _) ?_)) (fun token => ?_)
  · intro token e he
    rw [List.mem_singleton.mp he]
    rfl
  · exact keepsRows_bind (keepsRows_handle (hbody token) (fun e => keepsRows_bind (hrelease token)
      (fun _ => keepsRows_throw e))) (fun a => keepsRows_bind (hrelease token) (fun _ => keepsRows_pure a))

/-- **A run keeps the rows**, whatever it finds. -/
theorem keepsRows_runIncident (i : Nat) (services : WorkflowServices) {ad : DockerExecutionAdapter}
    (hadapter : services.adapter = ad.provider p) (expectedVersion : Option Nat)
    (metadata : ResumeMetadata) :
    KeepsRows admits p (runIncident p actor i services expectedVersion metadata) := by
  refine keepsRows_bind (keepsRows_worker (workerStep_inspectIncident permits_unscheduled _ _ _
    (fun _ _ => rfl))) (fun found => ?_)
  cases found with
  | none => exact keepsRows_pure _
  | some r =>
      exact keepsRows_bind (keepsRows_holding i _ (fun token => keepsRows_runGraph i token services hadapter r
        metadata)) (fun _ => keepsRows_pure _)

end Nodes

/-! ### Claiming what is due

What was found due may be claimed by somebody else before it is claimed here, and then the claim
finds no row and nothing is dispatched.  A row that was found stays the row of its wake-up, so what
is dispatched is what was found.
-/

/-- There is a row of this wake-up, and its time has come. -/
def FoundDue (schedule : WorkflowSchedule) (s : Db) : Prop :=
  schedule.nextRunAt ≤ s.now ∧
    ∃ row, some row ∈ (s.schedules schedule.id).versions ∧ SameWakeup row schedule

/-- The recovery service has written that it has claimed the row, and has not committed yet. -/
structure WakeupClaimed (p : Nat) (schedule : WorkflowSchedule) (s : Db) : Prop where
  due : schedule.nextRunAt ≤ s.now
  rest : SettledBut p 0 s
  row : ∃ row, (s.schedules schedule.id).own ⟨p, 0⟩ = [some row] ∧ row.status = .processed ∧
    SameWakeup row schedule

section Claiming

variable {admits : Db → Db → Prop} {p : Nat} {actor : String}

theorem lasting_foundDue (schedule : WorkflowSchedule) :
    (scheduleProtocol admits).Lasting p (FoundDue schedule) where
  others := by
    rintro s s' _ ⟨hdue, row, hrow, hsame⟩ hother
    have hrest := rest_of_other hother
    exact ⟨hdue.trans hrest.now, row, (hrest.versions _).mem hrow, hsame⟩
  own := by
    rintro s s' _ ⟨hdue, row, hrow, hsame⟩ (hact : ScheduleAct p s s') _
    exact ⟨hact.now ▸ hdue, row, (hact.cells _).versions_suffix.mem hrow, hsame⟩

theorem lasting_seen (e : Event) :
    (scheduleProtocol admits).Lasting p (fun s => e ∈ s.log) where
  others := fun _ _ _ he hother => (rest_of_other hother).log he
  own := fun _ _ _ he hact _ => ScheduleAct.log hact he

theorem lasting_all {γ : Type} (l : List γ) {R : γ → Db → Prop}
    (hR : ∀ c, (scheduleProtocol admits).Lasting p (R c)) :
    (scheduleProtocol admits).Lasting p (fun s => ∀ c ∈ l, R c s) where
  others := fun s s' hinv h hother c hc => (hR c).others s s' hinv (h c hc) hother
  own := fun s s' hinv h hguar hadm c hc => (hR c).own s s' hinv (h c hc) hguar hadm

theorem stable_wakeupClaimed (schedule : WorkflowSchedule) :
    (scheduleProtocol admits).Stable p (WakeupClaimed p schedule) := by
  intro s s' hinv h hother
  have hrest := rest_of_other hother
  refine ⟨h.due.trans hrest.now, stable_settledBut s s' hinv h.rest hother, ?_⟩
  rw [hrest.own]
  exact h.row

theorem RowsSettled.but {s : Db} {l : Nat} (h : RowsSettled p s) : SettledBut p l s :=
  fun w l' hl _ => h w l' hl

/-- What is fetched has been found due. -/
theorem fetchDueSchedules_triple (limit : Nat) :
    (scheduleProtocol admits).Triple p (RowsSettled p) (fetchDueSchedules ⟨p, 0⟩ actor limit)
      (fun due s => RowsSettled p s ∧ ∀ schedule ∈ due, FoundDue schedule s)
      (fun _ => RowsSettled p) := by
  have hback : ∀ s, ScheduleInv s → RowsSettled p s →
      ScheduleAct p s (s.rollback ⟨p, 0⟩) ∧ RowsSettled p (s.rollback ⟨p, 0⟩) := fun s hinv hs =>
    ⟨(RowsAlone.back s 0).act hinv, (RowsAlone.back s 0).settled hs⟩
  refine triple_unitOfWork (B := RowsSettled p) (F := RowsSettled p)
    (M := fun due s => RowsSettled p s ∧ ∀ schedule ∈ due, FoundDue schedule s) ?_ ?_
    (fun due => ?_) ?_ (fun _ _ h => h)
  · refine triple_beginTx stable_rowsSettled (fun s hinv _ => ScheduleAct.refl hinv)
      (fun _ _ h => h) (fun s hinv hs _ => ?_)
    exact ⟨(RowsAlone.started s _).act hinv, (RowsAlone.started (p := p) s _).settled hs⟩
  · refine triple_select stable_rowsSettled (fun s hinv _ => ScheduleAct.refl hinv)
      (fun _ _ h => h) (fun s hinv hs => ⟨hs, ?_⟩)
    intro schedule hschedule
    have hmem := List.mem_of_mem_take hschedule
    rw [List.mem_insertionSort, List.mem_filter, List.mem_filterMap] at hmem
    obtain ⟨⟨w, -, hvisible⟩, hdue⟩ := hmem
    rw [Cell.visible_eq_committed (hs w 0 (by omega))] at hvisible
    have hversion : some schedule ∈ (s.schedules w).versions := Cell.committed_mem hvisible
    have hid : schedule.id = w := hinv.keyed w schedule
      ((Cell.versions_suffix_chain _).mem hversion)
    simp only [WorkflowSchedule.due, Bool.and_eq_true, decide_eq_true_eq] at hdue
    refine ⟨hdue.2.trans (hinv.clock _), schedule, ?_, rfl, rfl⟩
    rw [hid]
    exact hversion
  · have hlasting : (scheduleProtocol admits).Lasting p
        (fun s => ∀ schedule ∈ due, FoundDue schedule s) :=
      lasting_all due lasting_foundDue
    refine triple_commitTx (stable_rowsSettled.and hlasting.others)
      (fun s hinv hs _ => hback s hinv hs.1) (fun s hinv hs hadm => ?_)
    have halone : RowsAlone p s ((s.commit ⟨p, 0⟩).record []) :=
      RowsAlone.committed s 0 (by simp)
    have hact := halone.act hinv
    exact ⟨hact, halone.settled hs.1, hlasting.own _ _ hinv hs.2 hact hadm⟩
  · exact triple_rollbackTx stable_rowsSettled (fun s hinv hs _ => hback s hinv hs)

/-- A row that is claimed was waiting, and nobody has dispatched it. -/
theorem markScheduleProcessedAtomic_triple (schedule : WorkflowSchedule) :
    (scheduleProtocol admits).Triple p (fun s => RowsSettled p s ∧ FoundDue schedule s)
      (markScheduleProcessedAtomic ⟨p, 0⟩ schedule.id)
      (fun claimed s => if claimed then WakeupClaimed p schedule s else RowsSettled p s)
      (fun _ => SettledBut p 0) := by
  refine triple_sql (stable_rowsSettled.and (lasting_foundDue schedule).others)
    (fun s hinv _ => ScheduleAct.refl hinv) (fun s _ h => h.1.but) ?_
  rintro s r s' hinv ⟨hs, hdue, row₀, hrow₀, hsame⟩ hf _
  simp only at hf
  split at hf
  swap
  · simp only [Option.some.injEq, Prod.mk.injEq] at hf
    obtain ⟨rfl, rfl⟩ := hf
    exact ⟨ScheduleAct.refl hinv, hs⟩
  rename_i row hrow
  rw [Option.filter_eq_some_iff, decide_eq_true_eq] at hrow
  obtain ⟨hvisible, hpending⟩ := hrow
  split at hf
  swap
  · cases hf
  rename_i hfree
  simp only [Option.some.injEq, Prod.mk.injEq] at hf
  obtain ⟨rfl, rfl⟩ := hf
  have hchange : ∀ w, ScheduleChange p (s.drawnBy w = some p) w (s.schedules w)
      (Function.update s.schedules schedule.id ((s.schedules schedule.id).write ⟨p, 0⟩
        (some { row with status := .processed })) w) := by
    intro w
    by_cases hw : w = schedule.id
    · subst hw
      rw [Function.update_self]
      exact .claimed 0 _ row hfree hvisible hpending
    · rw [Function.update_of_ne hw]
      exact .same _
  refine ⟨⟨rfl, List.Subset.refl _, fun _ _ h => h, hchange, ?_⟩, ⟨hdue, ?_, ?_⟩⟩
  · exact hinv.keep (le_refl _) (fun _ => .inl rfl) ⟨[], rfl, by simp⟩ hinv.drawn
      (fun _ _ h => h) fun w => ⟨p, hchange w⟩
  · intro w l hl hne
    show (Function.update s.schedules schedule.id _ w).own ⟨p, l⟩ = []
    by_cases hw : w = schedule.id
    · rw [hw, Function.update_self]
      refine Cell.own_eq_nil_of_not_locked (Cell.not_locked_of_locked ?_ (Cell.locked_write _))
      exact fun heq => hne (TxId.mk.inj heq).2
    · rw [Function.update_of_ne hw]
      exact hs w l hl
  · refine ⟨{ row with status := .processed }, ?_, rfl, ?_⟩
    · show (Function.update s.schedules schedule.id _ schedule.id).own ⟨p, 0⟩ = _
      rw [Function.update_self, Cell.own_write, hs schedule.id 0 (by omega)]
    · -- the newest version is of the same wake-up as the one that was found
      rw [Cell.visible_eq_committed (hs schedule.id 0 (by omega))] at hvisible
      obtain ⟨newest, hnewest, hold⟩ := linked_newest ((hinv.linked schedule.id).suffix
        (Cell.versions_suffix_chain _)) hrow₀
      obtain rfl : row = newest := Option.some.inj (hvisible.symm.trans hnewest)
      exact ⟨hsame.incidentId.trans hold.incidentId.symm,
        hsame.nextRunAt.trans hold.nextRunAt.symm⟩

/-- Whoever has claimed the row and commits is the first to dispatch it. -/
theorem WakeupClaimed.dispatch {s : Db} {schedule : WorkflowSchedule} (hinv : ScheduleInv s)
    (h : WakeupClaimed p schedule s) :
    ScheduleAct p s
      ((s.commit ⟨p, 0⟩).record [.dispatched p schedule.id schedule.incidentId]) := by
  have halone : RowsAlone p s ((s.commit ⟨p, 0⟩).record []) := RowsAlone.committed s 0 (by simp)
  have hact := halone.act hinv
  obtain ⟨row, hown, hprocessed, hsame⟩ := h.row
  have hnone : ∀ q i, .dispatched q schedule.id i ∉ s.log := fun q i =>
    hinv.not_dispatched (by rw [hown]; simp) q i
  have hcommitted : ((s.commit ⟨p, 0⟩).schedules schedule.id).committed = some row := by
    show ((s.schedules schedule.id).commit ⟨p, 0⟩).committed = some row
    rw [Cell.committed_commit]
    unfold Cell.visible Cell.view
    rw [hown]
    rfl
  refine ⟨hact.now, List.subset_cons_self _ _, hact.drawn, hact.cells, ?_⟩
  exact ScheduleInv.dispatch hact.inv hcommitted hprocessed hsame.incidentId.symm
    (hsame.nextRunAt ▸ h.due) hnone

theorem claimDueSchedule_triple (schedule : WorkflowSchedule) :
    (scheduleProtocol admits).Triple p (fun s => RowsSettled p s ∧ FoundDue schedule s)
      (claimDueSchedule ⟨p, 0⟩ actor schedule)
      (fun claimed s => RowsSettled p s ∧
        (claimed = true → .dispatched p schedule.id schedule.incidentId ∈ s.log))
      (fun _ => RowsSettled p) := by
  have hback : ∀ s, ScheduleInv s → SettledBut p 0 s →
      ScheduleAct p s (s.rollback ⟨p, 0⟩) ∧ RowsSettled p (s.rollback ⟨p, 0⟩) := fun s hinv hs =>
    ⟨(RowsAlone.back s 0).act hinv,
      (RowsAlone.back s 0).settled_of_ended hs fun w => Cell.own_rollback_self⟩
  have hcommit : ∀ s, SettledBut p 0 s → RowsSettled p (s.commit ⟨p, 0⟩) := by
    intro s hs
    have halone : RowsAlone p s ((s.commit ⟨p, 0⟩).record []) := RowsAlone.committed s 0 (by simp)
    exact halone.settled_of_ended hs fun w => Cell.own_commit_self
  refine triple_unitOfWork (B := fun s => RowsSettled p s ∧ FoundDue schedule s)
    (F := SettledBut p 0)
    (M := fun claimed s => if claimed then WakeupClaimed p schedule s else RowsSettled p s)
    ?_ (markScheduleProcessedAtomic_triple schedule) (fun claimed => ?_) ?_ (fun _ _ h => h.1)
  · refine triple_beginTx (stable_rowsSettled.and (lasting_foundDue schedule).others)
      (fun s hinv _ => ScheduleAct.refl hinv) (fun _ _ h => h.1.but) (fun s hinv hs hadm => ?_)
    have halone : RowsAlone p s (s.started ⟨p, 0⟩) := RowsAlone.started s _
    have hact := halone.act hinv
    exact ⟨hact, halone.settled hs.1, (lasting_foundDue schedule).own _ _ hinv hs.2 hact hadm⟩
  · cases claimed with
    | false =>
        refine triple_commitTx stable_rowsSettled (fun s hinv hs _ => ?_) (fun s hinv hs _ => ?_)
        · obtain ⟨hact, hsettled⟩ := hback s hinv hs.but
          exact ⟨hact, hsettled.but⟩
        · have halone : RowsAlone p s ((s.commit ⟨p, 0⟩).record []) :=
            RowsAlone.committed s 0 (by simp)
          exact ⟨halone.act hinv, halone.settled hs, fun h => by cases h⟩
    | true =>
        refine triple_commitTx (stable_wakeupClaimed schedule) (fun s hinv hs _ => ?_)
          (fun s hinv hs _ => ?_)
        · obtain ⟨hact, hsettled⟩ := hback s hinv hs.rest
          exact ⟨hact, hsettled.but⟩
        · exact ⟨hs.dispatch hinv, hcommit s hs.rest, fun _ => List.mem_cons_self⟩
  · exact triple_rollbackTx stable_settledBut (fun s hinv hs _ => hback s hinv hs)

end Claiming

/-! ### The recovery service -/

section Recovery

variable {admits : Db → Db → Prop} {p : Nat} {workerId : String}

/-- What has become of a run is told by the one who has dispatched it. -/
theorem keepsRows_tell {X : Err → Db → Prop} {w i : Nat} {e : Event}
    (he : e = .completed p w i ∨ e = .abandoned p w i) :
    (scheduleProtocol admits).Triple p (fun s => RowsSettled p s ∧ .dispatched p w i ∈ s.log)
      (observe [e]) (fun _ => RowsSettled p) X := by
  refine triple_observe (stable_rowsSettled.and (lasting_seen _).others) ?_
  rintro s hinv ⟨hs, hseen⟩ -
  exact ⟨⟨rfl, List.subset_cons_self _ _, fun _ _ h => h, fun _ => .same _,
    hinv.tell he hseen⟩, hs⟩

/-- The run for a wake-up that has been dispatched, and what is told of it. -/
theorem keepsRows_dispatchedRun (schedule : WorkflowSchedule) :
    (scheduleProtocol admits).Triple p
      (fun s => RowsSettled p s ∧ .dispatched p schedule.id schedule.incidentId ∈ s.log)
      (tryCatch
        (do
          let _ ← runIncident p workerId schedule.incidentId (defaultServices p workerId)
            (some schedule.incidentVersion) schedule.resumeMetadata
          observe [.completed p schedule.id schedule.incidentId]
          pure 1)
        (fun _ => do
          observe [.abandoned p schedule.id schedule.incidentId]
          pure 0) : Prog Nat)
      (fun _ => RowsSettled p) (fun _ => RowsSettled p) := by
  refine Triple.handle
    (M := fun _ s => RowsSettled p s ∧ .dispatched p schedule.id schedule.incidentId ∈ s.log)
    ?_ (fun _ => ?_)
  · refine ((keepsRows_runIncident schedule.incidentId (defaultServices p workerId) rfl _ _).frame
      (lasting_seen _)).bind (fun _ => ?_)
    exact (keepsRows_tell (.inl rfl)).bind (fun _ => triple_pure _ fun _ _ h => h)
  · exact (keepsRows_tell (.inr rfl)).bind (fun _ => triple_pure _ fun _ _ h => h)

theorem resumeSchedules_triple (due : List WorkflowSchedule) :
    (scheduleProtocol admits).Triple p
      (fun s => RowsSettled p s ∧ ∀ schedule ∈ due, FoundDue schedule s)
      (resumeSchedules p workerId due) (fun _ => RowsSettled p) (fun _ => RowsSettled p) := by
  induction due with
  | nil => exact triple_pure _ fun _ _ h => h.1
  | cons schedule rest ih =>
      have hrest : (scheduleProtocol admits).Lasting p
          (fun s => ∀ schedule ∈ rest, FoundDue schedule s) := lasting_all rest lasting_foundDue
      have hclaim : (scheduleProtocol admits).Triple p
          (fun s => (RowsSettled p s ∧ FoundDue schedule s) ∧
            ∀ schedule ∈ rest, FoundDue schedule s)
          (claimDueSchedule ⟨p, 0⟩ "worker:recovery" schedule)
          (fun claimed s => (RowsSettled p s ∧
            (claimed = true → .dispatched p schedule.id schedule.incidentId ∈ s.log)) ∧
              ∀ schedule ∈ rest, FoundDue schedule s)
          (fun _ s => RowsSettled p s ∧ ∀ schedule ∈ rest, FoundDue schedule s) :=
        (claimDueSchedule_triple schedule).frame hrest
      refine Triple.bind (hclaim.conseq ?_ (fun _ _ _ h => h) (fun _ _ _ h => h.1))
        (fun claimed => ?_)
      · rintro s - ⟨hs, hdue⟩
        exact ⟨⟨hs, hdue schedule List.mem_cons_self⟩,
          fun c hc => hdue c (List.mem_cons_of_mem _ hc)⟩
      have hmore : ∀ dispatched : Nat, (scheduleProtocol admits).Triple p
          (fun s => RowsSettled p s ∧ ∀ schedule ∈ rest, FoundDue schedule s)
          (do
            let more ← resumeSchedules p workerId rest
            pure (dispatched + more)) (fun _ => RowsSettled p) (fun _ => RowsSettled p) :=
        fun dispatched => ih.bind (fun more => triple_pure _ fun _ _ h => h)
      cases claimed with
      | false =>
          refine Triple.bind ?_ hmore
          exact triple_pure _ fun _ _ h => ⟨h.1.1, h.2⟩
      | true =>
          refine Triple.bind ?_ hmore
          refine ((keepsRows_dispatchedRun schedule).frame hrest).conseq ?_ (fun _ _ _ h => h)
            (fun _ _ _ h => h.1)
          rintro s - ⟨⟨hs, hseen⟩, hdue⟩
          exact ⟨⟨hs, hseen rfl⟩, hdue⟩

theorem keepsRows_recoverDueSchedules :
    KeepsRows admits p (recoverDueSchedules p workerId) :=
  (fetchDueSchedules_triple 25).bind resumeSchedules_triple

theorem keepsRows_cleanupExpiredLeases : KeepsRows admits p (cleanupExpiredLeases p) := by
  have hrows : ∀ ids, Within (WorkerStep p Unscheduled Untold (fun _ => True))
      (cleanupRows p ids) := by
    intro ids
    induction ids with
    | nil => exact within_pure _
    | cons i rest ih =>
        exact Within.bind (workerStep_cleanupExpiredLease permits_unscheduled.lease i) (fun _ => ih)
  exact keepsRows_worker (workerStep_unitOfWork_unseen permits_unscheduled.transaction
    (Within.bind (workerStep_select _) (fun ids => hrows ids)))

theorem keepsRows_runStuck (stuck : List (Nat × Incident)) :
    KeepsRows admits p (runStuck p workerId stuck) := by
  induction stuck with
  | nil => exact keepsRows_pure _
  | cons found rest ih =>
      refine keepsRows_bind (keepsRows_handle ?_ (fun _ => keepsRows_pure _)) (fun _ =>
        keepsRows_bind ih (fun _ => keepsRows_pure _))
      exact keepsRows_bind (keepsRows_runIncident found.1 (defaultServices p workerId) rfl _ _)
        (fun _ => keepsRows_pure _)

theorem keepsRows_recoveryRound : KeepsRows admits p (recoveryRound p workerId) := by
  refine keepsRows_handle (keepsRows_bind keepsRows_recoverDueSchedules (fun _ =>
    keepsRows_bind keepsRows_cleanupExpiredLeases (fun _ => keepsRows_bind ?_
      (fun _ => keepsRows_pure _)))) (fun _ => keepsRows_pure _)
  exact keepsRows_bind (keepsRows_worker (workerStep_unitOfWork_unseen
    permits_unscheduled.transaction (workerStep_select _))) keepsRows_runStuck

theorem keepsRows_task (task : WorkerTask) : KeepsRows admits p (task.prog p) := by
  cases task with
  | recovery workerId => exact keepsRows_recoveryRound
  | message workerId i expectedVersion =>
      exact keepsRows_bind (keepsRows_runIncident i (defaultServices p workerId) rfl _ _)
        (fun _ => keepsRows_pure _)

theorem scheduleProtocol_rests : (scheduleProtocol admits).RestsIn RowsSettled where
  stable _ := stable_rowsSettled
  crash p s _ := by
    intro w l hl
    show (((s.schedules w).rollback ⟨p, 0⟩).rollback ⟨p, 1⟩).own ⟨p, l⟩ = []
    obtain rfl | rfl : l = 0 ∨ l = 1 := by omega
    · exact Cell.own_rollback_of_nil Cell.own_rollback_self
    · exact Cell.own_rollback_self
  safe p task s hinv hs _ := by
    show (scheduleProtocol admits).Safe p (do let _ ← (task.prog p).run; pure ()) _ s
    rw [safe_bind]
    refine (keepsRows_task task s hinv hs).mono fun r s' hr => ?_
    cases r with
    | ok a => exact hr
    | error e => exact hr

end Recovery

/-! ### Every run -/

/-- Where a run begins: nothing is under way, and the rows of the wake-ups that there are have
identifiers that were handed out. -/
structure Db.WakeupsAtRest (s : Db) : Prop extends s.Initial where
  rows : ∀ w, s.schedules w = Cell.empty ∨
    ∃ row, row.id = w ∧ s.schedules w = Cell.ofRow row ∧ s.drawnBy w ≠ none

theorem ScheduleInv.initial {s : Db} (h : s.WakeupsAtRest) : ScheduleInv s where
  clock := h.clock
  drawn := h.drawn
  undrawn w hnone := by
    rcases h.rows w with hempty | ⟨row, -, -, howner⟩
    · exact hempty
    · exact absurd hnone howner
  linked w := by
    rcases h.rows w with hempty | ⟨row, -, hrow, -⟩
    · rw [hempty]
      trivial
    · rw [hrow]
      exact ⟨trivial, trivial⟩
  keyed w row hmem := by
    rcases h.rows w with hempty | ⟨old, hid, hrow, -⟩
    · rw [hempty] at hmem
      cases hmem
    · rw [hrow] at hmem
      obtain rfl : row = old := Option.some.inj (List.mem_singleton.mp hmem)
      exact hid
  dispatched q w i hseen := by
    rw [h.log] at hseen
    cases hseen
  once w := by
    rw [h.log]
    exact Nat.zero_le 1
  told q w i hseen := by
    rw [h.log] at hseen
    cases hseen with
    | inl hmem => cases hmem
    | inr hmem => cases hmem

theorem Db.WakeupsAtRest.settled {s : Db} (h : s.WakeupsAtRest) (p : Nat) : RowsSettled p s := by
  intro w l _
  rcases h.rows w with hempty | ⟨row, -, hrow, -⟩
  · rw [hempty]
    rfl
  · rw [hrow]
    rfl

/-- **No wake-up is dispatched twice.**  Take any run of any number of workers and recovery services,
with the requests of operators and the deaths of processes in between.  Each wake-up is dispatched
once at most; then its row is claimed for good, it is of the incident that is run, and its time has
come; and it is the process that has dispatched it that says what has become of the run. -/
theorem wakeup_dispatched_once (admits : Db → Db → Prop) (s₀ : Db) (h₀ : s₀.WakeupsAtRest)
    (c : Config World Db) (hr : Reaches (workerMachine admits) (Config.idle s₀) c) (w : Nat) :
    c.state.log.countP (Event.dispatches w) ≤ 1 ∧
    (∀ q i, .dispatched q w i ∈ c.state.log → ∃ row, c.state.schedule w = some row ∧
      row.status = .processed ∧ row.incidentId = i ∧ row.nextRunAt ≤ c.state.now) ∧
    ∀ q i, .completed q w i ∈ c.state.log ∨ .abandoned q w i ∈ c.state.log →
      .dispatched q w i ∈ c.state.log := by
  have hinv : ScheduleInv c.state := scheduleProtocol_rests.inv_of_reaches
    (ScheduleInv.initial h₀) h₀.settled hr
  exact ⟨hinv.once w, fun q i => hinv.dispatched q w i, fun q i => hinv.told q w i⟩

/-- A cooldown that is over. -/
def pastCooldown : WorkflowSchedule where
  id := 7
  incidentId := 1
  incidentVersion := 1
  nextRunAt := 0
  waitReason := .cooldown
  resumeMetadata := {}

/-- An incident that is resolved, and a cooldown for it that is over. -/
def cooledDown : Db :=
  { Db.init 0 with
    nextId := 8
    drawnBy := fun id => if id < 8 then some 0 else none
    incidentIds := [1]
    incidents := Function.update (fun _ => Cell.empty) 1
      (Cell.ofRow
        { id := 1, resourceId := 4, correlationKey := "k", state := .resolved, updatedAt := 0 })
    scheduleIds := [7]
    schedules := Function.update (fun _ => Cell.empty) 7 (Cell.ofRow pastCooldown) }

theorem cooledDown_atRest : cooledDown.WakeupsAtRest where
  log := rfl
  clock _ := le_refl _
  drawn id q hid := by
    show id < 8
    by_contra hge
    have hnone : cooledDown.drawnBy id = none := if_neg hge
    rw [hnone] at hid
    cases hid
  rows w := by
    have hcells : cooledDown.schedules =
        Function.update (fun _ => Cell.empty) 7 (Cell.ofRow pastCooldown) := rfl
    rw [hcells]
    by_cases hw : w = 7
    · subst hw
      exact .inr ⟨pastCooldown, rfl, Function.update_self .., by simp [cooledDown]⟩
    · exact .inl (Function.update_of_ne hw _ _)

/-- Two services have found it due, and one of them claims it and completes the run. -/
theorem wakeup_dispatched_once_raced :
    ∃ c, Reaches (workerMachine (fun _ _ => True)) (Config.idle cooledDown) c ∧
      .completed 1 7 1 ∈ c.state.log ∧ c.state.log.countP (Event.dispatches 7) ≤ 1 := by
  obtain ⟨c, hr, htest⟩ := Machine.reaches_of_exec (workerMachine (fun _ _ => True))
    (Config.idle cooledDown)
    ([.start 1 (.recovery "worker:a"), .start 2 (.recovery "worker:b")] ++
      List.replicate 3 (.run 1 {}) ++ List.replicate 3 (.run 2 {}) ++
      List.replicate 7 (.run 1 {}) ++ List.replicate 3 (.run 2 {}))
    (fun db => decide (.completed 1 7 1 ∈ db.log)) (by decide)
  rw [decide_eq_true_eq] at htest
  exact ⟨c, hr, htest, (wakeup_dispatched_once _ cooledDown cooledDown_atRest c hr 7).1⟩

end SelfHealing
