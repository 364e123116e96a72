/-
What a wake-up does for an incident that waits for an approval.

The node that waits would escalate the incident if the state said that the approval has expired,
but nothing ever says so: the wake-up brings only that the run is resumed from an approval, and
the state is made from the database and from the state that was saved.  On the way to that node
the policy is evaluated once more, and it requires an approval as before, unless it denies the
plan by now.  So the incident goes on waiting and the next wake-up is scheduled.

The wake-up is claimed and the incident run by one process, which is looked at on its own, where
the database refuses nothing.  `approval_timeout_iff` says when that leaves the incident escalated.
-/
import SelfHealing.Workflow.Recovery
import SelfHealing.Proofs.LeaseFencing

namespace SelfHealing

open Interleaving Interleaving.Prog ReadCommitted

/-! ### What is said of a wake-up

What is promised is that the incident is escalated in the end, and the condition is on the rows
that the run is going to read: the incident, its plan and its decisions, the controls, and the
state that was saved.  The run is alone, so that they are still these rows when it comes to them.
-/

/-- Nothing is refused, and this is the state that was saved last. -/
def Answering (saved : Option IncidentGraphState) : World → Prop :=
  fun w => w.fails = false ∧ w.checkpoint = saved

namespace Db

variable (db : Db)

/-- What the database says of an incident. -/
def reconstruction (i : Nat) (inc : Incident) : Reconstruction :=
  let plans := db.plans.reverse.filter fun plan => plan.incidentId = i
  { incidentId := i
    incident := inc
    plans := plans
    evidence := db.evidence i
    diagnoses := db.diagnoses.reverse.filter fun diag => diag.incidentId = i
    approvals := db.approvals.reverse.filter fun approval =>
      plans.any fun plan => plan.id = approval.planId }

/-- The controls, or those that are put in where there are none. -/
def controls (actor : String) : AutomationControl :=
  db.control.committed.getD
    { mode := .approvalRequired, emergencyStoppedResources := [], updatedAt := db.now,
      updatedBy := actor, reason := "Default initial automation mode" }

/-- What the graph begins with at the wake-up. -/
def wakeUpState (schedule : WorkflowSchedule) (inc : Incident)
    (saved : Option IncidentGraphState) : IncidentGraphState :=
  (db.reconstruction schedule.incidentId inc).initialState saved schedule.resumeMetadata

/-- What the policy engine is asked about a plan in this state. -/
def asked (workerId : String) (inc : Incident) (planId : Nat) (state : IncidentGraphState) :
    EvaluationContext :=
  state.context planId (db.plans.find? fun plan => plan.id = planId) (db.controls workerId)
    (some inc) db.now

/-- The plan is denied by now, or its approval is said to have expired. -/
def refused (workerId : String) (inc : Incident) (planId : Nat) (state : IncidentGraphState) :
    Bool :=
  hardDeny (db.asked workerId inc planId state) {} || state.approvalExpired == some true

end Db

/-- The incident is escalated. -/
def Escalated (i : Nat) (db : Db) : Prop := ∃ inc, db.incident i = some inc ∧ inc.state = .escalated

/-- The wake-up of an incident that waits for an approval is due, its plan has had no approval,
and nobody has anything in hand. -/
structure TimedOut (p : Nat) (workerId : String) (schedule : WorkflowSchedule) (inc : Incident)
    (plan : RemediationPlan) (db : Db) : Prop where
  worker : validActor workerId = true
  scheduled : (db.schedules schedule.id).committed = some schedule
  pending : schedule.status = .pending
  reason : schedule.waitReason = .awaitingApproval
  due : schedule.nextRunAt ≤ db.now
  incident : db.incident schedule.incidentId = some inc
  state : inc.state = .pendingApproval
  /-- What the transition to this state asks for. -/
  routed : inc.approvalRequired = true
  diagnosed : ∃ diag ∈ db.diagnoses, diag.incidentId = schedule.incidentId
  planned : (db.reconstruction schedule.incidentId inc).latestPlan = some plan
  unapproved : ∀ approval ∈ db.approvals, ∀ other ∈ db.plans,
    other.incidentId = schedule.incidentId → other.id ≠ approval.planId
  unleased : ∀ lease, db.lease schedule.incidentId = some lease →
    lease.expiresAt ≤ db.now ∨ lease.owner = workerId
  scheduleIdle : (db.schedules schedule.id).pending = none
  incidentIdle : (db.incidents schedule.incidentId).pending = none
  leaseIdle : (db.leases schedule.incidentId).pending = none
  controlIdle : db.control.pending = none
  nothingAdded : db.added ⟨p, 0⟩ = []

/-- Claiming the wake-up and running the incident leaves it escalated. -/
def LeavesEscalated (p : Nat) (workerId : String) (schedule : WorkflowSchedule)
    (saved : Option IncidentGraphState) (db : Db) : Prop :=
  (resumeSchedules p workerId [schedule]).Surely (Answering saved)
    (fun _ => Escalated schedule.incidentId) (fun _ => Escalated schedule.incidentId) db

/-! ### The run up to the graph -/

/-- What the run reads is as it was, and the lease is this one. -/
structure Agrees (p i : Nat) (lease : Cell TxId WorkflowLease) (db s : Db) : Prop where
  incident : s.incidents i = db.incidents i
  lease : s.leases i = lease
  control : s.control = db.control
  plans : s.plans = db.plans
  diagnoses : s.diagnoses = db.diagnoses
  approvals : s.approvals = db.approvals
  evidence : s.evidence = db.evidence
  now : s.now = db.now
  added : s.added ⟨p, 0⟩ = []

section Run

variable {p i : Nat} {workerId : String} {schedule : WorkflowSchedule} {inc : Incident}
variable {plan : RemediationPlan} {saved : Option IncidentGraphState} {db s : Db}
variable {lease : Cell TxId WorkflowLease} {X : Err → Db → Prop}

theorem answering_sure (saved : Option IncidentGraphState) :
    ∀ w, Answering saved w → w.fails = false := fun _ h => h.1

theorem answering_exists (saved : Option IncidentGraphState) : ∃ w, Answering saved w :=
  ⟨{ checkpoint := saved }, rfl, rfl⟩

theorem Agrees.started (h : Agrees p i lease db s) (t : TxId) : Agrees p i lease db (s.started t) :=
  { h with }

theorem Agrees.setLease (h : Agrees p i lease db s) (c : Cell TxId WorkflowLease) :
    Agrees p i c db (s.setLease i c) :=
  { h with lease := Function.update_self _ _ _ }

/-- The end of a transaction that has changed at most the lease. -/
theorem Agrees.commitLease (h : Agrees p i lease db s) (hinc : (db.incidents i).pending = none)
    (hcontrol : db.control.pending = none) (evs : List Event) :
    Agrees p i (lease.commit ⟨p, 0⟩) db ((s.commit ⟨p, 0⟩).record evs) := by
  refine ⟨?_, ?_, ?_, ?_, ?_, ?_, h.evidence, h.now, Function.update_self _ _ _⟩
  · show (s.incidents i).commit ⟨p, 0⟩ = _
    rw [h.incident, commit_of_idle hinc]
  · show (s.leases i).commit ⟨p, 0⟩ = _
    rw [h.lease]
  · show s.control.commit ⟨p, 0⟩ = _
    rw [h.control, commit_of_idle hcontrol]
  · show (s.added ⟨p, 0⟩).filterMap NewRow.plan? ++ s.plans = _
    rw [h.added, h.plans]
    rfl
  · show (s.added ⟨p, 0⟩).filterMap NewRow.diagnosis? ++ s.diagnoses = _
    rw [h.added, h.diagnoses]
    rfl
  · show (s.added ⟨p, 0⟩).filterMap NewRow.approval? ++ s.approvals = _
    rw [h.added, h.approvals]
    rfl

/-- The end of a transaction that has changed nothing of it. -/
theorem Agrees.commit (h : Agrees p i lease db s) (hinc : (db.incidents i).pending = none)
    (hlease : lease.pending = none) (hcontrol : db.control.pending = none) (evs : List Event) :
    Agrees p i lease db ((s.commit ⟨p, 0⟩).record evs) := by
  have hcommit := h.commitLease hinc hcontrol evs
  rw [commit_of_idle hlease] at hcommit
  exact hcommit

/-- The wake-up is claimed. -/
theorem surely_claimDueSchedule (h : TimedOut p workerId schedule inc plan db) :
    (claimDueSchedule ⟨p, 0⟩ "worker:recovery" schedule).Surely (Answering saved)
      (fun claimed s => claimed = true ∧
        Agrees p schedule.incidentId (db.leases schedule.incidentId) db s)
      (fun _ _ => False) db := by
  refine surely_unitOfWork (answering_sure saved) (by decide +kernel) ?_
  apply surely_sql (answering_sure saved)
  · have hsame : (db.started ⟨p, 0⟩).schedules = db.schedules := rfl
    simp only
    rw [hsame, visible_of_idle h.scheduleIdle, h.scheduled,
      show Option.filter (fun row : WorkflowSchedule => decide (row.status = .pending))
        (some schedule) = some schedule from
        Option.filter_eq_some_iff.mpr ⟨rfl, by simp [h.pending]⟩]
    exact if_pos (free_of_idle h.scheduleIdle)
  · refine ⟨rfl, Agrees.commit ?_ h.incidentIdle h.leaseIdle h.controlIdle _⟩
    exact ⟨rfl, rfl, rfl, rfl, rfl, rfl, rfl, rfl, h.nothingAdded⟩

theorem TimedOut.visible (h : TimedOut p workerId schedule inc plan db)
    (hs : s.incidents schedule.incidentId = db.incidents schedule.incidentId) :
    (s.incidents schedule.incidentId).visible ⟨p, 0⟩ = some inc := by
  rw [hs, visible_of_idle h.incidentIdle]
  exact h.incident

theorem surely_getIncident {t : TxId} {Q : Option Incident → Db → Prop}
    (hrow : (s.incidents i).visible t = some inc) (h : Q (some inc) s) :
    (getIncident t i).Surely (Answering saved) Q X s := by
  refine surely_select (answering_sure saved) ?_
  rw [hrow]
  exact h

theorem surely_reconstruct (h : Agrees p i lease db s) :
    (reconstruct i inc).Surely (Answering saved)
      (fun r s' => r = db.reconstruction i inc ∧ s' = s) X s := by
  unfold reconstruct
  refine surely_bind (surely_select (answering_sure saved) ?_)
  refine surely_bind (surely_select (answering_sure saved) ?_)
  refine surely_bind (surely_select (answering_sure saved) ?_)
  refine surely_bind (surely_select (answering_sure saved) ?_)
  refine (surely_pure _).mpr ⟨?_, rfl⟩
  rw [h.plans, h.evidence, h.diagnoses, h.approvals]
  rfl

/-- The run finds that the wake-up is of an earlier version, or where to begin. -/
theorem surely_inspectIncident (h : TimedOut p workerId schedule inc plan db)
    (hs : Agrees p schedule.incidentId (db.leases schedule.incidentId) db s) :
    (inspectIncident p workerId schedule.incidentId (some schedule.incidentVersion)).Surely
      (Answering saved)
      (fun found s' => Agrees p schedule.incidentId (db.leases schedule.incidentId) db s' ∧
        found = if schedule.incidentVersion < inc.version then none
          else some (db.reconstruction schedule.incidentId inc))
      (fun _ _ => False) s := by
  refine surely_unitOfWork (answering_sure saved) h.worker ?_
  refine surely_bind (surely_getIncident (h.visible hs.incident) ?_)
  simp only
  rw [if_neg (by simp [h.state, IncidentState.terminal])]
  have hback : ∀ evs, Agrees p schedule.incidentId (db.leases schedule.incidentId) db
      (((s.started ⟨p, 0⟩).commit ⟨p, 0⟩).record evs) :=
    (hs.started ⟨p, 0⟩).commit h.incidentIdle h.leaseIdle h.controlIdle
  by_cases hstale : schedule.incidentVersion < inc.version
  · rw [if_pos (by simpa using hstale), if_pos hstale]
    exact (surely_pure _).mpr ⟨hback _, rfl⟩
  · rw [if_neg (by simpa using hstale), if_neg hstale]
    refine surely_bind ((surely_reconstruct (hs.started ⟨p, 0⟩)).mono ?_ (fun _ _ h => h))
    intro r s' hr
    refine (surely_pure _).mpr ⟨?_, by rw [hr.1]⟩
    rw [hr.2]
    exact hback _

/-- A lease of the run that has not lapsed. -/
structure Leased (token : Nat) (now : Int) (lease : Cell TxId WorkflowLease) : Prop where
  idle : lease.pending = none
  holds : ∃ row, lease.committed = some row ∧ row.token = token ∧ now < row.expiresAt

theorem leased_of_written {c : Cell TxId WorkflowLease} {t : TxId} {token : Nat} {now : Int}
    {row : WorkflowLease} (hidle : c.pending = none) (htoken : row.token = token)
    (hlapses : now < row.expiresAt) : Leased token now ((c.write t (some row)).commit t) := by
  refine ⟨(Touched.written _).commit_idle hidle, row, ?_, htoken, hlapses⟩
  rw [Cell.committed_commit, Cell.visible_write]

/-- The upsert of a lease that is free. -/
theorem surely_upsertLease {t : TxId} {token version : Nat} {Q : Option Nat → Db → Prop}
    (hidle : (s.leases i).pending = none)
    (hfree : ∀ l, (s.leases i).committed = some l →
      l.expiresAt ≤ s.txTime t ∨ l.owner = workerId)
    (h : Q (some token) (s.setLease i ((s.leases i).write t
      (some { owner := workerId, token := token, acquiredAt := s.txTime t,
              expiresAt := s.txTime t + seconds 30, incidentVersion := version })))) :
    (upsertLease t i workerId token 30 version).Surely (Answering saved) Q X s := by
  refine surely_sql (answering_sure saved) (r := .ok (some token)) ?_ h
  simp only
  rw [if_pos (free_of_idle hidle), if_neg (by decide), visible_of_idle hidle]
  cases hrow : (s.leases i).committed with
  | none => rfl
  | some l =>
      have havail : l.available (s.txTime t) workerId = true := by
        simpa [WorkflowLease.available] using hfree l hrow
      simp only [WorkflowLease.acquire]
      rw [if_pos havail]

theorem surely_acquireIncidentLease (h : TimedOut p workerId schedule inc plan db)
    (hs : Agrees p schedule.incidentId (db.leases schedule.incidentId) db s) :
    (unitOfWork ⟨p, 0⟩ workerId
      (acquireIncidentLease ⟨p, 0⟩ schedule.incidentId workerId 30 (some inc.version))
      (fun _ => [.entered p schedule.incidentId workerId])).Surely (Answering saved)
      (fun token s' => ∃ lease, Leased token db.now lease ∧
        Agrees p schedule.incidentId lease db s') (fun _ _ => False) s := by
  have hlease : (Db.draw p (s.started ⟨p, 0⟩)).leases schedule.incidentId =
      db.leases schedule.incidentId := hs.lease
  have htime : (Db.draw p (s.started ⟨p, 0⟩)).txTime ⟨p, 0⟩ = db.now := by
    show Function.update s.txTime ⟨p, 0⟩ s.now ⟨p, 0⟩ = db.now
    rw [Function.update_self, hs.now]
  refine surely_unitOfWork (answering_sure saved) h.worker ?_
  refine surely_bind (surely_uuid4 (surely_bind (surely_select (answering_sure saved) ?_)))
  rw [show ((Db.draw p (s.started ⟨p, 0⟩)).incidents schedule.incidentId).visible ⟨p, 0⟩ = some inc
    from h.visible hs.incident]
  simp only
  rw [show (some inc.version).filter (fun v => inc.version ≠ v) = none by simp]
  refine surely_bind (surely_upsertLease ?_ ?_ ?_)
  · rw [hlease]
    exact h.leaseIdle
  · rw [hlease, htime]
    exact h.unleased
  · have hafter : Agrees p schedule.incidentId (db.leases schedule.incidentId) db
        (Db.draw p (s.started ⟨p, 0⟩)) := { hs with }
    refine (surely_pure _).mpr ⟨_, ?_,
      (hafter.setLease _).commitLease h.incidentIdle h.controlIdle _⟩
    rw [hlease]
    refine leased_of_written h.leaseIdle rfl ?_
    show db.now < (Db.draw p (s.started ⟨p, 0⟩)).txTime ⟨p, 0⟩ + 30 * 1000000
    rw [htime]
    omega

/-- The lease is found to be held. -/
theorem surely_verifyIncidentLease {token : Nat} (h : TimedOut p workerId schedule inc plan db)
    (hlease : Leased token db.now lease) (hs : Agrees p schedule.incidentId lease db s) :
    (unitOfWork ⟨p, 0⟩ workerId (verifyIncidentLease ⟨p, 0⟩ schedule.incidentId token
      (some inc.version))).Surely (Answering saved)
      (fun held s' => held = true ∧ Agrees p schedule.incidentId lease db s')
      (fun _ _ => False) s := by
  obtain ⟨row, hrow, htoken, hlapses⟩ := hlease.holds
  have hverifies : WorkflowLease.verifies s.now token
      ((s.leases schedule.incidentId).visible ⟨p, 0⟩) = true := by
    rw [hs.lease, visible_of_idle hlease.idle, hrow, hs.now]
    simp [WorkflowLease.verifies, htoken, hlapses]
  refine surely_unitOfWork (answering_sure saved) h.worker ?_
  refine surely_bind (surely_select (answering_sure saved) (surely_bind (surely_datetimeNow ?_)))
  show Prog.Surely _ (if WorkflowLease.verifies s.now token
    ((s.leases schedule.incidentId).visible ⟨p, 0⟩) = true then _ else _) _ _ _
  rw [if_pos hverifies]
  refine surely_bind (surely_select (answering_sure saved) ((surely_pure _).mpr ⟨?_,
    (hs.started ⟨p, 0⟩).commit h.incidentIdle hlease.idle h.controlIdle _⟩))
  rw [show ((s.started ⟨p, 0⟩).incidents schedule.incidentId).visible ⟨p, 0⟩ = some inc from
    h.visible hs.incident]
  simp

/-! ### The graph -/

/-- What the graph begins with. -/
structure Resumed (i : Nat) (inc : Incident) (plan : RemediationPlan)
    (state : IncidentGraphState) : Prop where
  incidentId : state.incidentId = i
  version : state.version = inc.version
  diagnosis : state.currentDiagnosisId.isSome = true
  plan : state.currentPlanId = some plan.id
  unapproved : state.isApproved = some false

theorem TimedOut.resumed (h : TimedOut p workerId schedule inc plan db) :
    Resumed schedule.incidentId inc plan (db.wakeUpState schedule inc saved) := by
  have happrovals : (db.reconstruction schedule.incidentId inc).approvals = [] := by
    refine List.filter_eq_nil_iff.mpr ?_
    intro approval happroval
    rw [Bool.not_eq_true, List.any_eq_false]
    intro other hother
    obtain ⟨hmem, hof⟩ := List.mem_filter.mp hother
    simpa using h.unapproved approval (List.mem_reverse.mp happroval) other
      (List.mem_reverse.mp hmem) (by simpa using hof)
  have hdiagnosis : (db.reconstruction schedule.incidentId inc).latestDiagnosis.isSome = true := by
    obtain ⟨diag, hmem, hof⟩ := h.diagnosed
    have hne : (db.diagnoses.reverse.filter fun diag =>
        diag.incidentId = schedule.incidentId) ≠ [] :=
      List.ne_nil_of_mem (List.mem_filter.mpr ⟨List.mem_reverse.mpr hmem, by simpa using hof⟩)
    show ((db.diagnoses.reverse.filter fun diag =>
      diag.incidentId = schedule.incidentId).getLast?).isSome = true
    rw [List.getLast?_eq_some_getLast hne]
    rfl
  have happroved : (db.reconstruction schedule.incidentId inc).isApproved = false := by
    unfold Reconstruction.isApproved
    rw [happrovals, show (db.reconstruction schedule.incidentId inc).incident.state =
      .pendingApproval from h.state]
    rfl
  unfold Db.wakeUpState Reconstruction.initialState
  rw [h.planned]
  refine ⟨rfl, rfl, ?_, rfl, ?_⟩
  · simpa using hdiagnosis
  · simpa using happroved

variable {state : IncidentGraphState} {services : WorkflowServices}

theorem collectEvidenceNode_done (h : state.currentDiagnosisId.isSome = true) :
    collectEvidenceNode p workerId state = pure { state with status := .evidenceCollected } := by
  unfold collectEvidenceNode
  rw [if_pos (by simp [h])]

theorem diagnoseNode_done (h : state.currentDiagnosisId.isSome = true) :
    diagnoseNode p workerId state =
      pure { state with status := .diagnosed, isActionable := some true } := by
  unfold diagnoseNode
  split
  · rfl
  · rename_i hnone
    rw [hnone] at h
    simp at h

theorem planNode_done {planId : Nat} (h : state.currentPlanId = some planId) :
    planNode p workerId state = pure { state with status := .planned } := by
  unfold planNode
  split
  · rfl
  all_goals
    rename_i hnone _
    rw [hnone] at h
    simp at h

/-- Up to the policy, the graph finds everything done. -/
theorem surely_invoke_planned {limit : Nat} {Q : IncidentGraphState → Db → Prop}
    (hstate : Resumed i inc plan state)
    (h : ((incidentWorkflow p workerId services).invoke graphRecursionError limit .evaluatePolicy
      { state with status := .planned, isActionable := some true }).Surely (Answering saved)
      Q X s) :
    ((incidentWorkflow p workerId services).invoke graphRecursionError (limit + 3)
      .collectEvidence state).Surely (Answering saved) Q X s := by
  refine StateGraph.surely_invoke ?_
  show (retried (collectEvidenceNode p workerId state) 3).Surely _ _ _ _
  rw [collectEvidenceNode_done hstate.diagnosis]
  refine surely_tryCatch ((surely_pure _).mpr (StateGraph.surely_invoke ?_))
  show (diagnoseNode p workerId { state with status := .evidenceCollected }).Surely _ _ _ _
  rw [diagnoseNode_done (by exact hstate.diagnosis)]
  refine (surely_pure _).mpr (StateGraph.surely_invoke ?_)
  show (planNode p workerId
    { state with status := .diagnosed, isActionable := some true }).Surely _ _ _ _
  rw [planNode_done (by exact hstate.plan)]
  exact (surely_pure _).mpr h

/-! ### The policy -/

/-- The incident's row is this one, and the lease as well. -/
structure Kept (i : Nat) (row : Cell TxId Incident) (lease : Cell TxId WorkflowLease) (s : Db) :
    Prop where
  incident : s.incidents i = row
  lease : s.leases i = lease

theorem Kept.commit {row : Cell TxId Incident} (h : Kept i row lease s)
    (hrow : row.pending = none) (hlease : lease.pending = none) (evs : List Event) :
    Kept i row lease ((s.commit ⟨p, 0⟩).record evs) := by
  refine ⟨?_, ?_⟩
  · show (s.incidents i).commit ⟨p, 0⟩ = row
    rw [h.incident, commit_of_idle hrow]
  · show (s.leases i).commit ⟨p, 0⟩ = lease
    rw [h.lease, commit_of_idle hlease]

theorem surely_insertControl {t : TxId} {control : AutomationControl} {Q : Unit → Db → Prop}
    (hidle : s.control.pending = none) (hnone : s.control.committed = none)
    (h : Q () (s.setControl (s.control.write t (some control)))) :
    (insertControl t control).Surely (Answering saved) Q X s := by
  refine surely_sql (answering_sure saved) (r := .ok ()) ?_ h
  simp only
  rw [if_pos (free_of_idle hidle), visible_of_idle hidle, hnone]

theorem surely_getAutomationControls {t : TxId} {Q : AutomationControl → Db → Prop}
    (hidle : s.control.pending = none)
    (h : ∀ c, Q (s.controls workerId) (s.setControl c)) :
    (getAutomationControls t workerId).Surely (Answering saved) Q X s := by
  have hsame := h s.control
  refine surely_bind (surely_select (answering_sure saved) ?_)
  rw [visible_of_idle hidle]
  unfold Db.controls at h hsame
  cases hrow : s.control.committed with
  | some control =>
      rw [hrow] at hsame
      exact (surely_pure _).mpr hsame
  | none =>
      rw [hrow] at h
      refine surely_bind (surely_datetimeNow (surely_bind (surely_insertControl hidle hrow ?_)))
      exact (surely_pure _).mpr (h _)

/-- The policy is asked about what the database says. -/
theorem surely_policyContext (h : TimedOut p workerId schedule inc plan db)
    (hlease : lease.pending = none) (hs : Agrees p schedule.incidentId lease db s)
    (hstate : Resumed schedule.incidentId inc plan state) :
    (policyContext p workerId state plan.id).Surely (Answering saved)
      (fun ctx s' => ctx = db.asked workerId inc plan.id state ∧
        Kept schedule.incidentId (db.incidents schedule.incidentId) lease s')
      (fun _ _ => False) s := by
  have hidle : (s.started ⟨p, 0⟩).control.pending = none := by
    show s.control.pending = none
    rw [hs.control]
    exact h.controlIdle
  refine surely_bind (surely_unitOfWork (answering_sure saved) h.worker ?_)
  refine surely_bind (surely_select (answering_sure saved) (surely_bind ?_))
  refine surely_getAutomationControls hidle (fun c => surely_bind ?_)
  refine surely_select (answering_sure saved) ((surely_pure _).mpr ?_)
  refine surely_bind (surely_datetimeNow ((surely_pure _).mpr ⟨?_, ?_⟩))
  · have hcontrols : (s.started ⟨p, 0⟩).controls workerId = db.controls workerId := by
      show s.control.committed.getD _ = _
      rw [hs.control]
      unfold Db.controls
      rw [← hs.now]
      rfl
    have hinc : (((s.started ⟨p, 0⟩).setControl c).incidents state.incidentId).visible ⟨p, 0⟩ =
        some inc := by
      rw [hstate.incidentId]
      exact h.visible hs.incident
    unfold Db.asked
    rw [hcontrols, hinc, show (s.started ⟨p, 0⟩).plans = db.plans from hs.plans]
    congr 1
    exact hs.now
  · refine Kept.commit ?_ h.incidentIdle hlease _
    exact ⟨hs.incident, hs.lease⟩

/-- The decision is stored, and the incident stays as it is: it is planned no more. -/
theorem surely_applyDecision {ctx : EvaluationContext} {decision : PolicyEvaluationDecision}
    (h : TimedOut p workerId schedule inc plan db) (hlease : lease.pending = none)
    (hs : Kept schedule.incidentId (db.incidents schedule.incidentId) lease s)
    (hstate : Resumed schedule.incidentId inc plan state)
    (hdecision : decision.decision = .deny ∨ decision.decision = .requireApproval) :
    (applyDecision p workerId state plan.id ctx decision).Surely (Answering saved)
      (fun found s' => found.2 = none ∧
        Kept schedule.incidentId (db.incidents schedule.incidentId) lease s')
      (fun _ _ => False) s := by
  have hunplanned : (some inc).filter (fun inc => inc.state = .planned) = none := by
    simp [h.state]
  have hrow : (s.incidents state.incidentId).visible ⟨p, 0⟩ = some inc := by
    rw [hstate.incidentId]
    exact h.visible hs.incident
  refine surely_unitOfWork (answering_sure saved) h.worker (surely_bind (surely_bind ?_))
  refine surely_uuid4 (surely_bind (surely_sql (answering_sure saved) rfl ?_))
  refine (surely_pure _).mpr (surely_bind (surely_getIncident hrow ?_))
  rcases hdecision with hdeny | hrequire
  · rw [hdeny]
    simp only [denyPlan]
    rw [hunplanned]
    refine surely_bind (surely_bind ((surely_pure _).mpr (surely_bind ?_)))
    refine surely_bind (surely_uuid4 (surely_sql (answering_sure saved) rfl ?_))
    refine (surely_pure _).mpr ((surely_pure _).mpr ⟨rfl, ?_⟩)
    refine Kept.commit ?_ h.incidentIdle hlease _
    exact ⟨hs.incident, hs.lease⟩
  · rw [hrequire]
    simp only [awaitApproval]
    rw [hunplanned]
    refine surely_bind ((surely_pure _).mpr ((surely_pure _).mpr ⟨rfl, ?_⟩))
    refine Kept.commit ?_ h.incidentIdle hlease _
    exact ⟨hs.incident, hs.lease⟩


theorem policyOutcome_of_ungranted {ctx : EvaluationContext} {rules : PolicyRuleSet}
    (hlast : ctx.lastExecutionTime = none) (hlock : ctx.isResourceLocked = false)
    (hgrant : ctx.approvalGrant = none) (hmode : ctx.automationMode ≠ .automatic) :
    (policyOutcome ctx rules).1 =
      if hardDeny ctx rules = true then .deny else .requireApproval := by
  by_cases hdeny : hardDeny ctx rules = true
  · rw [if_pos hdeny]
    simp only [policyOutcome]
    rw [if_pos hdeny]
  rw [if_neg hdeny]
  have hswitch : ctx.automationMode ≠ .disabled := by
    intro hdisabled
    refine hdeny ?_
    simp [hardDeny, hardDenials, evaluateKillSwitch, ruleResult, hdisabled]
  have hrequired : ctx.requiresApproval rules = true := by
    cases hm : ctx.automationMode with
    | disabled => exact absurd hm hswitch
    | approvalRequired => simp [EvaluationContext.requiresApproval, hm]
    | automatic => exact absurd hm hmode
  have hcooldown : (evaluateCooldown ctx rules).passed = true := by
    unfold evaluateCooldown
    rw [hlast]
  have hfree : (evaluateResourceLock ctx).passed = true := by
    simp [evaluateResourceLock, ruleResult, hlock]
  have happroval : evaluateApprovalRequirement ctx rules =
      ⟨"approval_requirement", false, "APPROVAL_REQUIRED"⟩ := by
    unfold evaluateApprovalRequirement
    rw [if_pos hrequired, hgrant]
    rfl
  simp only [policyOutcome]
  rw [if_neg hdeny, if_neg (by simp [hcooldown]), if_neg (by simp [hfree]), happroval]
  rfl

/-- The policy is evaluated once more: it denies the plan, or requires an approval as before. -/
theorem surely_evaluatePolicyNode (h : TimedOut p workerId schedule inc plan db)
    (hlease : lease.pending = none) (hs : Agrees p schedule.incidentId lease db s)
    (hstate : Resumed schedule.incidentId inc plan state) :
    (evaluatePolicyNode p workerId state defaultPolicy).Surely (Answering saved)
      (fun state' s' => Kept schedule.incidentId (db.incidents schedule.incidentId) lease s' ∧
        ∃ decision id, state' = state.decided decision id inc.version ∧
          decision.decision =
            if hardDeny (db.asked workerId inc plan.id state) {} = true then .deny
            else .requireApproval)
      (fun _ _ => False) s := by
  unfold evaluatePolicyNode
  rw [hstate.plan]
  refine surely_bind ((surely_policyContext h hlease hs hstate).mono ?_ (fun _ _ h => h))
  rintro ctx s₁ ⟨rfl, hkept⟩
  refine surely_bind (surely_check ?_)
  have houtcome : (evaluatePolicy (db.asked workerId inc plan.id state) {}).decision =
      if hardDeny (db.asked workerId inc plan.id state) {} = true then .deny
      else .requireApproval := by
    refine policyOutcome_of_ungranted rfl rfl rfl ?_
    show (if (db.controls workerId).mode = .automatic ∧ (some inc).any Incident.approvalRequired
      then AutomationMode.approvalRequired else (db.controls workerId).mode) ≠ .automatic
    split
    · simp
    · rename_i hmode
      intro hautomatic
      exact hmode ⟨hautomatic, by simpa using h.routed⟩
  refine surely_bind ((surely_applyDecision h hlease hkept hstate ?_).mono ?_ (fun _ _ h => h))
  · rw [houtcome]
    split
    · exact Or.inl rfl
    · exact Or.inr rfl
  · rintro ⟨id, found⟩ s₂ ⟨hfound, hkept₂⟩
    subst hfound
    refine (surely_pure _).mpr ⟨hkept₂, _, id, ?_, houtcome⟩
    rw [← hstate.version]
    rfl

/-! ### The end of the graph -/

theorem surely_transition_escalated {Q : Incident → Db → Prop} {version : Nat}
    (hidle : (s.incidents i).pending = none) (hrow : (s.incidents i).committed = some inc)
    (hstate : inc.state = .pendingApproval) (hversion : version = inc.version)
    (h : ∀ row : Incident, row.state = .escalated →
      Q row (s.setIncident i ((s.incidents i).write ⟨p, 0⟩ (some row)))) :
    (transition ⟨p, 0⟩ workerId i version .escalated).Surely (Answering saved) Q X s := by
  have hadmits : inc.admitsTransition version .escalated = .ok () := by
    simp only [Incident.admitsTransition, Incident.retries, hversion, hstate]
    rw [if_neg (by simp)]
    rfl
  unfold transition
  refine surely_bind (surely_getIncident (by rw [visible_of_idle hidle, hrow]) ?_)
  simp only
  rw [hadmits]
  refine surely_bind (surely_check (surely_bind ?_))
  refine surely_sql (answering_sure saved) (r := .ok (some
    (inc.transitioned (s.txTime ⟨p, 0⟩) version .escalated inc))) ?_
    ((surely_pure _).mpr (h _ rfl))
  simp only
  rw [visible_of_idle hidle, hrow, Option.bind_some, if_pos (by simp [hversion])]
  exact if_pos (free_of_idle hidle)

/-- The row of the incident is escalated, and nobody is writing it. -/
def EscalatedRow (row : Cell TxId Incident) : Prop :=
  row.pending = none ∧ ∃ final, row.committed = some final ∧ final.state = .escalated

/-- The incident is escalated, and the lease is kept. -/
theorem surely_escalateNode (h : TimedOut p workerId schedule inc plan db)
    (hlease : lease.pending = none)
    (hs : Kept schedule.incidentId (db.incidents schedule.incidentId) lease s)
    (hincident : state.incidentId = schedule.incidentId) (hversion : state.version = inc.version) :
    (escalateNode p workerId state).Surely (Answering saved)
      (fun state' s' => state'.waitReason = state.waitReason ∧
        ∃ row, EscalatedRow row ∧ Kept schedule.incidentId row lease s')
      (fun _ _ => False) s := by
  have hrow : ((s.started ⟨p, 0⟩).incidents state.incidentId).committed = some inc := by
    show (s.incidents state.incidentId).committed = some inc
    rw [hincident, hs.incident]
    exact h.incident
  have hidle : ((s.started ⟨p, 0⟩).incidents state.incidentId).pending = none := by
    show (s.incidents state.incidentId).pending = none
    rw [hincident, hs.incident]
    exact h.incidentIdle
  refine surely_bind (surely_tryCatch (surely_unitOfWork (answering_sure saved) h.worker ?_))
  refine surely_bind (surely_getIncident (by rw [visible_of_idle hidle, hrow]) ?_)
  rw [show (some inc).filter (fun inc => inc.state = .escalated) = none by simp [h.state]]
  refine surely_bind (surely_transition_escalated hidle hrow h.state hversion ?_)
  intro final hfinal
  refine (surely_pure _).mpr ((surely_pure _).mpr ⟨rfl, Cell.commit ⟨p, 0⟩ (Cell.write ⟨p, 0⟩
    (some final) ((s.started ⟨p, 0⟩).incidents state.incidentId)), ⟨?_, final, ?_, hfinal⟩, ?_, ?_⟩)
  · exact (Touched.written _).commit_idle hidle
  · rw [Cell.committed_commit, Cell.visible_write]
  · rw [← hincident]
    show (Function.update s.incidents state.incidentId _ state.incidentId).commit ⟨p, 0⟩ = _
    rw [Function.update_self]
  · show (s.leases schedule.incidentId).commit ⟨p, 0⟩ = lease
    rw [hs.lease, commit_of_idle hlease]

theorem decided_deny (state : IncidentGraphState) (id version : Nat)
    {decision : PolicyEvaluationDecision} (h : decision.decision = .deny) :
    WorkflowNode.next (state.decided decision id version) .evaluatePolicy = some .escalate ∧
      (state.decided decision id version).waitReason = none ∧
      (state.decided decision id version).incidentId = state.incidentId ∧
      (state.decided decision id version).version = version := by
  simp [IncidentGraphState.decided, WorkflowNode.next, h]

theorem decided_requireApproval (id version : Nat) {decision : PolicyEvaluationDecision}
    (h : decision.decision = .requireApproval) (happroved : state.isApproved = some false) :
    WorkflowNode.next (state.decided decision id version) .evaluatePolicy =
        some .waitForApproval ∧
      (state.decided decision id version).isApproved = some false ∧
      (state.decided decision id version).approvalExpired = state.approvalExpired ∧
      (state.decided decision id version).incidentId = state.incidentId ∧
      (state.decided decision id version).version = version := by
  simp [IncidentGraphState.decided, WorkflowNode.next, h, happroved]

theorem waitForApprovalNode_expired (h : state.approvalExpired = some true) :
    waitForApprovalNode state = pure
      { state with
        status := .escalated
        waitReason := none
        escalationReason := some
          (state.escalationReason.getD "Approval rejected or expired.") } := by
  unfold waitForApprovalNode
  rw [if_pos h]

theorem waitForApprovalNode_waits (h : state.approvalExpired ≠ some true)
    (happroved : state.isApproved = some false) :
    waitForApprovalNode state = pure
      { state with status := .pendingApproval, waitReason := some .awaitingApproval } := by
  unfold waitForApprovalNode
  rw [if_neg h, if_neg (by simp [happroved])]

/-- What the graph leaves behind: it has escalated the incident, or waits for an approval. -/
def GraphEnds (i : Nat) (lease : Cell TxId WorkflowLease) (db : Db) (refused : Bool)
    (state : IncidentGraphState) (s : Db) : Prop :=
  if refused = true then
    state.waitReason = none ∧ ∃ row, EscalatedRow row ∧ Kept i row lease s
  else state.waitReason = some .awaitingApproval ∧ Kept i (db.incidents i) lease s

theorem surely_invoke_escalate (h : TimedOut p workerId schedule inc plan db)
    (hlease : lease.pending = none) {refused : Bool} (hrefused : refused = true)
    (hs : Kept schedule.incidentId (db.incidents schedule.incidentId) lease s)
    (hincident : state.incidentId = schedule.incidentId) (hversion : state.version = inc.version)
    (hwait : state.waitReason = none) {limit : Nat} :
    ((incidentWorkflow p workerId services).invoke graphRecursionError (limit + 1) .escalate
      state).Surely (Answering saved) (GraphEnds schedule.incidentId lease db refused)
      (fun _ _ => False) s := by
  refine StateGraph.surely_invoke ?_
  refine (surely_escalateNode h hlease hs hincident hversion).mono ?_ (fun _ _ h => h)
  rintro state₁ s₁ ⟨hwait₁, hrow⟩
  show GraphEnds _ _ _ _ _ _
  unfold GraphEnds
  rw [if_pos hrefused, hwait₁, hwait]
  exact ⟨rfl, hrow⟩

/-- From the policy on, the graph escalates the incident or waits. -/
theorem surely_invoke_policy (h : TimedOut p workerId schedule inc plan db)
    (hlease : lease.pending = none) (hs : Agrees p schedule.incidentId lease db s)
    (hstate : Resumed schedule.incidentId inc plan state) (limit : Nat) :
    ((incidentWorkflow p workerId (defaultServices p workerId)).invoke graphRecursionError
      (limit + 3) .evaluatePolicy state).Surely (Answering saved)
      (GraphEnds schedule.incidentId lease db (db.refused workerId inc plan.id state))
      (fun _ _ => False) s := by
  refine StateGraph.surely_invoke ?_
  show (evaluatePolicyNode p workerId state defaultPolicy).Surely _ _ _ _
  refine (surely_evaluatePolicyNode h hlease hs hstate).mono ?_ (fun _ _ h => h)
  rintro state₁ s₁ ⟨hkept, decision, id, rfl, hdecision⟩
  by_cases hdeny : hardDeny (db.asked workerId inc plan.id state) {} = true
  · rw [if_pos hdeny] at hdecision
    obtain ⟨hnext, hwait, hincident, hversion⟩ := decided_deny state id inc.version hdecision
    rw [show (incidentWorkflow p workerId (defaultServices p workerId)).next .evaluatePolicy _ = _
      from hnext]
    refine surely_invoke_escalate h hlease ?_ hkept (hincident.trans hstate.incidentId) hversion
      hwait
    simp [Db.refused, hdeny]
  rw [if_neg hdeny] at hdecision
  obtain ⟨hnext, happroved, hexpired, hincident, hversion⟩ :=
    decided_requireApproval id inc.version hdecision hstate.unapproved
  rw [show (incidentWorkflow p workerId (defaultServices p workerId)).next .evaluatePolicy _ = _
    from hnext]
  refine StateGraph.surely_invoke ?_
  show (waitForApprovalNode (state.decided decision id inc.version)).Surely _ _ _ _
  by_cases hlate : state.approvalExpired = some true
  · rw [waitForApprovalNode_expired (hexpired.trans hlate)]
    refine (surely_pure _).mpr ?_
    rw [show (incidentWorkflow p workerId (defaultServices p workerId)).next .waitForApproval _ =
      some .escalate from by simp [incidentWorkflow, WorkflowNode.next, happroved]]
    refine surely_invoke_escalate h hlease ?_ hkept ?_ ?_ rfl
    · simp [Db.refused, hlate]
    · exact hincident.trans hstate.incidentId
    · exact hversion
  · rw [waitForApprovalNode_waits (by rw [hexpired]; exact hlate) happroved]
    refine (surely_pure _).mpr ?_
    show GraphEnds _ _ _ _ _ _
    unfold GraphEnds
    rw [if_neg (by simp [Db.refused, hdeny, hlate])]
    exact ⟨rfl, hkept⟩

/-- **The graph at the wake-up** escalates the incident or waits. -/
theorem surely_incidentWorkflow (h : TimedOut p workerId schedule inc plan db)
    (hlease : lease.pending = none) (hs : Agrees p schedule.incidentId lease db s)
    (hstate : Resumed schedule.incidentId inc plan state) :
    ((incidentWorkflow p workerId (defaultServices p workerId)).invoke graphRecursionError
      recursionLimit .collectEvidence state).Surely (Answering saved)
      (GraphEnds schedule.incidentId lease db (db.refused workerId inc plan.id state))
      (fun _ _ => False) s := by
  have hplanned : Resumed schedule.incidentId inc plan
      { state with status := .planned, isActionable := some true } := { hstate with }
  exact surely_invoke_planned hstate (surely_invoke_policy h hlease hs hplanned 19)

/-! ### The run -/

/-- The row of the incident at the end. -/
structure RowEnds (refused : Bool) (inc : Incident) (row : Cell TxId Incident) : Prop where
  idle : row.pending = none
  escalated : refused = true → ∃ final, row.committed = some final ∧ final.state = .escalated
  waits : refused = false → row.committed = some inc

theorem surely_createWorkflowSchedule {t : TxId} {version : Nat} {nextRunAt : Int}
    {waitReason : WaitReason} {metadata : ResumeMetadata} {R : Db → Prop}
    (hrow : (s.incidents i).visible t = some inc)
    (h : ∀ s' : Db, s'.incidents = s.incidents → s'.leases = s.leases → R s') :
    (createWorkflowSchedule t i version nextRunAt waitReason metadata).Surely (Answering saved)
      (fun _ => R) X s := by
  refine surely_bind (surely_uuid4 (surely_bind ?_))
  refine surely_sql (answering_sure saved) (r := .ok ()) (if_pos ?_) ?_
  · show ((s.incidents i).visible t).isSome = true
    rw [hrow]
    rfl
  · refine (surely_pure _).mpr (h _ ?_ ?_)
    · rfl
    · rfl

/-- The run waits on: a wake-up is scheduled, and the incident stays as it is. -/
theorem surely_pauseForApproval (h : TimedOut p workerId schedule inc plan db)
    (hlease : lease.pending = none)
    (hs : Kept schedule.incidentId (db.incidents schedule.incidentId) lease s) :
    (pauseForApproval p workerId schedule.incidentId state).Surely (Answering saved)
      (fun _ s' => Kept schedule.incidentId (db.incidents schedule.incidentId) lease s')
      (fun _ _ => False) s := by
  have hpaused : Kept schedule.incidentId (db.incidents schedule.incidentId) lease
      (((s.started ⟨p, 0⟩).commit ⟨p, 0⟩).record []) := by
    refine Kept.commit ?_ h.incidentIdle hlease _
    exact ⟨hs.incident, hs.lease⟩
  refine surely_bind (surely_unitOfWork (answering_sure saved) h.worker ?_)
  refine surely_bind (surely_getIncident (h.visible hs.incident) ?_)
  simp only
  rw [if_neg (by simp [h.state])]
  refine (surely_pure _).mpr (surely_bind (surely_bind (surely_datetimeNow ?_)))
  refine surely_unitOfWork (answering_sure saved) h.worker ?_
  refine surely_createWorkflowSchedule (h.visible hpaused.incident) ?_
  intro s' hincidents hleases
  refine (surely_pure _).mpr (Kept.commit ⟨?_, ?_⟩ h.incidentIdle hlease _)
  · rw [hincidents]
    exact hpaused.incident
  · rw [hleases]
    exact hpaused.lease

/-- The graph is run under the lease. -/
theorem surely_runGraph {token : Nat} (h : TimedOut p workerId schedule inc plan db)
    (hlease : Leased token db.now lease) (hs : Agrees p schedule.incidentId lease db s) :
    (runGraph p workerId schedule.incidentId (defaultServices p workerId)
      (db.reconstruction schedule.incidentId inc) schedule.resumeMetadata token).Surely
      (Answering saved)
      (fun _ s' => ∃ row, RowEnds (db.refused workerId inc plan.id
          (db.wakeUpState schedule inc saved)) inc row ∧
        Kept schedule.incidentId row lease s')
      (fun _ _ => False) s := by
  unfold runGraph
  refine surely_bind ((surely_verifyIncidentLease h hlease hs).mono ?_ (fun _ _ h => h))
  rintro held s₁ ⟨rfl, hs₁⟩
  simp only [Bool.not_true, Bool.false_eq_true, if_false]
  refine surely_bind (surely_stmt (fun w hw => ⟨.ok saved, s₁, by rw [hw.2], ?_⟩))
  refine surely_bind ?_
  refine (surely_incidentWorkflow h hlease.idle hs₁ h.resumed).mono ?_ (fun _ _ h => h)
  intro state s₂ hends
  unfold GraphEnds at hends
  by_cases hrefused : db.refused workerId inc plan.id (db.wakeUpState schedule inc saved) = true
  · rw [if_pos hrefused] at hends
    obtain ⟨hwait, row, hescalated, hkept⟩ := hends
    rw [if_neg (by simp [hwait])]
    refine (surely_pure _).mpr ⟨row, ⟨hescalated.1, fun _ => hescalated.2, ?_⟩, hkept⟩
    intro hwaits
    rw [hwaits] at hrefused
    cases hrefused
  · rw [if_neg hrefused] at hends
    obtain ⟨hwait, hkept⟩ := hends
    rw [if_pos hwait]
    refine (surely_pauseForApproval h hlease.idle hkept).mono ?_ (fun _ _ h => h)
    intro state' s₃ hkept₃
    exact ⟨_, ⟨h.incidentIdle, fun hdenied => absurd hdenied hrefused, fun _ => h.incident⟩,
      hkept₃⟩

theorem surely_releaseIncidentLease {t : TxId} {token : Nat} {R : Db → Prop}
    (hidle : (s.leases i).pending = none) (h : ∀ s' : Db, s'.incidents = s.incidents → R s') :
    (releaseIncidentLease t i token).Surely (Answering saved) (fun _ => R) X s := by
  by_cases hheld : WorkflowLease.released token ((s.leases i).visible t) = true
  · refine surely_sql (answering_sure saved) (r := .ok ()) ?_
      (h (s.setLease i ((s.leases i).write t none)) rfl)
    simp only
    rw [if_pos hheld, if_pos (free_of_idle hidle)]
  · refine surely_sql (answering_sure saved) (r := .ok ()) ?_ (h s rfl)
    simp only
    rw [if_neg hheld]

/-- The lease is released after the body. -/
theorem surely_holding (h : TimedOut p workerId schedule inc plan db)
    (hs : Agrees p schedule.incidentId (db.leases schedule.incidentId) db s) :
    (holding p workerId schedule.incidentId (some inc.version)
      (runGraph p workerId schedule.incidentId (defaultServices p workerId)
        (db.reconstruction schedule.incidentId inc) schedule.resumeMetadata)).Surely
      (Answering saved)
      (fun _ s' => ∃ row, RowEnds (db.refused workerId inc plan.id
          (db.wakeUpState schedule inc saved)) inc row ∧ s'.incidents schedule.incidentId = row)
      (fun _ _ => False) s := by
  unfold holding
  refine surely_bind ((surely_acquireIncidentLease h hs).mono ?_ (fun _ _ h => h))
  rintro token s₁ ⟨lease, hlease, hs₁⟩
  refine surely_bind (surely_tryCatch ?_)
  refine (surely_runGraph h hlease hs₁).mono ?_ (fun _ _ h => h.elim)
  rintro state s₂ ⟨row, hends, hkept⟩
  obtain ⟨held, hrow, htoken, -⟩ := hlease.holds
  refine surely_bind (surely_bind (surely_observe (surely_tryCatch ?_)))
  refine surely_unitOfWork (answering_sure saved) h.worker ?_
  refine surely_releaseIncidentLease ?_ ?_
  · show (s₂.leases schedule.incidentId).pending = none
    rw [hkept.lease]
    exact hlease.idle
  intro s' hs'
  refine (surely_pure _).mpr ⟨row, hends, ?_⟩
  show (s'.incidents schedule.incidentId).commit ⟨p, 0⟩ = row
  rw [hs', show ((s₂.record _).started ⟨p, 0⟩).incidents schedule.incidentId = row from
    hkept.incident, commit_of_idle hends.idle]

/-- **The run** ends with the incident escalated if the plan is refused, and else with the
incident as it was. -/
theorem surely_runIncident (h : TimedOut p workerId schedule inc plan db)
    (hs : Agrees p schedule.incidentId (db.leases schedule.incidentId) db s) :
    (runIncident p workerId schedule.incidentId (defaultServices p workerId)
      (some schedule.incidentVersion) schedule.resumeMetadata).Surely (Answering saved)
      (fun _ s' => ∃ row, RowEnds (decide (¬ schedule.incidentVersion < inc.version) &&
          db.refused workerId inc plan.id (db.wakeUpState schedule inc saved)) inc row ∧
        s'.incidents schedule.incidentId = row)
      (fun _ _ => False) s := by
  refine surely_bind ((surely_inspectIncident h hs).mono ?_ (fun _ _ h => h))
  rintro found s₁ ⟨hs₁, rfl⟩
  by_cases hstale : schedule.incidentVersion < inc.version
  · rw [if_pos hstale]
    refine (surely_pure _).mpr ⟨_, ⟨h.incidentIdle, ?_, fun _ => h.incident⟩, hs₁.incident⟩
    intro hrefused
    simp [hstale] at hrefused
  · rw [if_neg hstale]
    refine surely_bind ((surely_holding h hs₁).mono ?_ (fun _ _ h => h))
    rintro state s₂ ⟨row, hends, hrow⟩
    refine (surely_pure _).mpr ⟨row, ?_, hrow⟩
    simpa [hstale] using hends

/-- Claiming the wake-up and running the incident. -/
theorem surely_resumeSchedules (h : TimedOut p workerId schedule inc plan db) :
    (resumeSchedules p workerId [schedule]).Surely (Answering saved)
      (fun _ s' => ∃ row, RowEnds (decide (¬ schedule.incidentVersion < inc.version) &&
          db.refused workerId inc plan.id (db.wakeUpState schedule inc saved)) inc row ∧
        s'.incidents schedule.incidentId = row)
      (fun _ _ => False) db := by
  refine surely_bind ((surely_claimDueSchedule h).mono ?_ (fun _ _ h => h))
  rintro claimed s₁ ⟨rfl, hs₁⟩
  rw [if_pos rfl]
  refine surely_bind (surely_tryCatch (surely_bind ?_))
  refine (surely_runIncident h hs₁).mono ?_ (fun _ _ h => h.elim)
  intro state s₂ hends
  refine surely_bind (surely_observe ((surely_pure _).mpr (surely_bind ((surely_pure _).mpr ?_))))
  exact (surely_pure _).mpr hends

theorem wakeUpState_expired :
    (db.wakeUpState schedule inc saved).approvalExpired = saved.bind (·.approvalExpired) := by
  unfold Db.wakeUpState Reconstruction.initialState
  rcases saved with _ | state
  all_goals
    cases (db.reconstruction schedule.incidentId inc).latestPlan with
    | none => rfl
    | some plan => rfl

theorem refused_iff {planId : Nat} :
    db.refused workerId inc planId (db.wakeUpState schedule inc saved) = true ↔
      hardDeny (db.asked workerId inc planId (db.wakeUpState schedule inc saved)) {} = true ∨
        saved.bind (·.approvalExpired) = some true := by
  unfold Db.refused
  rw [wakeUpState_expired, Bool.or_eq_true, beq_iff_eq]

theorem escalated_of_refused (h : TimedOut p workerId schedule inc plan db)
    (hfresh : ¬ schedule.incidentVersion < inc.version)
    (hrefused : db.refused workerId inc plan.id (db.wakeUpState schedule inc saved) = true) :
    LeavesEscalated p workerId schedule saved db := by
  refine (surely_resumeSchedules h).mono ?_ (fun _ _ h => h.elim)
  rintro n s' ⟨row, hends, hrow⟩
  obtain ⟨final, hfinal, hstate⟩ := hends.escalated (by simp [hfresh, hrefused])
  refine ⟨final, ?_, hstate⟩
  show (s'.incidents schedule.incidentId).committed = some final
  rw [hrow, hfinal]

/-- What is not escalated goes on waiting. -/
theorem waits_of_not_refused (h : TimedOut p workerId schedule inc plan db)
    (hwaits : (decide (¬ schedule.incidentVersion < inc.version) &&
      db.refused workerId inc plan.id (db.wakeUpState schedule inc saved)) = false) :
    ¬ LeavesEscalated p workerId schedule saved db := by
  intro hleaves
  have hsame : (resumeSchedules p workerId [schedule]).Surely (Answering saved)
      (fun _ s' => s'.incident schedule.incidentId = some inc)
      (fun _ s' => s'.incident schedule.incidentId = some inc) db := by
    refine (surely_resumeSchedules h).mono ?_ (fun _ _ h => h.elim)
    rintro n s' ⟨row, hends, hrow⟩
    show (s'.incidents schedule.incidentId).committed = some inc
    rw [hrow, hends.waits hwaits]
  refine Surely.absurd (answering_exists saved) hleaves hsame ?_
  rintro s' ⟨final, hfinal, hstate⟩ hinc
  rw [hinc, Option.some.injEq] at hfinal
  rw [← hfinal, h.state] at hstate
  cases hstate

/-- **A wake-up escalates an incident that waits for an approval** exactly if it is not of an
earlier version of the incident, and the policy denies the plan by now or the state that was saved
says that the approval has expired. -/
theorem approval_timeout_iff (h : TimedOut p workerId schedule inc plan db) :
    LeavesEscalated p workerId schedule saved db ↔
      ¬ schedule.incidentVersion < inc.version ∧
      (hardDeny (db.asked workerId inc plan.id (db.wakeUpState schedule inc saved)) {} = true ∨
        saved.bind (·.approvalExpired) = some true) := by
  rw [← refused_iff]
  constructor
  · intro hleaves
    by_contra hnot
    refine waits_of_not_refused h ?_ hleaves
    rw [Bool.eq_false_iff]
    intro hboth
    rw [Bool.and_eq_true, decide_eq_true_eq] at hboth
    exact hnot hboth
  · rintro ⟨hfresh, hrefused⟩
    exact escalated_of_refused h hfresh hrefused

end Run

/-! ### A plan that nobody has approved -/

def waitingIncident : Incident :=
  { id := 1, resourceId := 5, correlationKey := "cpu:demo-api", state := .pendingApproval,
    version := 5, approvalRequired := true, updatedAt := 0 }

def waitingPlan : RemediationPlan :=
  { id := 3, incidentId := 1, diagnosisId := 2, version := 1, risk := "LOW", approved := false,
    contentHash := "hash", containerId := some "abc", bindingGeneration := some 1,
    verificationProfile := some "m1_default_restart_profile" }

def approvalWakeUp : WorkflowSchedule :=
  { id := 4, incidentId := 1, incidentVersion := 5, nextRunAt := 1800000000,
    waitReason := .awaitingApproval, resumeMetadata := { isResumedFromApproval := some true } }

/-- Half an hour after the plan was made, under these controls. -/
def waitingDb (mode : AutomationMode) : Db :=
  { Db.init 1800000000 with
    incidents := fun i => if i = 1 then Cell.ofRow waitingIncident else Cell.empty
    schedules := fun w => if w = 4 then Cell.ofRow approvalWakeUp else Cell.empty
    control := Cell.ofRow ⟨mode, [], 0, "user:admin", ""⟩
    diagnoses := [⟨2, 1, "CPU_SATURATION", 95 / 100, none⟩]
    plans := [waitingPlan] }

theorem timedOut_waitingDb (mode : AutomationMode) :
    TimedOut 0 "recovery" approvalWakeUp waitingIncident waitingPlan (waitingDb mode) where
  worker := by decide +kernel
  scheduled := rfl
  pending := rfl
  reason := rfl
  due := Int.le_refl _
  incident := rfl
  state := rfl
  routed := rfl
  diagnosed := ⟨_, List.mem_singleton_self _, rfl⟩
  planned := rfl
  unapproved := by
    intro approval happroval
    cases happroval
  unleased := by
    intro lease hlease
    cases hlease
  scheduleIdle := rfl
  incidentIdle := rfl
  leaseIdle := rfl
  controlIdle := rfl
  nothingAdded := rfl

/-- With automation disabled, the incident is escalated. -/
theorem approval_timeout_iff_disabled :
    LeavesEscalated 0 "recovery" approvalWakeUp none (waitingDb .disabled) :=
  (approval_timeout_iff (timedOut_waitingDb .disabled)).mpr
    ⟨by decide, Or.inl (by decide +kernel)⟩

/-- Where an approval is required as before, the incident is not escalated. -/
theorem approval_never_times_out :
    ∃ p workerId schedule inc plan saved db, TimedOut p workerId schedule inc plan db ∧
      ¬ LeavesEscalated p workerId schedule saved db := by
  refine ⟨0, "recovery", approvalWakeUp, waitingIncident, waitingPlan, none,
    waitingDb .approvalRequired, timedOut_waitingDb _, ?_⟩
  exact waits_of_not_refused (timedOut_waitingDb _) (by decide +kernel)

end SelfHealing
