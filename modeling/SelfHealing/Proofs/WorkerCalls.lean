/-
How a worker moves an incident.

Whatever a node does to an incident it does by one of two calls, `transition` and
`require_incident_approval`; the rest of a worker leaves the rows of the incidents alone.  So a task
of a worker is put together from these calls and from parts that are quiet, and what holds of the
calls in every state holds of the task.

A call moves the incident from the row that it has read, or raises, and the rows of all other
incidents are as before.
-/
import SelfHealing.Lib.Calls
import SelfHealing.Proofs.WorkerSteps
import SelfHealing.Workflow.Recovery

namespace SelfHealing

open Interleaving Interleaving.Prog ReadCommitted

/-- A worker that writes no incident. -/
def Unmoving (k : WorkerKind) : Prop := k ≠ .incident

/-- The rows of the incidents are left as they are, but that a transaction may end. -/
inductive UnmovedStep (p : Nat) (s s' : Db) : Prop
  | same (h : s'.incidents = s.incidents)
  | commit (l : Nat) (h : s'.incidents = fun i => (s.incidents i).commit ⟨p, l⟩)
  | rollback (l : Nat) (h : s'.incidents = fun i => (s.incidents i).rollback ⟨p, l⟩)

theorem WorkerStep.unmoved {p : Nat} {E : Event → Prop} {R : NewRow → Prop} {s s' : Db}
    (h : WorkerStep p Unmoving E R s s') : UnmovedStep p s s' := by
  cases h with
  | commit l evs hk hevs => exact .commit l rfl
  | rollback l hk => exact .rollback l rfl
  | incident l i row hk => exact absurd rfl hk
  | _ => exact .same rfl

theorem AdapterStep.unmoved {p : Nat} {s s' : Db} (h : AdapterStep p s s') :
    UnmovedStep p s s' := by
  cases h with
  | outside hkept => exact .same hkept.incidents
  | observed evs hevs hkept => exact .same hkept.incidents
  | commit t ht evs hevs =>
      obtain ⟨q, l⟩ := t
      cases ht
      exact .commit l rfl
  | rollback t ht =>
      obtain ⟨q, l⟩ := t
      cases ht
      exact .rollback l rfl

/-- The calls that a task is put together from. -/
inductive MovingCall (p : Nat) : ∀ α : Type, Prog α → Prop
  | quiet {α : Type} (x : Prog α) (h : Within (UnmovedStep p) x) : MovingCall p α x
  | approval (i : Nat) (v : Int) :
      MovingCall p Incident (requireIncidentApproval ⟨p, 0⟩ i v)
  | transition (actor : String) (i : Nat) (v : Int) (target : IncidentState) :
      MovingCall p Incident (transition ⟨p, 0⟩ actor i v target)

/-- The program moves incidents by these calls alone. -/
def MovesBy (p : Nat) {α : Type} (x : Prog α) : Prop := MadeOf (MovingCall p) x

section Parts

variable {α β : Type} {p : Nat} {actor : String}

theorem moves_pure (a : α) : MovesBy p (pure a) := .pure a

theorem moves_throw (e : Err) : MovesBy p (throw e : Prog α) := .throw e

theorem moves_bind {x : Prog α} {g : α → Prog β} (hx : MovesBy p x) (hg : ∀ a, MovesBy p (g a)) :
    MovesBy p (x >>= g) := MadeOf.and_then hx hg

theorem moves_handle {x : Prog α} {g : Err → Prog α} (hx : MovesBy p x)
    (hg : ∀ e, MovesBy p (g e)) : MovesBy p (tryCatch x g) := MadeOf.caught hx hg

theorem moves_quiet {x : Prog α} (h : Within (UnmovedStep p) x) : MovesBy p x :=
  .call x (.quiet x h)

theorem moves_worker {x : Prog α}
    (h : Within (WorkerStep p Unmoving (fun _ => True) (fun _ => True)) x) : MovesBy p x :=
  moves_quiet (h.mono fun _ _ h => h.unmoved)

theorem moves_adapter {x : Prog α} (h : Within (AdapterStep p) x) : MovesBy p x :=
  moves_quiet (h.mono fun _ _ h => h.unmoved)

theorem moves_select (f : Db → α) : MovesBy p (select f) := moves_worker (workerStep_select f)

theorem moves_transition (i : Nat) (v : Int) (target : IncidentState) :
    MovesBy p (transition ⟨p, 0⟩ actor i v target) := .call _ (.transition actor i v target)

theorem moves_requireIncidentApproval (i : Nat) (v : Int) :
    MovesBy p (requireIncidentApproval ⟨p, 0⟩ i v) := .call _ (.approval i v)

theorem unmoving_transaction : Unmoving .transaction := by
  intro h
  cases h

theorem unmoving_schedule (reason : WaitReason) : Unmoving (.schedule reason) := by
  intro h
  cases h

theorem unmoving_lease : Unmoving .lease := by
  intro h
  cases h

theorem unmoving_control : Unmoving .control := by
  intro h
  cases h

/-- A block in a transaction is put together from its body and three statements. -/
theorem moves_unitOfWork {l : Nat} {body : Prog α} {seen : α → List Event}
    (hbody : MovesBy p body) : MovesBy p (unitOfWork ⟨p, l⟩ actor body seen) := by
  have hbegin : MovesBy p (beginTx ⟨p, l⟩) := by
    refine moves_worker (workerStep_sql ?_)
    intro s r s' hf
    simp only [Option.some.injEq, Prod.mk.injEq] at hf
    rw [← hf.2]
    exact .started s l unmoving_transaction
  have hcommit : ∀ evs, MovesBy p (commitTx ⟨p, l⟩ evs) := by
    intro evs
    refine moves_worker (within_stmt ?_)
    intro w s r s' hf
    split at hf
    · simp only [Option.some.injEq, Prod.mk.injEq] at hf
      rw [← hf.2]
      exact .rollback s l unmoving_transaction
    · simp only [Option.some.injEq, Prod.mk.injEq] at hf
      rw [← hf.2]
      exact .commit s l evs unmoving_transaction (fun _ _ => trivial)
  have hback : MovesBy p (rollbackTx ⟨p, l⟩) := by
    refine moves_worker (within_stmt ?_)
    intro w s r s' hf
    simp only [Option.some.injEq, Prod.mk.injEq] at hf
    rw [← hf.2]
    exact .rollback s l unmoving_transaction
  unfold unitOfWork
  split
  · refine moves_handle (moves_bind hbegin fun _ => moves_bind hbody fun a => moves_bind (hcommit _)
      fun _ => moves_pure a) (fun e => moves_bind hback fun _ => moves_throw e)
  · exact moves_throw _

theorem moves_escalationRecord (i : Nat) (title summary cause : String) (reason : Option String) :
    MovesBy p (createEscalationRecord ⟨p, 0⟩ i title summary cause reason) :=
  moves_worker (workerStep_createEscalationRecord (fun _ => trivial) _ _ _ _ _)

theorem moves_attentionItem : MovesBy p (createAttentionItem ⟨p, 0⟩) :=
  moves_worker workerStep_createAttentionItem

theorem moves_advanceIncident (i : Nat) (states : List IncidentState) (target : IncidentState) :
    MovesBy p (advanceIncident actor ⟨p, 0⟩ i states target) := by
  refine moves_bind (moves_select _) (fun found => ?_)
  cases found with
  | none => exact moves_pure _
  | some inc =>
      simp only
      split
      · exact moves_bind (moves_transition _ _ _) (fun _ => moves_pure _)
      · exact moves_pure _

theorem moves_leaveTriage (i : Nat) (found : Option Incident) (target : IncidentState) :
    MovesBy p (leaveTriage actor ⟨p, 0⟩ i found target) := by
  unfold leaveTriage
  cases found with
  | none => exact moves_pure _
  | some inc =>
      simp only
      split
      · exact moves_bind (moves_transition _ _ _) (fun _ =>
          moves_bind (moves_transition _ _ _) (fun _ => moves_pure _))
      · split
        · exact moves_bind (moves_transition _ _ _) (fun _ => moves_pure _)
        · exact moves_pure _

theorem moves_leaveVerification (state : IncidentGraphState) (found : Option Incident)
    (target : IncidentState) :
    MovesBy p (leaveVerification actor state ⟨p, 0⟩ found target) := by
  unfold leaveVerification
  split
  · exact moves_pure _
  · exact moves_bind (moves_transition _ _ _) (fun _ => moves_pure _)

theorem moves_scheduleWakeup {l : Nat} (i version : Nat) (delaySeconds : Int) (reason : WaitReason)
    (metadata : ResumeMetadata) :
    MovesBy p (scheduleWakeup ⟨p, l⟩ actor i version delaySeconds reason metadata) :=
  moves_worker (workerStep_scheduleWakeup unmoving_transaction _ _ _ _ (unmoving_schedule _) _)

end Parts

/-! ### The nodes

One lemma for each node, put together from its parts in their order.  A node that makes no call on
the incident is quiet, and a node that makes one moves the incident from the row that it has read,
or raises.
-/

section Nodes

variable {α : Type} {p : Nat} {actor : String} (state : IncidentGraphState)

theorem moves_collectEvidenceNode : MovesBy p (collectEvidenceNode p actor state) := by
  unfold collectEvidenceNode
  split
  · exact moves_pure _
  · refine moves_bind (moves_worker (workerStep_discoverTarget (fun _ _ => trivial)
      unmoving_transaction _)) (fun target => moves_bind
        (moves_worker (workerStep_service (fun _ _ _ => trivial))) (fun evidence => ?_))
    exact moves_bind (moves_unitOfWork (moves_advanceIncident _ _ _)) (fun _ => moves_pure _)

theorem moves_recordDiagnosis (id : Nat) (diag : DiagnosisAnswer) :
    MovesBy p (recordDiagnosis p actor state id diag) := by
  refine moves_unitOfWork (moves_bind (moves_select _) (fun found => moves_bind
    (moves_worker (workerStep_insertRow trivial)) (fun _ => ?_)))
  split
  · exact moves_leaveTriage _ _ _
  · exact moves_bind (moves_leaveTriage _ _ _) (fun _ => moves_bind
      (moves_escalationRecord _ _ _ _ _) (fun _ => moves_pure _))

theorem moves_diagnoseNode : MovesBy p (diagnoseNode p actor state) := by
  unfold diagnoseNode
  split
  · exact moves_pure _
  · refine moves_bind (moves_worker (workerStep_service (fun _ _ _ => trivial))) (fun diag =>
      moves_bind (moves_worker (workerStep_uuid4 _)) (fun id =>
        moves_bind (moves_recordDiagnosis _ _ _) (fun inc => ?_)))
    simp only
    split
    · exact moves_pure _
    · exact moves_pure _

theorem moves_planNode : MovesBy p (planNode p actor state) := by
  unfold planNode
  split
  · exact moves_pure _
  · exact moves_throw _
  · refine moves_unitOfWork (moves_bind (moves_select _) (fun diag => ?_))
    cases diag with
    | none => exact moves_throw _
    | some diag =>
        refine moves_bind (moves_select _) (fun resource => ?_)
        cases resource with
        | none => exact moves_throw _
        | some resource =>
            refine moves_bind (moves_worker (workerStep_check _)) (fun _ =>
              moves_handle ?_ (fun e => ?_))
            · refine moves_bind (moves_worker (workerStep_createPlan _ _)) (fun draft => ?_)
              cases draft with
              | some draft =>
                  exact moves_bind (moves_worker (workerStep_createRemediationPlanWithSteps
                    (fun _ _ => trivial) _ _ _ _)) (fun _ => moves_bind (moves_transition _ _ _)
                      (fun _ => moves_pure _))
              | none =>
                  exact moves_bind (moves_escalationRecord _ _ _ _ _) (fun _ => moves_bind
                    moves_attentionItem (fun _ => moves_bind (moves_transition _ _ _)
                      (fun _ => moves_pure _)))
            · split
              · exact moves_bind (moves_escalationRecord _ _ _ _ _) (fun _ => moves_bind
                  (moves_transition _ _ _) (fun _ => moves_pure _))
              · exact moves_throw _

theorem moves_awaitApproval (found : Option Incident) :
    MovesBy p (awaitApproval actor state ⟨p, 0⟩ found) := by
  have hmove : ∀ inc : Incident, MovesBy p (do
      let inc ← transition ⟨p, 0⟩ actor state.incidentId inc.version .pendingApproval
      pure (some inc) : Prog (Option Incident)) :=
    fun _ => moves_bind (moves_transition _ _ _) (fun _ => moves_pure _)
  unfold awaitApproval
  split
  · exact moves_pure _
  · simp only
    split
    · exact hmove _
    · exact moves_bind (moves_requireIncidentApproval _ _) (fun _ => hmove _)

theorem moves_denyPlan (found : Option Incident) (ctx : EvaluationContext)
    (decision : PolicyEvaluationDecision) :
    MovesBy p (denyPlan actor state ⟨p, 0⟩ found ctx decision) := by
  have hrecord : ∀ inc : Option Incident, MovesBy p (do
      createEscalationRecord ⟨p, 0⟩ state.incidentId "Policy Evaluation Denial"
        s!"Remediation plan denied by policy: {joinCodes decision.reasonCodes}" ctx.rootCause
        (some s!"Policy denied: {joinCodes decision.reasonCodes}")
      pure inc) :=
    fun _ => moves_bind (moves_escalationRecord _ _ _ _ _) (fun _ => moves_pure _)
  unfold denyPlan
  simp only
  split
  · exact hrecord _
  · exact moves_bind (moves_transition _ _ _) (fun _ => hrecord _)

theorem moves_applyDecision (planId : Nat) (ctx : EvaluationContext)
    (decision : PolicyEvaluationDecision) :
    MovesBy p (applyDecision p actor state planId ctx decision) := by
  have hrecord : MovesBy p (recordPolicyDecision state ⟨p, 0⟩ planId ctx decision) :=
    moves_bind (moves_worker (workerStep_uuid4 _)) (fun _ => moves_bind
      (moves_worker (workerStep_insertRow trivial)) (fun _ => moves_pure _))
  refine moves_unitOfWork (moves_bind hrecord (fun id => moves_bind (moves_select _)
    (fun found => ?_)))
  cases decision.decision with
  | allow => exact moves_pure _
  | requireApproval => exact moves_bind (moves_awaitApproval _ _) (fun _ => moves_pure _)
  | deny => exact moves_bind (moves_denyPlan _ _ _ _) (fun _ => moves_pure _)
  | defer =>
      simp only
      split
      · exact moves_throw _
      · exact moves_pure _

theorem moves_evaluatePolicyNode
    (evaluate : EvaluationContext → Except Err PolicyEvaluationDecision) :
    MovesBy p (evaluatePolicyNode p actor state evaluate) := by
  unfold evaluatePolicyNode
  split
  · exact moves_throw _
  · refine moves_bind (moves_bind (moves_unitOfWork (moves_bind (moves_select _) (fun _ =>
      moves_bind (moves_worker (workerStep_getAutomationControls unmoving_control)) (fun _ =>
        moves_bind (moves_select _) (fun _ => moves_pure _))))) (fun _ => moves_bind
          (moves_worker workerStep_datetimeNow) (fun _ => moves_pure _))) (fun ctx => ?_)
    exact moves_bind (moves_worker (workerStep_check _)) (fun decision => moves_bind
      (moves_applyDecision _ _ _ _) (fun _ => moves_pure _))

theorem moves_retrieveIntent : MovesBy p (retrieveIntent p actor state) := by
  unfold retrieveIntent
  split
  · exact moves_throw _
  · refine moves_unitOfWork (moves_bind ?_ (fun found => ?_))
    · refine moves_bind (moves_select _) (fun plan => ?_)
      cases plan with
      | none => exact moves_pure _
      | some plan => exact moves_bind (moves_select _) (fun _ => moves_pure _)
    · obtain ⟨plan, steps⟩ := found
      cases plan with
      | none => exact moves_throw _
      | some plan =>
          simp only
          split
          · exact moves_throw _
          · exact moves_pure _

theorem moves_recordFailure (outcome : ExecutionOutcome) :
    MovesBy p (recordFailure p actor state outcome) := by
  refine moves_bind (moves_unitOfWork (moves_bind (moves_advanceIncident _ _ _) (fun inc => ?_)))
    (fun _ => moves_pure _)
  have hrest : MovesBy p (do
      createEscalationRecord ⟨p, 0⟩ state.incidentId "Execution Failed or Uncertain"
        s!"Docker restart mutation failed or had uncertain outcome: {outcome.failure}"
        "EXECUTION_FAILED" (some outcome.failure)
      createAttentionItem ⟨p, 0⟩ : Prog Unit) :=
    moves_bind (moves_escalationRecord _ _ _ _ _) (fun _ => moves_attentionItem)
  cases inc with
  | none => exact hrest
  | some inc => exact moves_bind (moves_transition _ _ _) (fun _ => hrest)

theorem moves_executeNode (ad : DockerExecutionAdapter) :
    MovesBy p (executeNode p actor (ad.provider p) state) := by
  have hexecute : ∀ intent, Within (UnmovedStep p) (execute p ad intent) := by
    intro intent
    exact execute_within (fun _ _ h => h.unmoved) (fun _ _ => .same rfl) _ _
  refine moves_bind (moves_retrieveIntent _) (fun intent => moves_bind (moves_handle
    (moves_bind (moves_adapter (adapterStep_precheck _ _ _)) (fun _ => moves_pure _))
      (fun _ => moves_pure _)) (fun prechecked => ?_))
  cases prechecked with
  | some reason =>
      exact moves_bind (moves_unitOfWork (moves_bind (moves_advanceIncident _ _ _) (fun _ =>
        moves_bind (moves_escalationRecord _ _ _ _ _) (fun _ => moves_attentionItem))))
          (fun _ => moves_pure _)
  | none =>
      refine moves_bind (moves_unitOfWork (moves_advanceIncident _ _ _)) (fun _ => moves_bind
        (moves_quiet (hexecute intent)) (fun outcome => ?_))
      split
      · exact moves_bind (moves_unitOfWork (moves_advanceIncident _ _ _)) (fun _ => moves_pure _)
      · exact moves_recordFailure _ _

theorem moves_settleVerdict (verdict : VerdictAnswer) (cooldownSeconds : Int) :
    MovesBy p (settleVerdict p actor state verdict cooldownSeconds) := by
  have hescalate : ∀ found title summary cause reason, MovesBy p (do
      let inc ← leaveVerification actor state ⟨p, 0⟩ found .escalated
      createEscalationRecord ⟨p, 0⟩ state.incidentId title summary cause reason
      createAttentionItem ⟨p, 0⟩
      pure inc : Prog (Option Incident)) :=
    fun _ _ _ _ _ => moves_bind (moves_leaveVerification _ _ _) (fun _ => moves_bind
      (moves_escalationRecord _ _ _ _ _) (fun _ => moves_bind moves_attentionItem
        (fun _ => moves_pure _)))
  refine moves_unitOfWork (moves_bind (moves_select _) (fun found => moves_bind
    (moves_worker workerStep_insertElsewhere) (fun _ => ?_)))
  split
  · exact moves_bind (moves_leaveVerification _ _ _) (fun _ => moves_pure _)
  · split
    · exact moves_bind (hescalate _ _ _ _ _) (fun _ => moves_pure _)
    · simp only
      split
      · refine moves_bind (moves_bind (moves_leaveVerification _ _ _) (fun _ => moves_bind
          (moves_bind (moves_worker workerStep_datetimeNow) (fun _ => ?_)) (fun _ =>
            moves_pure _))) (fun _ => moves_pure _)
        exact moves_scheduleWakeup _ _ _ _ _
      · exact moves_bind (hescalate _ _ _ _ _) (fun _ => moves_pure _)

theorem moves_verifyNode (cooldownSeconds : Int) :
    MovesBy p (verifyNode p actor state cooldownSeconds) := by
  have hrest : MovesBy p (do
      let verdict ← service World.verify
      settleVerdict p actor state verdict cooldownSeconds) :=
    moves_bind (moves_worker (workerStep_service (fun _ _ _ => trivial)))
      (fun _ => moves_settleVerdict _ _ _)
  unfold verifyNode
  split
  · exact moves_bind (moves_unitOfWork (moves_select _)) (fun _ => hrest)
  · exact hrest

theorem moves_terminalNode (target : IncidentState) (status : WorkflowStatus) :
    MovesBy p (terminalNode p actor state target status) := by
  refine moves_bind (moves_handle (moves_unitOfWork (moves_bind (moves_select _)
    (fun found => ?_))) (fun _ => moves_pure _)) (fun _ => moves_pure _)
  split
  · exact moves_pure _
  · exact moves_bind (moves_transition _ _ _) (fun _ => moves_pure _)

theorem moves_executeWithPolicy {x : Prog α} (node : WorkflowNode) (hx : MovesBy p x) :
    MovesBy p (executeWithPolicy node x) := by
  unfold executeWithPolicy
  split
  · exact moves_handle hx (fun _ => moves_handle hx (fun _ => hx))
  · exact hx

/-- **Every node moves incidents by these calls alone.** -/
theorem moves_node (services : WorkflowServices) {ad : DockerExecutionAdapter}
    (hadapter : services.adapter = ad.provider p) (node : WorkflowNode) :
    MovesBy p ((incidentWorkflow p actor services).node node state) := by
  refine moves_executeWithPolicy node ?_
  cases node with
  | collectEvidence => exact moves_collectEvidenceNode state
  | diagnose => exact moves_diagnoseNode state
  | plan => exact moves_planNode state
  | evaluatePolicy => exact moves_evaluatePolicyNode state _
  | waitForApproval =>
      show MovesBy p (waitForApprovalNode state)
      unfold waitForApprovalNode
      split
      · exact moves_pure _
      · split
        · exact moves_pure _
        · exact moves_pure _
  | execute =>
      show MovesBy p (executeNode p actor services.adapter state)
      rw [hadapter]
      exact moves_executeNode state ad
  | verify => exact moves_verifyNode state _
  | escalate => exact moves_terminalNode state _ _
  | resolve => exact moves_terminalNode state _ _

end Nodes

/-! ### The tasks -/

section Tasks

variable {α : Type} {p : Nat} {actor : String}

theorem moves_holding (i : Nat) (expectedVersion : Option Nat) {body : Nat → Prog α}
    (hbody : ∀ token, MovesBy p (body token)) :
    MovesBy p (holding p actor i expectedVersion body) := by
  have hrelease : ∀ token, MovesBy p (do
      observe [.left p i]
      tryCatch (unitOfWork ⟨p, 0⟩ actor (releaseIncidentLease ⟨p, 0⟩ i token))
        (fun _ => pure ()) : Prog Unit) :=
    fun token => moves_bind (moves_worker (workerStep_observe (fun _ _ => trivial))) (fun _ =>
      moves_handle (moves_unitOfWork (moves_worker
        (workerStep_releaseIncidentLease unmoving_lease _ _))) (fun _ => moves_pure _))
  refine moves_bind (moves_unitOfWork (moves_worker
    (workerStep_acquireIncidentLease unmoving_lease _ _ _))) (fun token => ?_)
  exact moves_bind (moves_handle (hbody token) (fun e => moves_bind (hrelease token)
    (fun _ => moves_throw e))) (fun a => moves_bind (hrelease token) (fun _ => moves_pure a))

theorem moves_runGraph (i token : Nat) (services : WorkflowServices) {ad : DockerExecutionAdapter}
    (hadapter : services.adapter = ad.provider p) (r : Reconstruction)
    (metadata : ResumeMetadata) :
    MovesBy p (runGraph p actor i services r metadata token) := by
  refine moves_bind (moves_unitOfWork (moves_worker (workerStep_verifyIncidentLease _ _ _)))
    (fun held => ?_)
  split
  · exact moves_throw _
  · refine moves_bind (moves_worker (workerStep_asked _)) (fun saved => ?_)
    refine moves_bind (MadeOf.invoke (fun node s => moves_node s services hadapter node) _ _ _)
      (fun state => ?_)
    split
    · exact moves_bind (moves_unitOfWork (moves_advanceIncident _ _ _)) (fun _ => moves_bind
        (moves_scheduleWakeup _ _ _ _ _) (fun _ => moves_pure _))
    · exact moves_pure _

theorem moves_runIncident (i : Nat) (services : WorkflowServices) {ad : DockerExecutionAdapter}
    (hadapter : services.adapter = ad.provider p) (expectedVersion : Option Nat)
    (metadata : ResumeMetadata) :
    MovesBy p (runIncident p actor i services expectedVersion metadata) := by
  have hinspect : MovesBy p (inspectIncident p actor i expectedVersion) := by
    refine moves_unitOfWork (moves_bind (moves_select _) (fun found => ?_))
    cases found with
    | none => exact moves_throw _
    | some incident =>
        simp only
        split
        · exact moves_pure _
        · split
          · exact moves_pure _
          · exact moves_bind (moves_bind (moves_select _) (fun _ => moves_bind (moves_select _)
              (fun _ => moves_bind (moves_select _) (fun _ => moves_bind (moves_select _)
                (fun _ => moves_pure _))))) (fun _ => moves_pure _)
  refine moves_bind hinspect (fun found => ?_)
  cases found with
  | none => exact moves_pure _
  | some r =>
      exact moves_bind (moves_holding i _ (fun token => moves_runGraph i token services hadapter r
        metadata)) (fun _ => moves_pure _)

theorem moves_resumeSchedules (workerId : String) (due : List WorkflowSchedule) :
    MovesBy p (resumeSchedules p workerId due) := by
  have hclaim : ∀ schedule, MovesBy p (claimDueSchedule ⟨p, 0⟩ "worker:recovery" schedule) := by
    intro schedule
    refine moves_unitOfWork (moves_quiet (sql_within (fun _ => .same rfl) ?_))
    intro s r s' hf
    simp only at hf
    split at hf
    · split at hf
      · simp only [Option.some.injEq, Prod.mk.injEq] at hf
        rw [← hf.2]
        exact .same rfl
      · cases hf
    · simp only [Option.some.injEq, Prod.mk.injEq] at hf
      rw [← hf.2]
      exact .same rfl
  induction due with
  | nil => exact moves_pure _
  | cons schedule rest ih =>
      have hmore : ∀ dispatched : Nat, MovesBy p (do
          let more ← resumeSchedules p workerId rest
          pure (dispatched + more) : Prog Nat) := fun _ => moves_bind ih (fun _ => moves_pure _)
      refine moves_bind (hclaim schedule) (fun claimed => ?_)
      simp only
      split
      · refine moves_bind (moves_handle (moves_bind (moves_runIncident schedule.incidentId
          (defaultServices p workerId) rfl _ _) (fun _ => moves_bind (moves_worker
            (workerStep_observe (fun _ _ => trivial))) (fun _ => moves_pure _))) (fun _ =>
              moves_bind (moves_worker (workerStep_observe (fun _ _ => trivial)))
                (fun _ => moves_pure _))) hmore
      · exact moves_bind (moves_pure _) hmore

theorem moves_cleanupExpiredLeases : MovesBy p (cleanupExpiredLeases p) := by
  have hrows : ∀ ids, MovesBy p (cleanupRows p ids) := by
    intro ids
    induction ids with
    | nil => exact moves_pure _
    | cons i rest ih =>
        exact moves_bind (moves_worker (workerStep_cleanupExpiredLease unmoving_lease i))
          (fun _ => ih)
  exact moves_unitOfWork (moves_bind (moves_select _) hrows)

theorem moves_runStuck (workerId : String) (stuck : List (Nat × Incident)) :
    MovesBy p (runStuck p workerId stuck) := by
  induction stuck with
  | nil => exact moves_pure _
  | cons found rest ih =>
      refine moves_bind (moves_handle ?_ (fun _ => moves_pure _)) (fun _ =>
        moves_bind ih (fun _ => moves_pure _))
      exact moves_bind (moves_runIncident found.1 (defaultServices p workerId) rfl _ _)
        (fun _ => moves_pure _)

/-- **A task moves incidents by these calls alone.** -/
theorem moves_task (task : WorkerTask) : MovesBy p (task.prog p) := by
  cases task with
  | recovery workerId =>
      refine moves_handle (moves_bind (moves_bind (moves_unitOfWork (moves_select _))
        (moves_resumeSchedules workerId)) (fun _ => moves_bind moves_cleanupExpiredLeases (fun _ =>
          moves_bind ?_ (fun _ => moves_pure _)))) (fun _ => moves_pure _)
      exact moves_bind (moves_unitOfWork (moves_select _)) (moves_runStuck workerId)
  | message workerId i expectedVersion =>
      exact moves_bind (moves_runIncident i (defaultServices p workerId) rfl _ _)
        (fun _ => moves_pure _)

end Tasks

end SelfHealing
