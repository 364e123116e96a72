/-
What the steps of a worker are.

A worker runs the nodes of the workflow under a lease.  Outside the adapter a step of it begins or
ends a transaction, draws an identifier, adds a row, writes an incident, a schedule, a lease or the
controls, or is an answer from outside that an observer sees; nothing else.  What an observer may
see of a part of the run, and which rows the part may add, is given with it, so that what no part
but one does is read off the kinds of steps.

The relation is closed under all the ways in which programs are put together.  So a lemma about a
node is its parts in their order, and a node that changes has its own lemma to be looked at.
-/
import SelfHealing.Proofs.AdapterSteps
import SelfHealing.Workflow.Runner

namespace SelfHealing

open Interleaving Interleaving.Prog ReadCommitted

/-- What a worker may do beside reading, drawing identifiers and adding rows. -/
inductive WorkerKind
  | transaction
  | incident
  | schedule (reason : WaitReason)
  | lease
  | control
deriving DecidableEq

/-- A node may do all of this, and it is the one that verifies that schedules a cooldown; the wait
for an approval is scheduled by the runner. -/
structure Permits (K : WorkerKind → Prop) : Prop where
  transaction : K .transaction
  incident : K .incident
  lease : K .lease
  control : K .control

theorem permits_all : Permits (fun _ => True) := ⟨trivial, trivial, trivial, trivial⟩

/-- A step of a worker in process `p`, outside the adapter: it is of a kind in `K`, an observer
sees only events in `E`, and only rows in `R` are added. -/
inductive WorkerStep (p : Nat) (K : WorkerKind → Prop) (E : Event → Prop) (R : NewRow → Prop) :
    Db → Db → Prop
  | same (s : Db) : WorkerStep p K E R s s
  | started (s : Db) (l : Nat) (hK : K .transaction) : WorkerStep p K E R s (s.started ⟨p, l⟩)
  | drawn (s : Db) (q : Nat) : WorkerStep p K E R s (s.draw q)
  | commit (s : Db) (l : Nat) (evs : List Event) (hK : K .transaction) (hevs : ∀ e ∈ evs, E e) :
      WorkerStep p K E R s ((s.commit ⟨p, l⟩).record evs)
  | rollback (s : Db) (l : Nat) (hK : K .transaction) :
      WorkerStep p K E R s (s.rollback ⟨p, l⟩)
  | seen (s : Db) (evs : List Event) (hevs : ∀ e ∈ evs, E e) : WorkerStep p K E R s (s.record evs)
  | added (s : Db) (l : Nat) (row : NewRow) (hrow : R row) :
      WorkerStep p K E R s (s.add ⟨p, l⟩ row)
  | incident (s : Db) (l i : Nat) (row : Incident) (hK : K .incident) :
      WorkerStep p K E R s (s.setIncident i ((s.incidents i).write ⟨p, l⟩ (some row)))
  | outbox (s : Db) (l id : Nat) (event : OutboxEvent) :
      WorkerStep p K E R s (s.setOutbox id ((s.outbox id).write ⟨p, l⟩ (some event)))
  | schedule (s : Db) (l : Nat) (schedule : WorkflowSchedule)
      (hK : K (.schedule schedule.waitReason)) :
      WorkerStep p K E R s { s.setSchedule schedule.id
          ((s.schedules schedule.id).write ⟨p, l⟩ (some schedule)) with
        scheduleIds := schedule.id :: s.scheduleIds }
  | lease (s : Db) (i : Nat) (c : Cell TxId WorkflowLease) (hK : K .lease) :
      WorkerStep p K E R s (s.setLease i c)
  | control (s : Db) (c : Cell TxId AutomationControl) (hK : K .control) :
      WorkerStep p K E R s (s.setControl c)

theorem WorkerStep.mono {p : Nat} {K K' : WorkerKind → Prop} {E E' : Event → Prop}
    {R R' : NewRow → Prop} {s s' : Db} (h : WorkerStep p K E R s s') (hK : ∀ k, K k → K' k)
    (hE : ∀ e, E e → E' e) (hR : ∀ row, R row → R' row) : WorkerStep p K' E' R' s s' := by
  cases h with
  | same => exact .same s
  | started l hk => exact .started s l (hK _ hk)
  | drawn q => exact .drawn s q
  | commit l evs hk hevs => exact .commit s l evs (hK _ hk) (fun e he => hE e (hevs e he))
  | rollback l hk => exact .rollback s l (hK _ hk)
  | seen evs hevs => exact .seen s evs (fun e he => hE e (hevs e he))
  | added l row hrow => exact .added s l row (hR row hrow)
  | incident l i row hk => exact .incident s l i row (hK _ hk)
  | outbox l id event => exact .outbox s l id event
  | schedule l schedule hk => exact .schedule s l schedule (hK _ hk)
  | lease i c hk => exact .lease s i c (hK _ hk)
  | control c hk => exact .control s c (hK _ hk)

/-- A worker stores no evidence. -/
theorem WorkerStep.evidence {p : Nat} {K : WorkerKind → Prop} {E : Event → Prop} {R : NewRow → Prop}
    {s s' : Db} (h : WorkerStep p K E R s s') : s'.evidence = s.evidence := by
  cases h with
  | _ => rfl

/-- A decision that is committed stays. -/
theorem WorkerStep.approvals {p : Nat} {K : WorkerKind → Prop} {E : Event → Prop}
    {R : NewRow → Prop}
    {s s' : Db} (h : WorkerStep p K E R s s') : s.approvals ⊆ s'.approvals := by
  cases h with
  | commit l evs hk hevs => exact List.subset_append_right _ _
  | _ => exact List.Subset.refl _

/-- Schedules are added by those only who may. -/
theorem WorkerStep.scheduleIds {p : Nat} {K : WorkerKind → Prop} {E : Event → Prop}
    {R : NewRow → Prop} {s s' : Db} (h : WorkerStep p K E R s s')
    (hK : ∀ reason, ¬ K (.schedule reason)) :
    s'.scheduleIds = s.scheduleIds := by
  cases h with
  | schedule l schedule hk => exact absurd hk (hK _)
  | _ => rfl

/-- A row of an incident that nobody has locked is written by those only who may. -/
theorem WorkerStep.unlocked_row {p : Nat} {K : WorkerKind → Prop} {E : Event → Prop}
    {R : NewRow → Prop} {s s' : Db} (h : WorkerStep p K E R s s') (hK : ¬ K .incident) {i : Nat}
    (hfree : (s.incidents i).pending = none) : s'.incidents i = s.incidents i := by
  have hnot : ∀ t, ¬ (s.incidents i).locked t := by
    rintro t ⟨vs, hvs⟩
    rw [hfree] at hvs
    cases hvs
  cases h with
  | commit l evs hk hevs => exact Cell.commit_of_not_locked (hnot _)
  | rollback l hk => exact Cell.rollback_of_not_locked (hnot _)
  | incident l i row hk => exact absurd hk hK
  | _ => rfl

/-- Inside a transaction the rows are written by those only who may. -/
theorem WorkerStep.row {p : Nat} {K : WorkerKind → Prop} {E : Event → Prop} {R : NewRow → Prop}
    {s s' : Db} (h : WorkerStep p K E R s s') (hK : ¬ K .incident) (hT : ¬ K .transaction) :
    s'.incidents = s.incidents := by
  cases h with
  | commit l evs hk hevs => exact absurd hk hT
  | rollback l hk => exact absurd hk hT
  | incident l i row hk => exact absurd hk hK
  | _ => rfl

/-- The rows that other processes have added stay as they are. -/
theorem WorkerStep.added_other {p : Nat} {K : WorkerKind → Prop} {E : Event → Prop}
    {R : NewRow → Prop}
    {s s' : Db} (h : WorkerStep p K E R s s') {t : TxId} (ht : t.pid ≠ p) :
    s'.added t = s.added t := by
  have hne : ∀ l, t ≠ ⟨p, l⟩ := fun l heq => ht (by rw [heq])
  cases h with
  | commit l evs hk hevs => exact Function.update_of_ne (hne l) _ _
  | rollback l hk => exact Function.update_of_ne (hne l) _ _
  | added l row hrow => exact Function.update_of_ne (hne l) _ _
  | _ => rfl

/-! ### Before a transaction ends -/

theorem incident_setIncident {t : TxId} {s : Db} {i : Nat} (v : Option Incident) (j : Nat) :
    (s.setIncident i ((s.incidents i).write t v)).incident j = s.incident j := by
  unfold Db.incident
  by_cases hj : j = i
  · subst hj
    simp only [Db.setIncident, Function.update_self]
    rfl
  · simp only [Db.setIncident, Function.update_of_ne hj]

/-- Nothing of the decisions, the incidents and the schedules is committed. -/
structure Undone (s s' : Db) : Prop where
  decisions : s'.decisions = s.decisions
  approvals : s'.approvals = s.approvals
  escalations : s'.escalations = s.escalations
  incident : ∀ i, s'.incident i = s.incident i
  schedule : ∀ i, (s'.schedules i).committed = (s.schedules i).committed

/-- Nothing is committed, and the rows that have been added stay. -/
structure Withheld (s s' : Db) : Prop extends Undone s s' where
  added : ∀ t, s.added t ⊆ s'.added t

theorem Undone.refl (s : Db) : Undone s s := ⟨rfl, rfl, rfl, fun _ => rfl, fun _ => rfl⟩

theorem undone_rollback (t : TxId) (s : Db) : Undone s (s.rollback t) :=
  ⟨rfl, rfl, rfl, fun _ => Cell.committed_rollback, fun _ => Cell.committed_rollback⟩

/-- **A worker that neither begins nor ends a transaction commits nothing.** -/
theorem WorkerStep.withheld {p : Nat} {K : WorkerKind → Prop} {E : Event → Prop}
    {R : NewRow → Prop} {s s' : Db} (h : WorkerStep p K E R s s') (hK : ¬ K .transaction) :
    Withheld s s' := by
  cases h with
  | started l hk | rollback l hk => exact absurd hk hK
  | commit l evs hk hevs => exact absurd hk hK
  | added l row hrow =>
      refine ⟨⟨rfl, rfl, rfl, fun _ => rfl, fun _ => rfl⟩, ?_⟩
      intro t
      by_cases ht : t = ⟨p, l⟩
      · subst ht
        simp [Db.add]
      · simp [Db.add, ht]
  | incident l i row hk =>
      exact ⟨⟨rfl, rfl, rfl, incident_setIncident _, fun _ => rfl⟩, fun _ => List.Subset.refl _⟩
  | schedule l schedule hk =>
      refine ⟨⟨rfl, rfl, rfl, fun _ => rfl, ?_⟩, fun _ => List.Subset.refl _⟩
      intro i
      by_cases hi : i = schedule.id
      · subst hi
        simp only [Db.setSchedule, Function.update_self]
        rfl
      · simp only [Db.setSchedule, Function.update_of_ne hi]
  | _ => exact ⟨⟨rfl, rfl, rfl, fun _ => rfl, fun _ => rfl⟩, fun _ => List.Subset.refl _⟩

/-- **A block that raises commits nothing.** -/
theorem took_unitOfWork_undone {α : Type} {p l : Nat} {K : WorkerKind → Prop} {E : Event → Prop}
    {R : NewRow → Prop} {actor : String} {body : Prog α} {seen : α → List Event}
    {steps : List (Db × Db)} {e : Err} (hK : ¬ K .transaction)
    (hbody : Within (WorkerStep p K E R) body)
    (h : (unitOfWork ⟨p, l⟩ actor body seen).Took steps (.error e)) :
    ∀ q ∈ steps, Undone q.1 q.2 :=
  took_unitOfWork_raised Undone.refl (fun _ => ⟨rfl, rfl, rfl, fun _ => rfl, fun _ => rfl⟩)
    (undone_rollback _)
    (hbody.mono (fun _ _ hstep => (hstep.withheld hK).toUndone)) h

section Steps

variable {α : Type} {p l : Nat} {K : WorkerKind → Prop} {E : Event → Prop} {R : NewRow → Prop}
  {actor : String}

/-! ### Statements

One lemma for each kind of statement, with the permission that it needs: to add a row of some kind,
to be seen with some event.  A program of several statements needs the permissions of all of them,
and they are given at the end for the node as a whole.
-/

theorem workerStep_sql {f : Db → Option (Except Err α × Db)}
    (h : ∀ s r s', f s = some (r, s') → WorkerStep p K E R s s') :
    Within (WorkerStep p K E R) (sql f) :=
  sql_within .same h

theorem workerStep_select (f : Db → α) : Within (WorkerStep p K E R) (select f) :=
  select_within .same f

theorem workerStep_check (x : Except Err α) : Within (WorkerStep p K E R) (check x) := ⟨trivial⟩

theorem workerStep_datetimeNow : Within (WorkerStep p K E R) datetimeNow := datetimeNow_within .same

theorem workerStep_uuid4 (q : Nat) : Within (WorkerStep p K E R) (uuid4 q) := by
  refine within_stmt ?_
  intro w s r s' hf
  simp only [Option.some.injEq, Prod.mk.injEq] at hf
  rw [← hf.2]
  exact .drawn s q

theorem workerStep_observe {evs : List Event} (h : ∀ e ∈ evs, E e) :
    Within (WorkerStep p K E R) (observe evs) := by
  refine within_stmt ?_
  intro w s r s' hf
  simp only [Option.some.injEq, Prod.mk.injEq] at hf
  rw [← hf.2]
  exact .seen s evs h

/-- What the world answers, without a trace. -/
theorem workerStep_asked (f : World → Except Err α) :
    Within (WorkerStep p K E R) (Interleaving.Prog.stmt fun w db => some (f w, db)) := by
  refine within_stmt ?_
  intro w s r s' hf
  simp only [Option.some.injEq, Prod.mk.injEq] at hf
  rw [← hf.2]
  exact .same s

theorem workerStep_service {answer : World → ServiceAnswer α} {seen : α → List Event}
    (hseen : ∀ a, ∀ e ∈ seen a, E e) : Within (WorkerStep p K E R) (service answer seen) := by
  refine within_stmt ?_
  intro w s r s' hf
  split at hf
  · simp only [Option.some.injEq, Prod.mk.injEq] at hf
    rw [← hf.2]
    exact .same s
  · rename_i a _
    simp only [Option.some.injEq, Prod.mk.injEq] at hf
    rw [← hf.2]
    exact .seen s _ (hseen a)

theorem workerStep_unitOfWork (hK : K .transaction) {body : Prog α} {seen : α → List Event}
    (hbody : Within (WorkerStep p K E R) body) (hseen : ∀ a, ∀ e ∈ seen a, E e) :
    Within (WorkerStep p K E R) (unitOfWork ⟨p, l⟩ actor body seen) :=
  unitOfWork_within .same (fun s => .started s l hK) (fun s => .rollback s l hK)
    (fun a s => .commit s l _ hK (hseen a)) hbody

theorem workerStep_unitOfWork_unseen (hK : K .transaction) {body : Prog α}
    (hbody : Within (WorkerStep p K E R) body) :
    Within (WorkerStep p K E R) (unitOfWork ⟨p, l⟩ actor body) :=
  workerStep_unitOfWork hK hbody (fun _ _ he => absurd he List.not_mem_nil)

theorem workerStep_insertRow {row : NewRow} (hrow : R row) :
    Within (WorkerStep p K E R) (insertRow ⟨p, l⟩ row) := by
  refine workerStep_sql ?_
  intro s r s' hf
  simp only [Option.some.injEq, Prod.mk.injEq] at hf
  rw [← hf.2]
  exact .added s l row hrow

theorem workerStep_insertElsewhere : Within (WorkerStep p K E R) insertElsewhere := by
  refine workerStep_sql ?_
  intro s r s' hf
  simp only [Option.some.injEq, Prod.mk.injEq] at hf
  rw [← hf.2]
  exact .same s

theorem workerStep_insertRows {rows : List NewRow} (hrows : ∀ row ∈ rows, R row) :
    Within (WorkerStep p K E R) (insertRows ⟨p, l⟩ rows) := by
  induction rows with
  | nil => exact within_pure _
  | cons row rest ih =>
      refine Within.bind (workerStep_insertRow (hrows row List.mem_cons_self)) (fun _ => ih ?_)
      exact fun row' hrow' => hrows row' (List.mem_cons_of_mem row hrow')

/-! ### Records and incidents -/

theorem workerStep_createEscalationRecord
    (hescalation : ∀ record, R (.escalation record)) (i : Nat) (title summary cause : String)
    (reason : Option String) :
    Within (WorkerStep p K E R) (createEscalationRecord ⟨p, l⟩ i title summary cause reason) :=
  Within.bind (workerStep_uuid4 _) (fun _ => workerStep_insertRow (hescalation _))

theorem workerStep_createAttentionItem :
    Within (WorkerStep p K E R) (createAttentionItem ⟨p, l⟩) :=
  Within.bind (workerStep_uuid4 _) (fun _ => workerStep_insertElsewhere)

theorem workerStep_updateIncident (hK : K .incident) (i : Nat)
    (set : Int → Incident → Option Incident) :
    Within (WorkerStep p K E R) (updateIncident ⟨p, l⟩ i set) := by
  refine workerStep_sql ?_
  intro s r s' hf
  simp only at hf
  split at hf
  · split at hf
    · simp only [Option.some.injEq, Prod.mk.injEq] at hf
      rw [← hf.2]
      exact .incident s l i _ hK
    · simp at hf
  · simp only [Option.some.injEq, Prod.mk.injEq] at hf
    rw [← hf.2]
    exact .same s

theorem workerStep_transition (hK : K .incident) (i : Nat) (v : Int) (target : IncidentState) :
    Within (WorkerStep p K E R) (transition ⟨p, l⟩ actor i v target) := by
  refine Within.bind (workerStep_select _) (fun found => ?_)
  cases found with
  | none => exact within_throw _
  | some incident =>
      refine Within.bind (workerStep_check _) (fun _ => Within.bind
        (workerStep_updateIncident hK _ _) (fun result => ?_))
      cases result with
      | none => exact within_throw _
      | some updated =>
          by_cases happ : target = .approved
          · simp only [if_pos happ]
            refine Within.bind (workerStep_uuid4 _) (fun id => Within.bind (workerStep_sql ?_)
              (fun _ => within_pure _))
            intro s r s' hf
            simp only [Option.some.injEq, Prod.mk.injEq] at hf
            rw [← hf.2]
            exact .outbox s l id _
          · simp only [if_neg happ]
            exact within_pure _

theorem workerStep_advanceIncident (hK : K .incident) (i : Nat) (states : List IncidentState)
    (target : IncidentState) :
    Within (WorkerStep p K E R) (advanceIncident actor ⟨p, l⟩ i states target) := by
  refine Within.bind (workerStep_select _) (fun found => ?_)
  cases found with
  | none => exact within_pure _
  | some inc =>
      by_cases hin : inc.state ∈ states
      · simp only [if_pos hin]
        exact Within.bind (workerStep_transition hK _ _ _) (fun _ => within_pure _)
      · simp only [if_neg hin]
        exact within_pure _

theorem workerStep_requireIncidentApproval (hK : K .incident) (i : Nat) (v : Int) :
    Within (WorkerStep p K E R) (requireIncidentApproval ⟨p, l⟩ i v) := by
  refine Within.bind (workerStep_updateIncident hK _ _) (fun result => ?_)
  cases result with
  | none => exact within_throw _
  | some incident => exact within_pure _

/-! ### The parts of the execution node outside the adapter -/

theorem workerStep_retrieveIntent (hK : Permits K) (state : IncidentGraphState) :
    Within (WorkerStep p K E R) (retrieveIntent p actor state) := by
  unfold retrieveIntent
  split
  · exact within_throw _
  · refine workerStep_unitOfWork_unseen hK.transaction (Within.bind ?_ (fun found => ?_))
    · refine Within.bind (workerStep_select _) (fun plan => ?_)
      cases plan with
      | none => exact within_pure _
      | some plan => exact Within.bind (workerStep_select _) (fun _ => within_pure _)
    · obtain ⟨plan, steps⟩ := found
      cases plan with
      | none => exact within_throw _
      | some plan =>
          simp only
          split
          · exact within_throw _
          · exact within_pure _

theorem workerStep_escalatePrecheck (hK : Permits K)
    (hescalation : ∀ record, R (.escalation record))
    (state : IncidentGraphState) (reason : String) :
    Within (WorkerStep p K E R) (escalatePrecheck p actor state reason) := by
  refine Within.bind (workerStep_unitOfWork_unseen hK.transaction ?_) (fun _ => within_pure _)
  exact Within.bind (workerStep_advanceIncident hK.incident _ _ _) (fun _ =>
    Within.bind (workerStep_createEscalationRecord hescalation _ _ _ _ _) (fun _ =>
      workerStep_createAttentionItem))

theorem workerStep_recordSuccess (hK : Permits K) (state : IncidentGraphState)
    (intent : ExecutionIntent)
    (outcome : ExecutionOutcome) :
    Within (WorkerStep p K E R) (recordSuccess p actor state intent outcome) :=
  Within.bind (workerStep_unitOfWork_unseen hK.transaction
    (workerStep_advanceIncident hK.incident _ _ _))
    (fun _ => within_pure _)

theorem workerStep_recordFailure (hK : Permits K) (hescalation : ∀ record, R (.escalation record))
    (state : IncidentGraphState) (outcome : ExecutionOutcome) :
    Within (WorkerStep p K E R) (recordFailure p actor state outcome) := by
  refine Within.bind (workerStep_unitOfWork_unseen hK.transaction ?_) (fun _ => within_pure _)
  refine Within.bind (workerStep_advanceIncident hK.incident _ _ _) (fun inc => ?_)
  have hrest : Within (WorkerStep p K E R) (do
      createEscalationRecord ⟨p, 0⟩ state.incidentId "Execution Failed or Uncertain"
        s!"Docker restart mutation failed or had uncertain outcome: {outcome.failure}"
        "EXECUTION_FAILED" (some outcome.failure)
      createAttentionItem ⟨p, 0⟩ : Prog Unit) :=
    Within.bind (workerStep_createEscalationRecord hescalation _ _ _ _ _)
      (fun _ => workerStep_createAttentionItem)
  cases inc with
  | none => exact hrest
  | some inc => exact Within.bind (workerStep_transition hK.incident _ _ _) (fun _ => hrest)

/-! ### The other nodes -/

theorem workerStep_leaveTriage (hK : K .incident) (i : Nat) (found : Option Incident)
    (target : IncidentState) :
    Within (WorkerStep p K E R) (leaveTriage actor ⟨p, l⟩ i found target) := by
  unfold leaveTriage
  cases found with
  | none => exact within_pure _
  | some inc =>
      simp only
      split
      · exact Within.bind (workerStep_transition hK _ _ _) (fun _ =>
          Within.bind (workerStep_transition hK _ _ _) (fun _ => within_pure _))
      · split
        · exact Within.bind (workerStep_transition hK _ _ _) (fun _ => within_pure _)
        · exact within_pure _

theorem workerStep_createPlan (cause : String) (target : TargetBinding) :
    Within (WorkerStep p K E R) (createPlan p cause target) := by
  refine Within.bind (workerStep_uuid4 _) (fun _ => Within.bind (workerStep_uuid4 _) (fun _ =>
    Within.bind (workerStep_uuid4 _)
      (fun _ => Within.bind (workerStep_asked _) (fun answer => ?_))))
  cases answer with
  | invalid errors => exact within_throw _
  | valid contentHash =>
      simp only
      split
      · exact within_pure _
      · exact within_pure _

theorem workerStep_getAutomationControls (hK : K .control) :
    Within (WorkerStep p K E R) (getAutomationControls ⟨p, l⟩ actor) := by
  refine Within.bind (workerStep_select _) (fun found => ?_)
  cases found with
  | some control => exact within_pure _
  | none =>
      refine Within.bind workerStep_datetimeNow (fun now => Within.bind (workerStep_sql ?_)
        (fun _ => within_pure _))
      intro s r s' hf
      simp only at hf
      split at hf
      · split at hf
        · simp only [Option.some.injEq, Prod.mk.injEq] at hf
          rw [← hf.2]
          exact .same s
        · simp only [Option.some.injEq, Prod.mk.injEq] at hf
          rw [← hf.2]
          exact .control s _ hK
      · simp at hf

variable (hR : ∀ row, row.diagnosis? = none → R row)

include hR

theorem workerStep_discoverTarget (hK : K .transaction) (state : IncidentGraphState) :
    Within (WorkerStep p K E R) (discoverTarget p actor state) := by
  have hsync : Within (WorkerStep p K E R) (syncResourceBinding ⟨p, 0⟩) := by
    refine Within.bind (workerStep_asked _) (fun found => ?_)
    cases found with
    | none => exact within_pure _
    | some container =>
        refine Within.bind (workerStep_select _) (fun resource => ?_)
        cases resource with
        | none => exact within_pure _
        | some resource =>
            exact Within.bind (workerStep_insertRow (hR _ rfl)) (fun _ => within_pure _)
  refine workerStep_unitOfWork_unseen hK
    (Within.bind (workerStep_select _) (fun resource => ?_))
  cases resource with
  | none => exact within_pure _
  | some resource =>
      exact Within.bind (Within.handle hsync (fun _ => within_pure _)) (fun _ => within_pure _)

theorem workerStep_collectEvidenceNode (hK : Permits K) (state : IncidentGraphState)
    (hcollected : E (.collected p state.incidentId)) :
    Within (WorkerStep p K E R) (collectEvidenceNode p actor state) := by
  unfold collectEvidenceNode
  split
  · exact within_pure _
  · refine Within.bind (workerStep_discoverTarget hR hK.transaction state) (fun target => Within.bind
      (workerStep_service ?_) (fun evidence => Within.bind
        (workerStep_unitOfWork_unseen hK.transaction (workerStep_advanceIncident hK.incident _ _ _))
        (fun _ => within_pure _)))
    intro a e he
    rw [List.mem_singleton.mp he]
    exact hcollected

theorem workerStep_recordDiagnosis (hdiagnosis : ∀ diag, R (.diagnosis diag)) (hK : Permits K)
    (state : IncidentGraphState) (id : Nat) (diag : DiagnosisAnswer) :
    Within (WorkerStep p K E R) (recordDiagnosis p actor state id diag) := by
  refine workerStep_unitOfWork_unseen hK.transaction
    (Within.bind (workerStep_select _) (fun found =>
    Within.bind (workerStep_insertRow (hdiagnosis _)) (fun _ => ?_)))
  split
  · exact workerStep_leaveTriage hK.incident _ _ _
  · exact Within.bind (workerStep_leaveTriage hK.incident _ _ _) (fun _ => Within.bind
      (workerStep_createEscalationRecord (fun _ => hR _ rfl) _ _ _ _ _) (fun _ => within_pure _))

theorem workerStep_diagnoseNode (hdiagnosis : ∀ diag, R (.diagnosis diag)) (hK : Permits K)
    (state : IncidentGraphState)
    (hdiagnosed : ∀ actionable, E (.diagnosed p state.incidentId actionable)) :
    Within (WorkerStep p K E R) (diagnoseNode p actor state) := by
  unfold diagnoseNode
  split
  · exact within_pure _
  · refine Within.bind (workerStep_service ?_) (fun diag => Within.bind (workerStep_uuid4 _)
      (fun id => Within.bind (workerStep_recordDiagnosis hR hdiagnosis hK _ _ _) (fun inc => ?_)))
    · intro diag e he
      rw [List.mem_singleton.mp he]
      exact hdiagnosed _
    · simp only
      split
      · exact within_pure _
      · exact within_pure _

theorem workerStep_createRemediationPlanWithSteps (i diagnosisId : Nat) (draft : PlanDraft)
    (target : TargetBinding) : Within (WorkerStep p K E R)
      (createRemediationPlanWithSteps ⟨p, l⟩ i diagnosisId draft target) := by
  refine Within.bind (workerStep_select _) (fun diag => ?_)
  split
  · refine Within.bind (workerStep_uuid4 _) (fun id => Within.bind (workerStep_sql ?_)
      (fun _ => Within.bind (workerStep_insertRows ?_) (fun _ => within_pure _)))
    swap
    · intro row hrow
      obtain ⟨step, -, rfl⟩ := List.mem_map.mp hrow
      exact hR _ rfl
    intro s r s' hf
    split at hf
    · simp only [Option.some.injEq, Prod.mk.injEq] at hf
      rw [← hf.2]
      exact .same s
    · simp only [Option.some.injEq, Prod.mk.injEq] at hf
      rw [← hf.2]
      exact .added s l _ (hR _ rfl)
  · exact within_throw _

theorem workerStep_planNode (hK : Permits K) (state : IncidentGraphState) :
    Within (WorkerStep p K E R) (planNode p actor state) := by
  unfold planNode
  split
  · exact within_pure _
  · exact within_throw _
  · refine workerStep_unitOfWork_unseen hK.transaction
      (Within.bind (workerStep_select _) (fun diag => ?_))
    cases diag with
    | none => exact within_throw _
    | some diag =>
        refine Within.bind (workerStep_select _) (fun resource => ?_)
        cases resource with
        | none => exact within_throw _
        | some resource =>
            refine Within.bind (workerStep_check _) (fun _ => Within.handle ?_ (fun e => ?_))
            · refine Within.bind (workerStep_createPlan _ _) (fun draft => ?_)
              cases draft with
              | some draft =>
                  exact Within.bind (workerStep_createRemediationPlanWithSteps hR _ _ _ _)
                    (fun _ => Within.bind (workerStep_transition hK.incident _ _ _)
                      (fun _ => within_pure _))
              | none =>
                  exact Within.bind
                    (workerStep_createEscalationRecord (fun _ => hR _ rfl) _ _ _ _ _)
                    (fun _ => Within.bind workerStep_createAttentionItem (fun _ => Within.bind
                      (workerStep_transition hK.incident _ _ _) (fun _ => within_pure _)))
            · split
              · exact Within.bind (workerStep_createEscalationRecord (fun _ => hR _ rfl) _ _ _ _ _)
                  (fun _ => Within.bind (workerStep_transition hK.incident _ _ _)
                    (fun _ => within_pure _))
              · exact within_throw _

/-- The second part of the policy node is one block in a transaction. -/
theorem applyDecision_block (hK : K .incident) (state : IncidentGraphState) (planId : Nat)
    (ctx : EvaluationContext)
    (decision : PolicyEvaluationDecision) :
    ∃ body, Within (WorkerStep p K E R) body ∧
      applyDecision p actor state planId ctx decision = unitOfWork ⟨p, 0⟩ actor body := by
  have hrecord : Within (WorkerStep p K E R)
    (recordPolicyDecision state ⟨p, 0⟩ planId ctx decision) :=
    Within.bind (workerStep_uuid4 _) (fun _ => Within.bind (workerStep_insertRow (hR _ rfl))
      (fun _ => within_pure _))
  refine ⟨_, Within.bind hrecord (fun id => Within.bind (workerStep_select _) (fun found => ?_)),
    rfl⟩
  cases decision.decision with
  | allow => exact within_pure _
  | requireApproval =>
      refine Within.bind ?_ (fun _ => within_pure _)
      unfold awaitApproval
      split
      · exact within_pure _
      · have hmove : ∀ inc : Incident, Within (WorkerStep p K E R) (do
            let inc ← transition ⟨p, 0⟩ actor state.incidentId inc.version .pendingApproval
            pure (some inc)) :=
          fun _ => Within.bind (workerStep_transition hK _ _ _) (fun _ => within_pure _)
        simp only
        split
        · exact hmove _
        · exact Within.bind (workerStep_requireIncidentApproval hK _ _) (fun _ => hmove _)
  | deny =>
      refine Within.bind ?_ (fun _ => within_pure _)
      have hrecord : ∀ inc : Option Incident, Within (WorkerStep p K E R) (do
          createEscalationRecord ⟨p, 0⟩ state.incidentId "Policy Evaluation Denial"
            s!"Remediation plan denied by policy: {joinCodes decision.reasonCodes}" ctx.rootCause
            (some s!"Policy denied: {joinCodes decision.reasonCodes}")
          pure inc) :=
        fun _ => Within.bind (workerStep_createEscalationRecord (fun _ => hR _ rfl) _ _ _ _ _)
          (fun _ => within_pure _)
      unfold denyPlan
      simp only
      split
      · exact hrecord _
      · exact Within.bind (workerStep_transition hK _ _ _) (fun _ => hrecord _)
  | defer =>
      simp only
      split
      · exact within_throw _
      · exact within_pure _

theorem workerStep_applyDecision (hK : Permits K) (state : IncidentGraphState) (planId : Nat)
    (ctx : EvaluationContext) (decision : PolicyEvaluationDecision) :
    Within (WorkerStep p K E R) (applyDecision p actor state planId ctx decision) := by
  obtain ⟨body, hbody, heq⟩ := applyDecision_block hR hK.incident state planId ctx decision
  rw [heq]
  exact workerStep_unitOfWork_unseen hK.transaction hbody

omit hR in
theorem workerStep_policyContext (hK : Permits K) (state : IncidentGraphState) (planId : Nat) :
    Within (WorkerStep p K E R) (policyContext p actor state planId) := by
  refine Within.bind (workerStep_unitOfWork_unseen hK.transaction ?_) (fun _ => Within.bind
    workerStep_datetimeNow (fun _ => within_pure _))
  exact Within.bind (workerStep_select _) (fun _ => Within.bind
    (workerStep_getAutomationControls hK.control)
    (fun _ => Within.bind (workerStep_select _) (fun _ => within_pure _)))

theorem workerStep_evaluatePolicyNode (hK : Permits K) (state : IncidentGraphState)
    (evaluate : EvaluationContext → Except Err PolicyEvaluationDecision) :
    Within (WorkerStep p K E R) (evaluatePolicyNode p actor state evaluate) := by
  unfold evaluatePolicyNode
  split
  · exact within_throw _
  · exact Within.bind (workerStep_policyContext hK _ _) (fun ctx => Within.bind
      (workerStep_check _) (fun decision =>
        Within.bind (workerStep_applyDecision hR hK _ _ _ _) (fun _ => within_pure _)))

omit hR in
theorem workerStep_insertSchedule (schedule : WorkflowSchedule)
    (hK : K (.schedule schedule.waitReason)) :
    Within (WorkerStep p K E R) (insertSchedule ⟨p, l⟩ schedule) := by
  refine workerStep_sql ?_
  intro s r s' hf
  split at hf
  · simp only [Option.some.injEq, Prod.mk.injEq] at hf
    rw [← hf.2]
    exact .schedule s l schedule hK
  · simp only [Option.some.injEq, Prod.mk.injEq] at hf
    rw [← hf.2]
    exact .same s

omit hR in
theorem workerStep_scheduleWakeup (hK : K .transaction) (i version : Nat) (delaySeconds : Int)
    (waitReason : WaitReason) (hwait : K (.schedule waitReason)) (metadata : ResumeMetadata) :
    Within (WorkerStep p K E R)
      (scheduleWakeup ⟨p, l⟩ actor i version delaySeconds waitReason metadata) :=
  Within.bind workerStep_datetimeNow (fun _ => workerStep_unitOfWork_unseen hK
    (Within.bind (workerStep_uuid4 _) (fun _ => Within.bind (workerStep_insertSchedule _ hwait)
      (fun _ => within_pure _))))

omit hR in
theorem workerStep_leaveVerification (hK : K .incident) (state : IncidentGraphState)
    (found : Option Incident)
    (target : IncidentState) :
    Within (WorkerStep p K E R) (leaveVerification actor state ⟨p, l⟩ found target) := by
  unfold leaveVerification
  split
  · exact within_pure _
  · exact Within.bind (workerStep_transition hK _ _ _) (fun _ => within_pure _)

theorem workerStep_settleVerdict (hK : Permits K) (hcooldown : K (.schedule .cooldown))
    (state : IncidentGraphState)
    (verdict : VerdictAnswer) (cooldownSeconds : Int) :
    Within (WorkerStep p K E R) (settleVerdict p actor state verdict cooldownSeconds) := by
  have hescalate : ∀ found title summary cause reason, Within (WorkerStep p K E R) (do
      let inc ← leaveVerification actor state ⟨p, 0⟩ found .escalated
      createEscalationRecord ⟨p, 0⟩ state.incidentId title summary cause reason
      createAttentionItem ⟨p, 0⟩
      pure inc : Prog (Option Incident)) :=
    fun _ _ _ _ _ => Within.bind (workerStep_leaveVerification hK.incident _ _ _)
      (fun _ => Within.bind
      (workerStep_createEscalationRecord (fun _ => hR _ rfl) _ _ _ _ _) (fun _ =>
        Within.bind workerStep_createAttentionItem (fun _ => within_pure _)))
  refine workerStep_unitOfWork_unseen hK.transaction
    (Within.bind (workerStep_select _) (fun found =>
    Within.bind workerStep_insertElsewhere (fun _ => ?_)))
  split
  · exact Within.bind (workerStep_leaveVerification hK.incident _ _ _) (fun _ => within_pure _)
  · split
    · exact Within.bind (hescalate _ _ _ _ _) (fun _ => within_pure _)
    · simp only
      split
      · refine Within.bind ?_ (fun _ => within_pure _)
        exact Within.bind (workerStep_leaveVerification hK.incident _ _ _) (fun _ => Within.bind
          (Within.bind workerStep_datetimeNow
            (fun _ => workerStep_scheduleWakeup hK.transaction _ _ _ _ hcooldown _))
          (fun _ => within_pure _))
      · exact Within.bind (hescalate _ _ _ _ _) (fun _ => within_pure _)

theorem workerStep_verifyNode (hK : Permits K) (hcooldown : K (.schedule .cooldown))
    (state : IncidentGraphState)
    (cooldownSeconds : Int) :
    Within (WorkerStep p K E R) (verifyNode p actor state cooldownSeconds) := by
  have hrest : Within (WorkerStep p K E R) (do
      let verdict ← service World.verify
      settleVerdict p actor state verdict cooldownSeconds) :=
    Within.bind (workerStep_service (fun _ _ he => absurd he List.not_mem_nil))
      (fun _ => workerStep_settleVerdict hR hK hcooldown _ _ _)
  unfold verifyNode
  split
  · exact Within.bind (workerStep_unitOfWork_unseen hK.transaction (workerStep_select _))
      (fun _ => hrest)
  · exact hrest

omit hR in
theorem workerStep_terminalNode (hK : Permits K) (state : IncidentGraphState)
    (target : IncidentState)
    (status : WorkflowStatus) :
    Within (WorkerStep p K E R) (terminalNode p actor state target status) := by
  refine Within.bind (Within.handle (workerStep_unitOfWork_unseen hK.transaction (Within.bind
    (workerStep_select _) (fun found => ?_))) (fun _ => within_pure _)) (fun _ => within_pure _)
  split
  · exact within_pure _
  · exact Within.bind (workerStep_transition hK.incident _ _ _) (fun _ => within_pure _)

/-! ### The graph and what is around it -/

omit hR in
theorem within_executeWithPolicy {S : Db → Db → Prop} (node : WorkflowNode) {x : Prog α}
    (hx : Within S x) : Within S (executeWithPolicy node x) := by
  unfold executeWithPolicy
  split
  · exact Within.handle hx (fun _ => Within.handle hx (fun _ => hx))
  · exact hx

/-- **A node other than the execution node** makes the steps of a worker. -/
theorem workerStep_node (hdiagnosis : ∀ diag, R (.diagnosis diag)) (hK : Permits K)
    (services : WorkflowServices) (state : IncidentGraphState)
    (node : WorkflowNode) (hnode : node ≠ .execute)
    (hcooldown : node = .verify → K (.schedule .cooldown))
    (hcollected : node = .collectEvidence → E (.collected p state.incidentId))
    (hdiagnosed : node = .diagnose →
      ∀ actionable, E (.diagnosed p state.incidentId actionable)) :
    Within (WorkerStep p K E R) ((incidentWorkflow p actor services).node node state) := by
  refine within_executeWithPolicy node ?_
  cases node with
  | collectEvidence => exact workerStep_collectEvidenceNode hR hK state (hcollected rfl)
  | diagnose => exact workerStep_diagnoseNode hR hdiagnosis hK state (hdiagnosed rfl)
  | plan => exact workerStep_planNode hR hK state
  | evaluatePolicy => exact workerStep_evaluatePolicyNode hR hK state _
  | waitForApproval =>
      show Within (WorkerStep p K E R) (waitForApprovalNode state)
      unfold waitForApprovalNode
      split
      · exact within_pure _
      · split
        · exact within_pure _
        · exact within_pure _
  | execute => exact absurd rfl hnode
  | verify => exact workerStep_verifyNode hR hK (hcooldown rfl) state _
  | escalate => exact workerStep_terminalNode hK state _ _
  | resolve => exact workerStep_terminalNode hK state _ _

omit hR in
/-- The first part of a run. -/
theorem workerStep_inspectIncident (hK : Permits K) (i : Nat) (expectedVersion : Option Nat)
    (arranged : List Diagnosis → List Diagnosis)
    (hresumed : ∀ diagnosisId evidence, E (.resumed p i diagnosisId evidence)) :
    Within (WorkerStep p K E R) (inspectIncident p actor i expectedVersion arranged) := by
  refine workerStep_unitOfWork hK.transaction
    (Within.bind (workerStep_select _) (fun found => ?_)) ?_
  · cases found with
    | none => exact within_throw _
    | some incident =>
        simp only
        split
        · exact within_pure _
        · split
          · exact within_pure _
          · exact Within.bind (Within.bind (workerStep_select _) (fun _ => Within.bind
              (workerStep_select _) (fun _ => Within.bind (workerStep_select _) (fun _ =>
                Within.bind (workerStep_select _) (fun _ => within_pure _)))))
              (fun _ => within_pure _)
  · intro found e he
    obtain ⟨r, -, rfl⟩ := List.mem_map.mp he
    exact hresumed _ _

omit hR in
theorem workerStep_acquireIncidentLease (hK : K .lease) (i : Nat) (ttl : Int)
    (version : Option Nat) :
    Within (WorkerStep p K E R) (acquireIncidentLease ⟨p, l⟩ i actor ttl version) := by
  refine Within.bind (workerStep_uuid4 _) (fun token => Within.bind (workerStep_select _)
    (fun incident => ?_))
  cases incident with
  | none => exact within_throw _
  | some incident =>
      simp only
      split
      · exact within_throw _
      · refine Within.bind (workerStep_sql ?_) (fun result => ?_)
        · intro s r s' hf
          simp only at hf
          split at hf
          · split at hf
            · simp only [Option.some.injEq, Prod.mk.injEq] at hf
              rw [← hf.2]
              exact .same s
            · split at hf
              all_goals
                simp only [Option.some.injEq, Prod.mk.injEq] at hf
                rw [← hf.2]
                exact .lease s i _ hK
          · simp at hf
        · cases result with
          | some token => exact within_pure _
          | none => exact within_throw _

omit hR in
theorem workerStep_verifyIncidentLease (i token : Nat) (version : Option Nat) :
    Within (WorkerStep p K E R) (verifyIncidentLease ⟨p, l⟩ i token version) := by
  refine Within.bind (workerStep_select _) (fun lease => Within.bind workerStep_datetimeNow
    (fun now => ?_))
  split
  · cases version with
    | none => exact within_pure _
    | some v => exact Within.bind (workerStep_select _) (fun _ => within_pure _)
  · exact within_pure _

omit hR in
theorem workerStep_releaseIncidentLease (hK : K .lease) (i token : Nat) :
    Within (WorkerStep p K E R) (releaseIncidentLease ⟨p, l⟩ i token) := by
  refine workerStep_sql ?_
  intro s r s' hf
  simp only at hf
  split at hf
  · split at hf
    · simp only [Option.some.injEq, Prod.mk.injEq] at hf
      rw [← hf.2]
      exact .lease s i _ hK
    · simp at hf
  · simp only [Option.some.injEq, Prod.mk.injEq] at hf
    rw [← hf.2]
    exact .same s

omit hR in
theorem workerStep_cleanupExpiredLease (hK : K .lease) (i : Nat) :
    Within (WorkerStep p K E R) (cleanupExpiredLease ⟨p, l⟩ i) := by
  refine workerStep_sql ?_
  intro s r s' hf
  simp only at hf
  split at hf
  · split at hf
    · simp only [Option.some.injEq, Prod.mk.injEq] at hf
      rw [← hf.2]
      exact .lease s i _ hK
    · cases hf
  · simp only [Option.some.injEq, Prod.mk.injEq] at hf
    rw [← hf.2]
    exact .same s

end Steps

end SelfHealing
