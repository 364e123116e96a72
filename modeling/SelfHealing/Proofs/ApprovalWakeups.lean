/-
The wake-up for an approval.

The runner leaves one when the state that the graph hands back says that there is an approval to wait
for.  It is the policy that says so, whenever it requires an approval, and only the wait for the
approval takes it back; but a plan that is approved already does not come to the wait.  It is carried
out and verified, and what the policy has put into the state is still there in the end.

Where the policy requires an approval of an incident that has none, and that is planned or waits
already, the run comes to the wait, the incident is pending by then, and nothing that the runner does
afterwards changes that.
-/
import SelfHealing.Lib.Interference
import SelfHealing.Proofs.StrandedIncidents
import SelfHealing.Proofs.WorkflowRuns

namespace SelfHealing

open Interleaving Interleaving.Prog ReadCommitted

/-! ### Wake-ups for an approval -/

/-- Process `p` adds a wake-up for an approval. -/
def SchedulesApproval (p : Nat) (s s' : Db) : Prop :=
  ∃ l schedule, schedule.waitReason = .awaitingApproval ∧
    s'.scheduleIds = schedule.id :: s.scheduleIds ∧
    s'.schedules schedule.id = (s.schedules schedule.id).write ⟨p, l⟩ (some schedule)

theorem not_schedulesApproval {p : Nat} {s s' : Db} (h : s'.scheduleIds = s.scheduleIds) :
    ¬ SchedulesApproval p s s' := by
  rintro ⟨l, schedule, -, hids, -⟩
  rw [h] at hids
  exact List.cons_ne_self _ _ hids.symm

/-- What a worker may do, but for the wait for an approval. -/
def NoApproval (k : WorkerKind) : Prop := k ≠ .schedule .awaitingApproval

theorem permits_noApproval : Permits NoApproval := by
  refine ⟨?_, ?_, ?_, ?_⟩
  all_goals exact fun h => by cases h

theorem WorkerStep.unscheduled {p q : Nat} {E : Event → Prop} {R : NewRow → Prop} {s s' : Db}
    (h : WorkerStep p NoApproval E R s s') : ¬ SchedulesApproval q s s' := by
  cases h with
  | schedule l row hK =>
      rintro ⟨l', schedule, hreason, hids, hrow⟩
      have hid : row.id = schedule.id := (List.cons_eq_cons.mp hids).1
      have hsame : (s.schedules row.id).write ⟨p, l⟩ (some row) =
          (s.schedules row.id).write ⟨q, l'⟩ (some schedule) := by
        rw [← hid] at hrow
        simpa [Db.setSchedule] using hrow
      have hvalues := congrArg (fun c => c.pending.map Pending.values) hsame
      simp only [Cell.write, Option.map_some, Option.some.injEq, List.cons.injEq] at hvalues
      refine hK ?_
      rw [hvalues.1, hreason]
  | _ => exact not_schedulesApproval rfl

theorem AdapterStep.unscheduled {p q : Nat} {s s' : Db} (h : AdapterStep p s s') :
    ¬ SchedulesApproval q s s' := by
  cases h with
  | outside hkept => exact not_schedulesApproval hkept.scheduleIds
  | observed evs hevs hkept => exact not_schedulesApproval hkept.scheduleIds
  | commit t ht evs hevs => exact not_schedulesApproval rfl
  | rollback t ht => exact not_schedulesApproval rfl

section Unscheduled

variable {α : Type} {p : Nat} {actor : String} {i : Nat}

theorem Within.unscheduled {x : Prog α}
    (hx : Within (WorkerStep p NoApproval (fun _ => True) (fun _ => True)) x) :
    Within (fun s s' => ¬ SchedulesApproval p s s') x :=
  hx.mono (fun _ _ h => h.unscheduled)

theorem unscheduled_executeNode (ad : DockerExecutionAdapter) (state : IncidentGraphState) :
    Within (fun s s' => ¬ SchedulesApproval p s s')
      (executeNode p actor (ad.provider p) state) := by
  have hadapter : ∀ {α : Type} {x : Prog α}, Within (AdapterStep p) x →
      Within (fun s s' => ¬ SchedulesApproval p s s') x :=
        fun h => h.mono (fun _ _ h => h.unscheduled)
  refine Within.bind (Within.unscheduled (workerStep_retrieveIntent permits_noApproval _))
    (fun intent => Within.bind (Within.handle (Within.bind (hadapter (adapterStep_precheck _ _ _))
      (fun _ => within_pure _)) (fun _ => within_pure _)) (fun prechecked => ?_))
  cases prechecked with
  | some reason =>
      exact Within.unscheduled (workerStep_escalatePrecheck permits_noApproval
        (fun _ => trivial) _ _)
  | none =>
      refine Within.bind (Within.unscheduled (workerStep_unitOfWork_unseen
        permits_noApproval.transaction
          (workerStep_advanceIncident permits_noApproval.incident _ _ _)))
        (fun _ => Within.bind (execute_within (fun _ _ h => h.unscheduled)
          (fun _ _ => not_schedulesApproval rfl) _ _) (fun outcome => ?_))
      split
      · exact Within.unscheduled (workerStep_recordSuccess permits_noApproval _ _ _)
      · exact Within.unscheduled
          (workerStep_recordFailure permits_noApproval (fun _ => trivial) _ _)

/-- No node leaves a wake-up for an approval. -/
theorem unscheduled_node (services : WorkflowServices) {ad : DockerExecutionAdapter}
    (hadapter : services.adapter = ad.provider p) (node : WorkflowNode)
    (state : IncidentGraphState) :
    Within (fun s s' => ¬ SchedulesApproval p s s')
      ((incidentWorkflow p actor services).node node state) := by
  by_cases hexecute : node = .execute
  · subst hexecute
    refine within_executeWithPolicy .execute ?_
    show Within _ (executeNode p actor services.adapter state)
    rw [hadapter]
    exact unscheduled_executeNode ad state
  · exact Within.unscheduled (workerStep_node (fun _ _ => trivial)
      (fun _ => trivial) permits_noApproval
      services state node hexecute (fun _ h => by cases h) (fun _ => trivial)
      (fun _ _ => trivial))

end Unscheduled

/-! ### An incident that waits

An assertion of this kind has to last until the run is over, while others write the incident too.
Where it no longer holds is where somebody else has moved the incident.
-/

/-- The incident waits for an approval, and a transaction of process `p` sees it wait. -/
structure Awaits (p i : Nat) (s : Db) : Prop where
  row : ∃ row, s.incident i = some row ∧ row.state = .pendingApproval
  seen : ∃ row, (s.incidents i).visible ⟨p, 0⟩ = some row ∧ row.state = .pendingApproval

/-- What the runner does after the graph: it may write that the incident is to wait, and end its
transactions. -/
inductive Settles (p i : Nat) (s s' : Db) : Prop
  | same (h : s'.incidents i = s.incidents i)
  | pending (row : Incident) (hrow : row.state = .pendingApproval)
      (h : s'.incidents i = (s.incidents i).write ⟨p, 0⟩ (some row))
  | commit (h : s'.incidents i = (s.incidents i).commit ⟨p, 0⟩)
  | rollback (h : s'.incidents i = (s.incidents i).rollback ⟨p, 0⟩)

section Awaits

variable {α : Type} {p i : Nat} {actor : String} {s s' : Db}

theorem Awaits.same (h : Awaits p i s) (hrow : s'.incidents i = s.incidents i) : Awaits p i s' := by
  refine ⟨?_, ?_⟩
  · unfold Db.incident
    rw [hrow]
    exact h.row
  · rw [hrow]
    exact h.seen

/-- What is seen to wait is committed as such. -/
theorem awaits_of_commit (hrow : s'.incidents i = (s.incidents i).commit ⟨p, 0⟩)
    (hseen : ∃ row, (s.incidents i).visible ⟨p, 0⟩ = some row ∧ row.state = .pendingApproval) :
    Awaits p i s' := by
  have hcommitted : s'.incident i = (s.incidents i).visible ⟨p, 0⟩ := by
    unfold Db.incident
    rw [hrow, Cell.committed_commit]
  refine ⟨?_, ?_⟩
  · rw [hcommitted]
    exact hseen
  · rcases Cell.commit_eq_or_free (t := ⟨p, 0⟩) (c := s.incidents i) with heq | hfree
    · rw [hrow, heq]
      exact hseen
    · rw [← hrow] at hfree
      rw [Cell.visible_eq_committed (Cell.own_of_free hfree)]
      show ∃ row, s'.incident i = some row ∧ _
      rw [hcommitted]
      exact hseen

/-- **An incident that waits goes on waiting.** -/
theorem Settles.awaits (h : Settles p i s s') (hs : Awaits p i s) : Awaits p i s' := by
  cases h with
  | same hrow => exact hs.same hrow
  | pending row hstate hrow =>
      refine ⟨?_, row, ?_, hstate⟩
      · unfold Db.incident
        rw [hrow]
        exact hs.row
      · rw [hrow, Cell.visible_write]
  | commit hrow => exact awaits_of_commit hrow hs.seen
  | rollback hrow =>
      have hcommitted : s'.incident i = s.incident i := by
        unfold Db.incident
        rw [hrow, Cell.committed_rollback]
      refine ⟨by rw [hcommitted]; exact hs.row, ?_⟩
      rcases Cell.rollback_eq_or_free (t := ⟨p, 0⟩) (c := s.incidents i) with heq | hfree
      · rw [hrow, heq]
        exact hs.seen
      · rw [← hrow] at hfree
        rw [Cell.visible_eq_committed (Cell.own_of_free hfree)]
        show ∃ row, s'.incident i = some row ∧ _
        rw [hcommitted]
        exact hs.row

theorem settles_unitOfWork {body : Prog α} (hbody : Within (Settles p i) body) :
    Within (Settles p i) (unitOfWork ⟨p, 0⟩ actor body) :=
  unitOfWork_within (fun _ => .same rfl) (fun _ => .same rfl) (fun _ => .rollback rfl)
    (fun _ _ => .commit rfl) hbody

theorem settles_updateIncident {set : Int → Incident → Option Incident}
    (hset : ∀ now row updated, set now row = some updated → updated.state = .pendingApproval) :
    Within (Settles p i) (updateIncident ⟨p, 0⟩ i set) := by
  refine sql_within (fun _ => .same rfl) ?_
  intro s r s' hf
  simp only at hf
  split at hf
  · rename_i row hrow
    obtain ⟨old, -, hupdated⟩ := Option.bind_eq_some_iff.mp hrow
    split at hf
    · simp only [Option.some.injEq, Prod.mk.injEq] at hf
      refine .pending row (hset _ _ _ hupdated) ?_
      rw [← hf.2]
      simp [Db.setIncident]
    · simp at hf
  · simp only [Option.some.injEq, Prod.mk.injEq] at hf
    rw [← hf.2]
    exact .same rfl

theorem settles_advanceIncident (states : List IncidentState) :
    Within (Settles p i) (advanceIncident actor ⟨p, 0⟩ i states .pendingApproval) := by
  have hread : ∀ {β : Type} (f : Db → β), Within (Settles p i) (select f) :=
    fun f => select_within (fun _ => .same rfl) f
  refine Within.bind (hread _) (fun found => ?_)
  cases found with
  | none => exact within_pure _
  | some inc =>
      by_cases hin : inc.state ∈ states
      swap
      · simp only [if_neg hin]
        exact within_pure _
      simp only [if_pos hin]
      refine Within.bind (Within.bind (hread _) (fun found => ?_)) (fun _ => within_pure _)
      cases found with
      | none => exact within_throw _
      | some incident =>
          refine Within.bind ⟨trivial⟩ (fun _ => Within.bind (settles_updateIncident ?_)
            (fun result => ?_))
          · intro now row updated hset
            split at hset
            · simp only [Option.some.injEq] at hset
              rw [← hset]
              rfl
            · simp at hset
          · cases result with
            | none => exact within_throw _
            | some updated => exact within_pure _

/-- What a worker does in a transaction that is about no incident. -/
theorem settles_of_worker {K : WorkerKind → Prop} {E : Event → Prop} {R : NewRow → Prop}
    {body : Prog α} (hK : ¬ K .incident) (hT : ¬ K .transaction)
    (hbody : Within (WorkerStep p K E R) body) : Within (Settles p i) body :=
  hbody.mono (fun _ _ h => .same (congrFun (h.row hK hT) i))

theorem settles_pauseForApproval (state : IncidentGraphState) :
    Within (Settles p i) (pauseForApproval p actor i state) := by
  have hschedule : ∀ schedule : WorkflowSchedule, Within (WorkerStep p
      (fun k => k = .schedule schedule.waitReason) (fun _ => False) (fun _ => False)) (do
        insertSchedule ⟨p, 0⟩ schedule
        pure schedule) :=
    fun schedule => Within.bind (workerStep_insertSchedule _ rfl) (fun _ => within_pure _)
  refine Within.bind (settles_unitOfWork (settles_advanceIncident _)) (fun inc => Within.bind
    (Within.bind (datetimeNow_within (fun _ => .same rfl)) (fun now => settles_unitOfWork ?_))
      (fun _ => within_pure _))
  refine Within.bind ?_ (fun id => settles_of_worker (by simp) (by simp) (hschedule _))
  have hdrawn : Within (WorkerStep p (fun _ => False) (fun _ => False) (fun _ => False))
      (uuid4 p) := workerStep_uuid4 _
  exact settles_of_worker id id hdrawn

theorem settles_release (token : Nat) : Within (Settles p i) (do
    observe [.left p i]
    tryCatch (unitOfWork ⟨p, 0⟩ actor (releaseIncidentLease ⟨p, 0⟩ i token)) (fun _ => pure ()) :
      Prog Unit) := by
  have hobserved : Within (WorkerStep p (fun _ => False) (fun _ => True) (fun _ => False))
      (observe [.left p i]) := workerStep_observe (fun _ _ => trivial)
  have hreleased : Within (WorkerStep p (fun k => k = .lease) (fun _ => False) (fun _ => False))
      (releaseIncidentLease ⟨p, 0⟩ i token) :=
    workerStep_releaseIncidentLease (K := fun k => k = .lease) rfl _ _
  exact Within.bind (settles_of_worker id id hobserved) (fun _ => Within.handle
    (settles_unitOfWork (settles_of_worker (by simp) (by simp) hreleased)) (fun _ => within_pure _))

end Awaits

/-! ### The policy requires an approval

What the policy has read need not be so any more when it writes.  The write names the version that
was read and is undone if there is another one by then; so where it has succeeded the incident was
what the decision was made for, and it waits from then on until somebody moves it.
-/

/-- Process `p` stores that an approval is required of incident `i`. -/
def RequiresApproval (p i : Nat) (s s' : Db) : Prop :=
  ∃ l decision, decision.incidentId = i ∧ decision.decision = .requireApproval ∧
    s' = s.add ⟨p, l⟩ (.decision decision)

/-- Process `p` sees the incident planned, or waiting already. -/
def SeesOpen (p i : Nat) (s : Db) : Prop :=
  ∃ row, (s.incidents i).visible ⟨p, 0⟩ = some row ∧
    (row.state = .planned ∨ row.state = .pendingApproval)

section Policy

variable {p planId id : Nat} {actor : String} {state : IncidentGraphState} {ctx : EvaluationContext}
  {decision : PolicyEvaluationDecision} {inc : Option Incident} {stored : List (Db × Db)}

/-- What the policy does in its transaction when it requires an approval: it stores that, looks at
the incident, and has it wait. -/
structure Asks (p : Nat) (actor : String) (state : IncidentGraphState)
    (stored before : List (Db × Db))
    (added read ended : Db) (row : PolicyDecision) (asking : List (Db × Db)) : Prop where
  steps : stored = before ++ (added, added.add ⟨p, 0⟩ (.decision row)) :: (read, read) :: asking ++
    [(ended, (ended.commit ⟨p, 0⟩).record [])]
  incident : row.incidentId = state.incidentId
  decision : row.decision = .requireApproval
  asks : ∃ inc, (awaitApproval actor state ⟨p, 0⟩
    ((read.incidents state.incidentId).visible ⟨p, 0⟩)).Took asking (.ok inc)

theorem Asks.requires {before asking : List (Db × Db)} {added read ended : Db}
    {row : PolicyDecision}
    (h : Asks p actor state stored before added read ended row asking) :
    (added, added.add ⟨p, 0⟩ (.decision row)) ∈ stored ∧
      RequiresApproval p state.incidentId added (added.add ⟨p, 0⟩ (.decision row)) := by
  refine ⟨?_, 0, row, h.incident, h.decision, rfl⟩
  rw [h.steps]
  simp

theorem took_applyDecision_requires
    (h : (applyDecision p actor state planId ctx decision).Took stored (.ok (id, inc)))
    (hrequire : decision.decision = .requireApproval) :
    ∃ before added read ended row asking,
      Asks p actor state stored before added read ended row asking := by
  rcases took_unitOfWork_block h with ⟨-, e, hbad⟩ | hblock
  · simp at hbad
  cases hblock with
  | committed _ begun ended l hbody =>
      obtain ⟨decisionId, l₁, l₂, rfl, hrecord, hrest⟩ := took_bind_ok hbody
      obtain ⟨found, l₃, l₄, rfl, hread, hasked⟩ := took_bind_ok hrest
      obtain ⟨read, rfl, rfl⟩ := took_select_ok hread
      rw [hrequire] at hasked
      obtain ⟨moved, asking, l₅, rfl, hasks, hpure⟩ := took_bind_ok hasked
      obtain ⟨rfl, -⟩ := took_pure.mp hpure
      obtain ⟨drawn, l₆, l₇, rfl, -, hinsert⟩ := took_bind_ok hrecord
      obtain ⟨u, l₈, l₉, rfl, hadd, hdone⟩ := took_bind_ok hinsert
      obtain ⟨rfl, -⟩ := took_pure.mp hdone
      obtain ⟨added, s', rfl, ⟨hbad, -⟩ | hf⟩ := took_sql hadd
      · simp at hbad
      simp only [Option.some.injEq, Prod.mk.injEq] at hf
      obtain ⟨-, rfl⟩ := hf
      let row : PolicyDecision :=
        { id := drawn, incidentId := state.incidentId, planId := planId,
          planVersion := ctx.planVersion, decision := decision.decision,
          reasonCodes := decision.reasonCodes }
      refine ⟨(begun, begun.started ⟨p, 0⟩) :: l₆, added, read, ended, row, asking, ?_,
        rfl, hrequire, moved, hasks⟩
      simp [row]

/-- A planned incident is moved, and the move is the last that is written. -/
theorem took_awaitApproval {found : Incident} {moved : Option Incident} {asking : List (Db × Db)}
    (hplanned : found.state = .planned)
    (h : (awaitApproval actor state ⟨p, 0⟩ (some found)).Took asking (.ok moved)) :
    ∃ before u updated, asking = before ++ [(u, u.setIncident state.incidentId
      ((u.incidents state.incidentId).write ⟨p, 0⟩ (some updated)))] ∧
      updated.state = .pendingApproval := by
  have hmoving : ∀ {version : Nat} {l : List (Db × Db)}, (do
        let inc ← transition ⟨p, 0⟩ actor state.incidentId version .pendingApproval
        pure (some inc) : Prog (Option Incident)).Took l (.ok moved) →
      ∃ before u updated, l = before ++ [(u, u.setIncident state.incidentId
        ((u.incidents state.incidentId).write ⟨p, 0⟩ (some updated)))] ∧
        updated.state = .pendingApproval := by
    intro version l hl
    obtain ⟨updated, l₁, l₂, rfl, hmove, hpure⟩ := took_bind_ok hl
    obtain ⟨rfl, -⟩ := took_pure.mp hpure
    obtain ⟨before, u, rfl, hstate⟩ := took_transition (by decide) hmove
    exact ⟨before, u, updated, by simp, hstate⟩
  unfold awaitApproval at h
  rw [Option.filter_some, if_pos (by simp [hplanned])] at h
  simp only at h
  split at h
  · obtain ⟨required, l₁, l₂, rfl, hpure, hrest⟩ := took_bind_ok h
    obtain ⟨rfl, -⟩ := took_pure.mp hpure
    exact hmoving hrest
  · obtain ⟨required, l₁, l₂, rfl, -, hrest⟩ := took_bind_ok h
    obtain ⟨before, u, updated, rfl, hstate⟩ := hmoving hrest
    exact ⟨l₁ ++ before, u, updated, by simp, hstate⟩

/-- **A planned incident is pending when the policy has required an approval**, and one that waits
goes on waiting, if nobody else touches it. -/
theorem Asks.awaits {before asking : List (Db × Db)} {added read ended : Db} {row : PolicyDecision}
    {first last : Db} (h : Asks p actor state stored before added read ended row asking)
    (hothers : Between (SameRow state.incidentId) first stored last)
    (hopen : SeesOpen p state.incidentId added) : Awaits p state.incidentId last := by
  have hrefl : ∀ s : Db, SameRow state.incidentId s s := fun _ => rfl
  rw [h.steps] at hothers
  have hcut : before ++ (added, added.add ⟨p, 0⟩ (.decision row)) :: (read, read) :: asking ++
        [(ended, (ended.commit ⟨p, 0⟩).record [])] =
      before ++ ((added, added.add ⟨p, 0⟩ (.decision row)) :: (read, read) :: (asking ++
        [(ended, (ended.commit ⟨p, 0⟩).record [])])) := by simp
  rw [hcut] at hothers
  obtain ⟨mid, -, hrest⟩ := hothers.split hrefl
  obtain ⟨-, hread, hasking⟩ := hrest
  have hsame : read.incidents state.incidentId = added.incidents state.incidentId := hread
  obtain ⟨inc, hvisible, hstate⟩ := hopen
  obtain ⟨moved, hasks⟩ := h.asks
  rw [hsame, hvisible] at hasks
  rcases hstate with hplanned | hpending
  · obtain ⟨pre, u, updated, rfl, hupdated⟩ := took_awaitApproval hplanned hasks
    have hwritten : pre ++ [(u, u.setIncident state.incidentId
          ((u.incidents state.incidentId).write ⟨p, 0⟩ (some updated)))] ++
            [(ended, (ended.commit ⟨p, 0⟩).record [])] =
        pre ++ (u, u.setIncident state.incidentId
          ((u.incidents state.incidentId).write ⟨p, 0⟩ (some updated))) :: [] ++
            [(ended, (ended.commit ⟨p, 0⟩).record [])] := by simp
    rw [hwritten] at hasking
    obtain ⟨hcommitted, hfree⟩ := written_committed hasking (by simp)
    refine ⟨⟨updated, hcommitted, hupdated⟩, updated, ?_, hupdated⟩
    rw [Cell.visible_eq_committed (Cell.own_of_free hfree)]
    exact hcommitted
  · -- nothing is written
    unfold awaitApproval at hasks
    rw [Option.filter_some, if_neg (by simp [hpending])] at hasks
    obtain ⟨rfl, -⟩ := took_pure.mp hasks
    obtain ⟨hended, hlast⟩ := hasking
    have hrow : ended.incidents state.incidentId = added.incidents state.incidentId := by
      rw [hended, hsame]
    refine Awaits.same (awaits_of_commit (s := ended) rfl ?_) hlast
    rw [hrow]
    exact ⟨inc, hvisible, hpending⟩

end Policy

/-! ### Where the graph stops to wait -/

/-- A deferral is no wait for an approval. -/
theorem evaluatePolicy_defer {ctx : EvaluationContext} {rules : PolicyRuleSet}
    (hdefer : (evaluatePolicy ctx rules).decision = .defer) :
    (evaluatePolicy ctx rules).waitReason.getD .cooldown ≠ .awaitingApproval := by
  show (policyOutcome ctx rules).2.2.getD .cooldown ≠ .awaitingApproval
  have houtcome : (policyOutcome ctx rules).1 = .defer := hdefer
  unfold policyOutcome at houtcome ⊢
  simp only at houtcome ⊢
  split at houtcome
  · cases houtcome
  · rename_i hdeny
    rw [if_neg hdeny]
    split at houtcome
    · rename_i hcooldown
      rw [if_pos hcooldown]
      exact WaitReason.noConfusion
    · rename_i hcooldown
      rw [if_neg hcooldown]
      split at houtcome
      · rename_i hlock
        rw [if_pos hlock]
        exact WaitReason.noConfusion
      · split at houtcome
        · cases houtcome
        · cases houtcome

section Graph

variable {p : Nat} {actor : String} {rules : PolicyRuleSet} {adapter : ProviderAdapter}
  {s₀ s s' final : IncidentGraphState} {node : WorkflowNode} {steps : List (Db × Db)}
  {visits : List (Visit Db WorkflowNode IncidentGraphState)}

/-- What the nodes are given, with the engine that they use. -/
def ruledServices (rules : PolicyRuleSet) (adapter : ProviderAdapter) : WorkflowServices where
  evaluate := fun ctx => pure (evaluatePolicy ctx rules)
  adapter := adapter

/-- No plan that is approved has required an approval. -/
def AsksUnapproved (s₀ : IncidentGraphState) (node : WorkflowNode) (result : IncidentGraphState) :
    Prop :=
  node = .evaluatePolicy → result.policyDecision = some .requireApproval → s₀.isApproved ≠ some true

/-- Only the policy and the wait hand on that there is an approval to wait for. -/
theorem took_node_awaiting
    (h : ((incidentWorkflow p actor (ruledServices rules adapter)).node node s).Took steps (.ok s'))
    (happroved : s.isApproved = s₀.isApproved) (hasks : AsksUnapproved s₀ node s')
    (hgiven : s.waitReason = some .awaitingApproval → node = .waitForApproval)
    (hwait : s'.waitReason = some .awaitingApproval) :
    (node = .evaluatePolicy ∧ node.next s' = some .waitForApproval) ∨
      (node = .waitForApproval ∧ node.next s' = none) := by
  -- of the other nodes the state is the one that was given, or that of a cooldown
  have hother : Carries s s' → node = .waitForApproval := by
    intro hcarries
    rcases hcarries.waitReason with hsame | hcooldown
    · rw [hwait] at hsame
      exact hgiven hsame.symm
    · rw [hwait] at hcooldown
      cases hcooldown
  by_cases hpolicy : node = .evaluatePolicy
  · subst hpolicy
    obtain ⟨planId, ctx, decision, id, inc, looked, stored, -, rfl, hdecides⟩ :=
      took_evaluatePolicyNode_parts h
    have hdecision : decision = evaluatePolicy ctx rules := (Except.ok.inj hdecides.decides).symm
    refine Or.inl ⟨rfl, ?_⟩
    cases hd : decision.decision with
    | allow => simp [IncidentGraphState.decided, hd] at hwait
    | deny => simp [IncidentGraphState.decided, hd] at hwait
    | defer =>
        subst hdecision
        simp only [IncidentGraphState.decided, hd, Option.some.injEq] at hwait
        exact absurd hwait (evaluatePolicy_defer hd)
    | requireApproval =>
        have hunapproved : s.isApproved ≠ some true := by
          rw [happroved]
          exact hasks rfl (by simp [IncidentGraphState.decided, hd])
        simp [WorkflowNode.next, IncidentGraphState.decided, hd, hunapproved]
  · by_cases hpause : node = .waitForApproval
    · subst hpause
      exact Or.inr ⟨rfl, by simp [WorkflowNode.next, hwait]⟩
    · by_cases hdiagnose : node = .diagnose
      · subst hdiagnose
        have hcarries := ((returns_executeWithPolicy .diagnose returns_diagnoseNode).took h).1
        exact absurd (hother hcarries) hpause
      · have hforwards := (returns_node _ node hdiagnose hpolicy hpause).took h
        exact absurd (hother hforwards.toCarries) hpause

/-- A node that is handed a wait for an approval is the wait itself. -/
theorem comes_awaiting
    (h : (incidentWorkflow p actor (ruledServices rules adapter)).Comes .collectEvidence s₀ visits
      node s)
    (hfirst : s₀.waitReason = none) (hasks : ∀ v ∈ visits, AsksUnapproved s₀ v.node v.result)
    (hwait : s.waitReason = some .awaitingApproval) : node = .waitForApproval := by
  induction h with
  | start =>
      rw [hfirst] at hwait
      cases hwait
  | visit hcomes ht hnext ih =>
      have hearlier := ih (fun v hv => hasks v (List.mem_append_left _ hv))
      have hlast := hasks _ (List.mem_append_right _ (List.mem_singleton_self _))
      rcases took_node_awaiting ht (comes_keeps hcomes).2 hlast hearlier hwait with
        ⟨-, hpaused⟩ | ⟨-, hended⟩
      · exact (Option.some.inj (hpaused.symm.trans hnext)).symm
      · cases hended.symm.trans hnext

/-- A node that has required an approval has stored that. -/
theorem asksUnapproved_of_took
    (h : ((incidentWorkflow p actor (ruledServices rules adapter)).node node s).Took steps (.ok s'))
    (hincident : s.incidentId = s₀.incidentId)
    (hasks : ∀ q ∈ steps, RequiresApproval p s₀.incidentId q.1 q.2 → s₀.isApproved ≠ some true) :
    AsksUnapproved s₀ node s' := by
  rintro rfl hrequire
  obtain ⟨planId, ctx, decision, id, inc, looked, stored, rfl, rfl, hdecides⟩ :=
    took_evaluatePolicyNode_parts h
  have hdecision : decision.decision = .requireApproval := by
    cases hd : decision.decision with
    | requireApproval => rfl
    | allow | deny | defer => simp [IncidentGraphState.decided, hd] at hrequire
  obtain ⟨before, added, read, ended, row, asking, hsteps⟩ :=
    took_applyDecision_requires hdecides.stores hdecision
  obtain ⟨hmem, hstored⟩ := hsteps.requires
  rw [hincident] at hstored
  exact hasks _ (List.mem_append_right _ hmem) hstored

/-- **A graph that stops to wait for an approval stops at the wait**, to which it came from the
policy, which has required one. -/
theorem took_invoke_awaiting {limit : Nat} {exhausted : Err}
    (h : ((incidentWorkflow p actor (ruledServices rules adapter)).invoke exhausted limit
      .collectEvidence s₀).Took steps (.ok final))
    (hfirst : s₀.waitReason = none)
    (hasks : ∀ q ∈ steps, RequiresApproval p s₀.incidentId q.1 q.2 → s₀.isApproved ≠ some true)
    (hwait : final.waitReason = some .awaitingApproval) :
    ∃ s planId ctx decision id inc earlier stored, steps = earlier ++ stored ∧
      s.incidentId = s₀.incidentId ∧ decision.decision = .requireApproval ∧
      (applyDecision p actor s planId ctx decision).Took stored (.ok (id, inc)) := by
  obtain ⟨visits, node, s, l, hcomes, rfl, hlast, hended⟩ := StateGraph.took_invoke h
  have hvisits : ∀ v ∈ visits, AsksUnapproved s₀ v.node v.result := by
    intro v hv
    obtain ⟨⟨earlier, hcome⟩, htook⟩ := hcomes.mem hv
    refine asksUnapproved_of_took htook (comes_keeps hcome).1 (fun q hq => hasks q ?_)
    exact List.mem_append_left _ (List.mem_flatMap.mpr ⟨v, hv, hq⟩)
  have hend : AsksUnapproved s₀ node final :=
    asksUnapproved_of_took hlast (comes_keeps hcomes).1
      (fun q hq => hasks q (List.mem_append_right _ hq))
  rcases took_node_awaiting hlast (comes_keeps hcomes).2 hend (comes_awaiting hcomes hfirst hvisits)
    hwait with ⟨-, hpaused⟩ | ⟨hnode, -⟩
  · cases hpaused.symm.trans hended
  subst hnode
  obtain ⟨rfl, -⟩ := took_waitForApprovalNode hlast
  cases hcomes with
  | @visit before _ _ given result l hcome ht hnext =>
      have hnode := next_eq_wait hnext
      subst hnode
      obtain ⟨planId, ctx, decision, id, inc, looked, stored, rfl, rfl, hdecides⟩ :=
        took_evaluatePolicyNode_parts ht
      have hrequire := next_policy_wait hnext
      have hdecision : decision.decision = .requireApproval := by
        cases hd : decision.decision with
        | requireApproval => rfl
        | allow | deny | defer => simp [IncidentGraphState.decided, hd] at hrequire
      refine ⟨given, planId, ctx, decision, id, inc, before.flatMap Visit.steps ++ looked,
        stored, ?_,
        (comes_keeps hcome).1, hdecision, hdecides.stores⟩
      simp

end Graph

/-! ### The run around the graph -/

section Run

variable {p i token : Nat} {actor : String} {services : WorkflowServices}
    {ad : DockerExecutionAdapter}
  {r : Reconstruction} {metadata : ResumeMetadata} {expectedVersion : Option Nat}
  {arranged : List Diagnosis → List Diagnosis}
  {steps : List (Db × Db)} {q : Db × Db}

/-- A wake-up for an approval is left after the graph, if it has stopped to wait for one. -/
theorem began_runGraph (hadapter : services.adapter = ad.provider p)
    (h : (runGraph p actor i services r metadata token).Began steps) (hq : q ∈ steps)
    (hwakeup : SchedulesApproval p q.1 q.2) :
    ∃ before saved graph final paused, steps = before ++ graph ++ paused ∧
      ((incidentWorkflow p actor services).invoke graphRecursionError recursionLimit
        .collectEvidence
        (r.initialState saved metadata)).Took graph (.ok final) ∧
      final.waitReason = some .awaitingApproval ∧
      (pauseForApproval p actor i final).Began paused := by
  have hnot : ¬ ¬ SchedulesApproval p q.1 q.2 := not_not.mpr hwakeup
  have hverify : Within (fun s s' => ¬ SchedulesApproval p s s') (unitOfWork ⟨p, 0⟩ actor
      (verifyIncidentLease ⟨p, 0⟩ i token (some r.incident.version))) :=
    Within.unscheduled (workerStep_unitOfWork_unseen permits_noApproval.transaction
      (workerStep_verifyIncidentLease _ _ _))
  obtain ⟨held, l₁, l₂, rfl, -, h₁, hq₁⟩ := h.past hverify hq hnot
  by_cases hlost : (!held) = true
  · rw [if_pos hlost] at h₁
    have hnil := began_throw (W := World) h₁
    rw [hnil] at hq₁
    simp at hq₁
  rw [if_neg hlost] at h₁
  have hsaved : Within (fun s s' => ¬ SchedulesApproval p s s')
      (Interleaving.Prog.stmt fun w db => some (.ok w.checkpoint, db) :
        Prog (Option IncidentGraphState)) :=
    Within.unscheduled (workerStep_asked (fun w => .ok w.checkpoint))
  obtain ⟨saved, l₃, l₄, rfl, -, h₂, hq₂⟩ := h₁.past hsaved hq₁ hnot
  obtain ⟨final, graph, paused, rfl, hgraph, h₃, hq₃⟩ :=
    h₂.past (StateGraph.within_invoke (unscheduled_node services hadapter) _ _ _) hq₂ hnot
  by_cases hwait : final.waitReason = some .awaitingApproval
  · rw [if_pos hwait] at h₃
    exact ⟨l₁ ++ l₃, saved, graph, final, paused, by simp, hgraph, hwait, h₃⟩
  · rw [if_neg hwait] at h₃
    rw [began_pure h₃] at hq₃
    simp at hq₃

/-- It is left by the body that is run under the lease. -/
theorem began_holding {α : Type} {body : Nat → Prog α}
    (h : (holding p actor i expectedVersion body).Began steps) (hq : q ∈ steps)
    (hwakeup : SchedulesApproval p q.1 q.2) :
    ∃ token before l after, steps = before ++ l ++ after ∧ (body token).Began l ∧ q ∈ l ∧
      ∀ q' ∈ after, Settles p i q'.1 q'.2 := by
  have hnot : ¬ ¬ SchedulesApproval p q.1 q.2 := not_not.mpr hwakeup
  have hacquire : Within (fun s s' => ¬ SchedulesApproval p s s') (unitOfWork ⟨p, 0⟩ actor
      (acquireIncidentLease ⟨p, 0⟩ i actor 30 expectedVersion)
      (fun _ => [.entered p i actor])) :=
    Within.unscheduled (workerStep_unitOfWork permits_noApproval.transaction
      (workerStep_acquireIncidentLease permits_noApproval.lease _ _ _) (fun _ _ _ => trivial))
  obtain ⟨token, before, rest, rfl, -, hrest, hq'⟩ := h.past hacquire hq hnot
  have hrelease : Within (fun s s' => Settles p i s s' ∧ ¬ SchedulesApproval p s s') (do
      observe [.left p i]
      tryCatch (unitOfWork ⟨p, 0⟩ actor (releaseIncidentLease ⟨p, 0⟩ i token))
        (fun _ => pure ()) : Prog Unit) := by
    refine (settles_release token).and (Within.unscheduled ?_)
    exact Within.bind (workerStep_observe (fun _ _ => trivial)) (fun _ => Within.handle
      (workerStep_unitOfWork_unseen permits_noApproval.transaction
        (workerStep_releaseIncidentLease permits_noApproval.lease _ _)) (fun _ => within_pure _))
  obtain ⟨l, after, rfl, hbody, hafter⟩ := hrest.finally
    (fun e => hrelease.bind (fun _ => within_throw e))
      (fun a => hrelease.bind (fun _ => within_pure a))
  refine ⟨token, before, l, after, by simp, hbody, ?_, fun q' h' => (hafter q' h').1⟩
  rcases List.mem_append.mp hq' with hl | hl
  · exact hl
  · exact absurd hwakeup (hafter q hl).2

/-- A run that leaves a wake-up for an approval, by its parts. -/
theorem began_runIncident (hadapter : services.adapter = ad.provider p)
    (h : (runIncident p actor i services expectedVersion metadata arranged).Began steps)
    (hq : q ∈ steps)
    (hwakeup : SchedulesApproval p q.1 q.2) :
    ∃ looked r before saved graph final paused after,
      steps = looked ++ (before ++ graph ++ paused ++ after) ∧
      (inspectIncident p actor i expectedVersion arranged).Took looked (.ok (some r)) ∧
      ((incidentWorkflow p actor services).invoke graphRecursionError recursionLimit
        .collectEvidence
        (r.initialState saved metadata)).Took graph (.ok final) ∧
      final.waitReason = some .awaitingApproval ∧
      (pauseForApproval p actor i final).Began paused ∧
      ∀ q' ∈ after, Settles p i q'.1 q'.2 := by
  have hinspect : Within (fun s s' => ¬ SchedulesApproval p s s')
      (inspectIncident p actor i expectedVersion arranged) :=
    Within.unscheduled (workerStep_inspectIncident permits_noApproval _ _ _ (fun _ _ => trivial))
  obtain ⟨found, looked, rest, rfl, hlooked, hrest, hq'⟩ :=
    h.past hinspect hq (not_not.mpr hwakeup)
  cases found with
  | none =>
      rw [began_pure hrest] at hq'
      simp at hq'
  | some r =>
      have hholding : (holding p actor i (some r.incident.version)
          (runGraph p actor i services r metadata)).Began rest := by
        rcases began_bind hrest with hrest | ⟨a, l, l', rfl, ht, hpure⟩
        · exact hrest
        · rw [began_pure hpure, List.append_nil]
          exact ht.began
      obtain ⟨token, b₁, l, after, rfl, hbody, hl, hafter⟩ := began_holding hholding hq' hwakeup
      obtain ⟨b₂, saved, graph, final, paused, rfl, hgraph, hwait, hpaused⟩ :=
        began_runGraph hadapter hbody hl hwakeup
      exact ⟨looked, r, b₁ ++ b₂, saved, graph, final, paused, after, by simp, hlooked,
        hgraph, hwait,
        hpaused, hafter⟩

end Run

/-- **Wake-ups for an approval, and the incident that waits.**  Take any run, in which the others leave
the row of the incident alone.  Whenever the policy requires an approval in it, let the incident have
had none when the run began, and let it be planned or waiting.  If the run leaves a wake-up for an
approval, the incident waits for one, from then on and when the run has ended. -/
theorem approval_wakeup_awaits (p i : Nat) (actor : String) (rules : PolicyRuleSet)
    (ad : DockerExecutionAdapter) (expectedVersion : Option Nat) (metadata : ResumeMetadata)
    (arranged : List Diagnosis → List Diagnosis) (steps : List (Db × Db)) (first last : Db)
    (hbegan : (runIncident p actor i (ruledServices rules (ad.provider p)) expectedVersion metadata
      arranged).Began steps)
    (hothers : Between (SameRow i) first steps last)
    (hasks : ∀ looked r later, steps = looked ++ later →
      (inspectIncident p actor i expectedVersion arranged).Took looked (.ok (some r)) →
      ∀ q ∈ later, RequiresApproval p i q.1 q.2 → r.isApproved = false ∧ SeesOpen p i q.1)
    (hwakeup : ∃ q ∈ steps, SchedulesApproval p q.1 q.2) :
    ∃ row, last.incident i = some row ∧ row.state = .pendingApproval := by
  have hrefl : ∀ s : Db, SameRow i s s := fun _ => rfl
  obtain ⟨q, hq, hschedules⟩ := hwakeup
  obtain ⟨looked, r, before, saved, graph, final, paused, after, rfl, hlooked, hgraph,
    hwait, hpaused,
    hafter⟩ := began_runIncident rfl hbegan hq hschedules
  have hi : r.incidentId = i := returns_inspectIncident.took hlooked r rfl
  obtain ⟨hincident, happroved, hnone⟩ := initialState_begins r saved metadata
  have hasks' := hasks looked r _ rfl hlooked
  obtain ⟨s, planId, ctx, decision, id, inc, earlier, stored, rfl, hs, hrequire, hstores⟩ :=
    took_invoke_awaiting hgraph hnone (by
      intro q' hq' hrequires
      rw [hincident, hi] at hrequires
      rw [happroved, (hasks' q' (by simp [hq']) hrequires).1]
      simp) hwait
  have hsi : s.incidentId = i := by rw [hs, hincident, hi]
  obtain ⟨b, added, read, ended, row, asking, hasked⟩ :=
    took_applyDecision_requires hstores hrequire
  -- from the policy on the incident waits
  have hcut : looked ++ (before ++ (earlier ++ stored) ++ paused ++ after) =
      (looked ++ before ++ earlier) ++ (stored ++ (paused ++ after)) := by simp
  rw [hcut] at hothers
  obtain ⟨mid, -, hrest⟩ := hothers.split hrefl
  obtain ⟨mid', hstored, hrest⟩ := hrest.split hrefl
  have hopen : SeesOpen p i added := by
    obtain ⟨hmem, hstep⟩ := hasked.requires
    rw [hsi] at hstep
    have hgraph' : (added, added.add ⟨p, 0⟩ (.decision row)) ∈
        before ++ (earlier ++ stored) ++ paused ++ after := by simp [hmem]
    exact (hasks' _ hgraph' hstep).2
  have hawaits : Awaits p i mid' := by
    rw [← hsi] at hstored hopen ⊢
    exact hasked.awaits hstored hopen
  refine Awaits.row (p := p) (hrest.keeps (P := Awaits p i)
    (fun _ _ hsame h => h.same hsame) ?_ hawaits)
  intro q' hq' h
  rcases List.mem_append.mp hq' with hq' | hq'
  · exact ((settles_pauseForApproval final).began hpaused q' hq').awaits h
  · exact (hafter q' hq').awaits h

/-! ### Two runs -/

/-- A run of the worker with the default rules, for incident 1. -/
def approvalRun : Prog (Option IncidentGraphState) :=
  runIncident 0 "worker:a" 1 (ruledServices {} (DockerExecutionAdapter.provider 0 ⟨0, "worker:a"⟩))
    none {}

/-- The incident of the demo, diagnosed and planned, and nobody has approved the plan. -/
def unapprovedDemo : Db :=
  { approvedDemo with
    nextId := 10
    incidents := Function.update (fun _ => Cell.empty) 1
      (Cell.ofRow { approvedIncident with state := .planned })
    diagnoses := [⟨9, 1, "CONTAINER_STOPPED", 95 / 100, none⟩]
    approvals := [] }

/-- The wake-up for the approval of its plan. -/
def approvalWakeup : WorkflowSchedule where
  id := 12
  incidentId := 1
  incidentVersion := 2
  nextRunAt := seconds 1800
  waitReason := .awaitingApproval
  resumeMetadata := { isResumedFromApproval := some true }

/-- The step adds that wake-up. -/
def addsApprovalWakeup (q : Db × Db) : Bool :=
  decide (q.2.scheduleIds = 12 :: q.1.scheduleIds) &&
    decide (q.2.schedules 12 = (q.1.schedules 12).write ⟨0, 0⟩ (some approvalWakeup))

/-- The transaction sees incident 1 planned or waiting, and no decision on a plan. -/
def seesUnapproved (q : Db × Db) : Bool :=
  ((q.1.incidents 1).visible ⟨0, 0⟩).any (fun row =>
    decide (row.state = .planned ∨ row.state = .pendingApproval)) && q.1.approvals.isEmpty

theorem seesOpen_of_sees {q : Db × Db} (h : seesUnapproved q = true) :
    SeesOpen 0 1 q.1 ∧ q.1.approvals = [] := by
  simp only [seesUnapproved, Bool.and_eq_true, Option.any_eq_true, decide_eq_true_eq,
    List.isEmpty_iff] at h
  exact h

/-- A run that sees no decision on a plan begins without an approval. -/
theorem took_inspectIncident_unapproved {p i : Nat} {actor : String} {expectedVersion : Option Nat}
    {r : Reconstruction} {looked : List (Db × Db)}
    (h : (inspectIncident p actor i expectedVersion).Took looked (.ok (some r)))
    (hsees : ∀ q ∈ looked, SeesOpen p i q.1 ∧ q.1.approvals = []) : r.isApproved = false := by
  have hread := took_inspectIncident h
  obtain ⟨q, hq, hrow⟩ := hread.incident
  obtain ⟨q', hq', happrovals⟩ := hread.approvals
  have hnone : r.approvals = [] := by
    rw [happrovals, (hsees q' hq').2]
    rfl
  obtain ⟨row, hrow', hstate⟩ := (hsees q hq).1
  obtain rfl : r.incident = row := Option.some.inj (hrow.symm.trans hrow')
  unfold Reconstruction.isApproved
  rw [hnone]
  rcases hstate with hstate | hstate
  · simp [hstate]
  · simp [hstate]

/-- The incident is planned, and has to be approved. -/
theorem approval_wakeup_awaits_planned :
    ∃ steps last, approvalRun.Began steps ∧ Between (SameRow 1) unapprovedDemo steps last ∧
      (∃ q ∈ steps, SchedulesApproval 0 q.1 q.2) ∧
      ∃ row, last.incident 1 = some row ∧ row.state = .pendingApproval := by
  have hrecords : approvalRun.records (List.replicate 60 {}) unapprovedDemo
      (fun _ steps _ => steps.any addsApprovalWakeup && steps.all seesUnapproved) = true := by
    decide +kernel
  obtain ⟨r, last, steps, htook, halone, htest⟩ := alone_of_records hrecords
  simp only [Bool.and_eq_true, List.any_eq_true, List.all_eq_true] at htest
  obtain ⟨⟨q, hq, hadds⟩, hsees⟩ := htest
  have hothers : Between (SameRow 1) unapprovedDemo steps last := by
    refine halone.mono ?_
    rintro s _ rfl
    rfl
  have hwakeup : ∃ q ∈ steps, SchedulesApproval 0 q.1 q.2 := by
    simp only [addsApprovalWakeup, Bool.and_eq_true, decide_eq_true_eq] at hadds
    exact ⟨q, hq, 0, approvalWakeup, rfl, hadds.1, hadds.2⟩
  refine ⟨steps, last, htook.began, hothers, hwakeup, ?_⟩
  refine approval_wakeup_awaits 0 1 "worker:a" {} ⟨0, "worker:a"⟩ none {} id steps unapprovedDemo
    last
    htook.began hothers ?_ hwakeup
  intro looked r later heq hlooked q hq _
  have hlooked' : ∀ q ∈ looked, SeesOpen 0 1 q.1 ∧ q.1.approvals = [] :=
    fun q hq => seesOpen_of_sees (hsees q (by rw [heq]; simp [hq]))
  exact ⟨took_inspectIncident_unapproved hlooked hlooked',
    (seesOpen_of_sees (hsees q (by rw [heq]; simp [hq]))).1⟩

/-- The incident of the demo, diagnosed as well. -/
def approvedRunDemo : Db :=
  { approvedDemo with nextId := 10, diagnoses := [⟨9, 1, "CONTAINER_STOPPED", 95 / 100, none⟩] }

/-- The run has restarted the container and resolved incident 1, and leaves a wake-up for an
approval. -/
def awaitsInVain (r : Except Err (Option IncidentGraphState)) (db : Db) : Bool :=
  match r with
  | .ok (some final) => decide (final.waitReason = some .awaitingApproval ∧
      .restartIssued 0 approvedRestart ∈ db.log ∧
      (db.schedulesOf 1).map WorkflowSchedule.waitReason = [.awaitingApproval] ∧
      (db.incident 1).map Incident.state = some .resolved)
  | _ => false

/-- **A run that has carried out an approved plan leaves a wake-up for its approval.**  The incident
is resolved by then. -/
theorem approved_run_awaits_approval :
    ∃ final last, approvalRun.Ends approvedRunDemo (.ok (some final)) last ∧
      final.waitReason = some .awaitingApproval ∧
      .restartIssued 0 approvedRestart ∈ last.log ∧
      (last.schedulesOf 1).map WorkflowSchedule.waitReason = [.awaitingApproval] ∧
      (last.incident 1).map Incident.state = some .resolved := by
  have hpasses : approvalRun.passes
      (List.replicate 150 { managedContainer with verify := .answered { passed := true } })
      approvedRunDemo awaitsInVain = true := by decide +kernel
  obtain ⟨r, last, hends, htest⟩ := ends_of_passes hpasses
  unfold awaitsInVain at htest
  split at htest
  · rename_i final
    exact ⟨final, last, hends, of_decide_eq_true htest⟩
  · cases htest

end SelfHealing
