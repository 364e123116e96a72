/-
The wake-up after a failed verification, and the incident that goes back.

The two are written in two transactions, the one for the wake-up inside the other, and the node is
run again when it raises.  So a wake-up can be there without the move, and more than once.  Where no
retry is left neither is ever written, and that is an invariant of every step of the node: it holds
wherever the node is stopped.

The inner transaction is committed on its own, so that nothing that comes later undoes it.  What is
looked for is a state in which one of the two is committed and the other is not, and there is one
on each way through the node on which a retry is left.
-/
import SelfHealing.Proofs.RetryScheduling

namespace SelfHealing

open Interleaving Interleaving.Prog Interleaving.Protocol ReadCommitted

/-- A wake-up of the incident after a cooldown. -/
def Db.cooldown (db : Db) (i w : Nat) : Prop :=
  ∃ schedule, db.schedule w = some schedule ∧ schedule.incidentId = i ∧
    schedule.waitReason = .cooldown

/-- Since `first` the incident went back if and only if a wake-up for its new version was scheduled,
and no more than one was. -/
structure RetryAtomic (first : Db) (i : Nat) (inc : Incident) (s : Db) : Prop where
  together : (∃ w schedule, ¬ first.cooldown i w ∧ s.cooldown i w ∧ s.schedule w = some schedule ∧
      schedule.incidentVersion = inc.version + 1) ↔
    ∃ row, s.incident i = some row ∧ row.state = .diagnosed
  once : ∀ w w', s.cooldown i w → ¬ first.cooldown i w → s.cooldown i w' → ¬ first.cooldown i w' →
    w = w'

/-- The others leave the incident alone, its wake-ups, and what process `p` has under way. -/
structure SparesRetry (p i : Nat) (s s' : Db) : Prop where
  row : s'.incidents i = s.incidents i
  cooldowns : ∀ w, s'.cooldown i w ↔ s.cooldown i w
  own : ∀ w l, (s'.schedules w).own ⟨p, l⟩ = (s.schedules w).own ⟨p, l⟩

/-! ### Where no retry is left -/

/-- No retry is left, and the incident has not gone back. -/
structure Incident.Exhausted (row : Incident) : Prop where
  budget : row.retryLimit ≤ row.attempts
  state : row.state ≠ .diagnosed

/-- The incident has not gone back, nor has process `p` written so, and there are no other wake-ups
than at first. -/
structure Spent (p i : Nat) (first s : Db) : Prop where
  row : ∃ row, s.incident i = some row ∧ row.Exhausted
  own : ∀ l, ∀ v ∈ (s.incidents i).own ⟨p, l⟩, ∃ row, v = some row ∧ row.Exhausted
  cooldowns : ∀ w, s.cooldown i w ↔ first.cooldown i w
  unscheduled : ∀ w l, (s.schedules w).own ⟨p, l⟩ = []

namespace Spent

variable {p i l : Nat} {first s s' : Db}

/-- What a transaction of the process sees of the row. -/
theorem visible (h : Spent p i first s) (l : Nat) :
    ∃ row, (s.incidents i).visible ⟨p, l⟩ = some row ∧ row.Exhausted := by
  unfold Cell.visible Cell.view
  cases hown : (s.incidents i).own ⟨p, l⟩ with
  | nil => exact h.row
  | cons v vs =>
      obtain ⟨row, rfl, hrow⟩ := h.own l v (by rw [hown]; exact List.mem_cons_self)
      exact ⟨row, rfl, hrow⟩

/-- Nothing is changed where it matters. -/
theorem same (h : Spent p i first s) (hrow : s'.incidents i = s.incidents i)
    (hcooldowns : ∀ w, s'.cooldown i w ↔ s.cooldown i w)
    (hown : ∀ w l, (s'.schedules w).own ⟨p, l⟩ = (s.schedules w).own ⟨p, l⟩) :
    Spent p i first s' := by
  refine ⟨?_, ?_, fun w => (hcooldowns w).trans (h.cooldowns w), ?_⟩
  · unfold Db.incident
    rw [hrow]
    exact h.row
  · rw [hrow]
    exact h.own
  · intro w l
    rw [hown, h.unscheduled]

theorem commit (h : Spent p i first s) (l : Nat) (evs : List Event) :
    Spent p i first ((s.commit ⟨p, l⟩).record evs) := by
  have hschedule : ∀ w, ((s.commit ⟨p, l⟩).record evs).schedule w = s.schedule w := by
    intro w
    show ((s.schedules w).commit ⟨p, l⟩).committed = (s.schedules w).committed
    rw [Cell.committed_commit, Cell.visible_eq_committed (h.unscheduled w l)]
  refine ⟨?_, ?_, ?_, ?_⟩
  · show ∃ row, ((s.incidents i).commit ⟨p, l⟩).committed = some row ∧ row.Exhausted
    rw [Cell.committed_commit]
    exact h.visible l
  · show ∀ k, ∀ v ∈ ((s.incidents i).commit ⟨p, l⟩).own ⟨p, k⟩, ∃ row, v = some row ∧ row.Exhausted
    rcases Cell.commit_eq_or_free (t := ⟨p, l⟩) (c := s.incidents i) with heq | hfree
    · rw [heq]
      exact h.own
    · intro k v hv
      rw [Cell.own_of_free hfree] at hv
      cases hv
  · intro w
    unfold Db.cooldown
    rw [hschedule]
    exact h.cooldowns w
  · intro w k
    show ((s.schedules w).commit ⟨p, l⟩).own ⟨p, k⟩ = []
    rcases Cell.commit_eq_or_free (t := ⟨p, l⟩) (c := s.schedules w) with heq | hfree
    · rw [heq]
      exact h.unscheduled w k
    · exact Cell.own_of_free hfree

theorem rollback (h : Spent p i first s) (t : TxId) : Spent p i first (s.rollback t) := by
  have hschedule : ∀ w, (s.rollback t).schedule w = s.schedule w := fun _ => Cell.committed_rollback
  refine ⟨?_, ?_, ?_, ?_⟩
  · show ∃ row, ((s.incidents i).rollback t).committed = some row ∧ row.Exhausted
    rw [Cell.committed_rollback]
    exact h.row
  · show ∀ k, ∀ v ∈ ((s.incidents i).rollback t).own ⟨p, k⟩, ∃ row, v = some row ∧ row.Exhausted
    rcases Cell.rollback_eq_or_free (t := t) (c := s.incidents i) with heq | hfree
    · rw [heq]
      exact h.own
    · intro k v hv
      rw [Cell.own_of_free hfree] at hv
      cases hv
  · intro w
    unfold Db.cooldown
    rw [hschedule]
    exact h.cooldowns w
  · intro w k
    show ((s.schedules w).rollback t).own ⟨p, k⟩ = []
    rcases Cell.rollback_eq_or_free (t := t) (c := s.schedules w) with heq | hfree
    · rw [heq]
      exact h.unscheduled w k
    · exact Cell.own_of_free hfree

theorem crash (h : Spent p i first s) (q : Nat) : Spent p i first (s.crash q) :=
  ((h.rollback ⟨q, 0⟩).rollback ⟨q, 1⟩).same rfl (fun _ => Iff.rfl) (fun _ _ => rfl)

/-- Then there is neither a new wake-up nor an incident that went back. -/
theorem retryAtomic (h : Spent p i first s) (inc : Incident) : RetryAtomic first i inc s := by
  refine ⟨iff_of_false ?_ ?_, ?_⟩
  · rintro ⟨w, -, hnew, hthere, -⟩
    exact hnew ((h.cooldowns w).mp hthere)
  · rintro ⟨row, hrow, hstate⟩
    obtain ⟨row', hrow', hexhausted⟩ := h.row
    rw [hrow'] at hrow
    cases hrow
    exact hexhausted.state hstate
  · intro w w' hthere hnew
    exact absurd ((h.cooldowns w).mp hthere) hnew

end Spent

section Kept

variable {p i : Nat} {first : Db} {K : WorkerKind → Prop} {E : Event → Prop} {R : NewRow → Prop}
  {actor : String} {state : IncidentGraphState}

theorem WorkerStep.spent {s s' : Db} (h : WorkerStep p K E R s s') (hI : ¬ K .incident)
    (hS : ∀ reason, ¬ K (.schedule reason)) (hs : Spent p i first s) : Spent p i first s' := by
  cases h with
  | commit l evs hk hevs => exact hs.commit l evs
  | rollback l hk => exact hs.rollback _
  | incident l j row hk => exact absurd hk hI
  | schedule l schedule hk => exact absurd hk (hS _)
  | _ => exact hs.same rfl (fun _ => Iff.rfl) (fun _ _ => rfl)

/-- A step that leaves it so. -/
def KeepsSpent (p i : Nat) (first s s' : Db) : Prop := Spent p i first s → Spent p i first s'

theorem keepsSpent_of_workerStep {α : Type} {x : Prog α} (hI : ¬ K .incident)
    (hS : ∀ reason, ¬ K (.schedule reason))
    (hx : Within (WorkerStep p K E R) x) : Within (KeepsSpent p i first) x :=
  hx.mono (fun _ _ h => h.spent hI hS)

/-- The incident is moved, but not back. -/
theorem keepsSpent_transition {v : Int} {target : IncidentState} (htarget : target ≠ .diagnosed)
    (happ : target ≠ .approved) :
    Within (KeepsSpent p i first) (transition ⟨p, 0⟩ actor i v target) := by
  have hrefl : ∀ s, KeepsSpent p i first s s := fun _ h => h
  refine Within.bind (select_within hrefl _) (fun found => ?_)
  cases found with
  | none => exact within_throw _
  | some incident =>
      refine Within.bind ⟨trivial⟩ (fun _ => Within.bind (sql_within hrefl ?_) (fun result => ?_))
      swap
      · cases result with
        | none => exact within_throw _
        | some updated =>
            simp only [if_neg happ]
            exact within_pure _
      intro s r s' hf hs
      simp only at hf
      split at hf
      swap
      · simp only [Option.some.injEq, Prod.mk.injEq] at hf
        rw [← hf.2]
        exact hs
      rename_i row hrow
      split at hf
      swap
      · cases hf
      simp only [Option.some.injEq, Prod.mk.injEq] at hf
      obtain ⟨old, hold, hset⟩ := Option.bind_eq_some_iff.mp hrow
      obtain ⟨old', hold', hexhausted⟩ := hs.visible 0
      rw [hold'] at hold
      cases hold
      -- the budget is that of the row in sight
      have hnew : row.Exhausted := by
        split at hset
        swap
        · cases hset
        have hretry : incident.retries target = false := by simp [Incident.retries, htarget]
        cases hset
        refine ⟨?_, htarget⟩
        show old.retryLimit ≤ (if incident.retries target then _ else old.attempts)
        rw [hretry]
        exact hexhausted.budget
      rw [← hf.2]
      refine ⟨?_, ?_, hs.cooldowns, hs.unscheduled⟩
      · rw [incident_setIncident]
        exact hs.row
      · intro l v hv
        simp only [Db.setIncident, Function.update_self] at hv
        by_cases hl : l = 0
        · subst hl
          rw [Cell.own_write] at hv
          rcases List.mem_cons.mp hv with rfl | hv
          · exact ⟨row, rfl, hnew⟩
          · exact hs.own 0 v hv
        · have hne : (⟨p, 0⟩ : TxId) ≠ ⟨p, l⟩ := fun heq => hl (TxId.mk.inj heq).2.symm
          simp [Cell.own, Cell.write, hne] at hv

theorem keepsSpent_leaveVerification {found : Option Incident} {target : IncidentState}
    (htarget : target ≠ .diagnosed) (happ : target ≠ .approved) :
    Within (KeepsSpent p state.incidentId first)
      (leaveVerification actor state ⟨p, 0⟩ found target) := by
  unfold leaveVerification
  split
  · exact within_pure _
  · exact Within.bind (keepsSpent_transition htarget happ) (fun _ => within_pure _)

theorem keepsSpent_escalation {found : Option Incident} {title summary cause : String}
    {reason : Option String} : Within (KeepsSpent p state.incidentId first) (do
      let inc ← leaveVerification actor state ⟨p, 0⟩ found .escalated
      createEscalationRecord ⟨p, 0⟩ state.incidentId title summary cause reason
      createAttentionItem ⟨p, 0⟩
      pure inc : Prog (Option Incident)) := by
  refine Within.bind (keepsSpent_leaveVerification (by decide) (by decide)) (fun inc => ?_)
  have hrecords : Within (Records p) (do
      createEscalationRecord ⟨p, 0⟩ state.incidentId title summary cause reason
      createAttentionItem ⟨p, 0⟩
      pure inc : Prog (Option Incident)) :=
    Within.bind (workerStep_createEscalationRecord (fun _ => trivial) _ _ _ _ _) (fun _ =>
      Within.bind workerStep_createAttentionItem (fun _ => within_pure _))
  exact keepsSpent_of_workerStep id (fun _ => id) hrecords

/-- The steps of the process, of the others and of those who die leave it so. -/
def spentProtocol (p i : Nat) (first : Db) : Protocol World Unit Unit Db where
  machine :=
    { prog := fun _ _ => .ret ()
      ready := fun _ _ _ => True
      crash := Db.crash
      env := fun _ _ => none
      admits := fun _ _ => True }
  guar := fun _ => KeepsSpent p i first
  inv := Spent p i first
  inv_guar := fun _ _ _ hinv h _ => h hinv
  inv_crash := fun q _ hinv => hinv.crash q
  inv_env := fun _ _ _ _ h _ => by simp at h

/-- A part of the node that leaves it so, whatever holds before. -/
theorem triple_of_keepsSpent {α : Type} {Q : Db → Prop} {x : Prog α}
    (hx : Within (KeepsSpent p i first) x) :
    (spentProtocol p i first).Triple p Q x (fun _ _ => True) (fun _ _ => True) :=
  triple_of_within hx (fun _ _ _ h => h)

/-- **Handling a verdict leaves it so**: no retry is left in the row that is read. -/
theorem settleVerdict_spent (verdict : VerdictAnswer) (cooldown : Int) :
    (spentProtocol p state.incidentId first).Triple p (fun _ => True)
      (settleVerdict p actor state verdict cooldown) (fun _ _ => True) (fun _ _ => True) := by
  have hrefl : ∀ s, KeepsSpent p state.incidentId first s s := fun _ h => h
  refine triple_unitOfWork (B := fun _ => True) (F := fun _ => True) (M := fun _ _ => True)
    (triple_of_keepsSpent (beginTx_within hrefl
      (fun s h => h.same rfl (fun _ => Iff.rfl) (fun _ _ => rfl)))) ?_
    (fun a => triple_of_keepsSpent ?_)
    (triple_of_keepsSpent (rollbackTx_within (fun s h => h.rollback _))) (fun _ _ _ => trivial)
  swap
  · refine within_stmt ?_
    intro w s r s' hf h
    split at hf
    · simp only [Option.some.injEq, Prod.mk.injEq] at hf
      rw [← hf.2]
      exact h.rollback _
    · simp only [Option.some.injEq, Prod.mk.injEq] at hf
      rw [← hf.2]
      exact h.commit 0 _
  -- what is read is the row of the incident, and no retry is left in it
  refine Triple.bind (M := fun found _ => (∃ row, found = some row ∧ row.Exhausted) ∧ True)
    (triple_select (fun _ _ _ _ _ => trivial) (fun s _ _ => hrefl s) (fun _ _ _ => trivial) ?_) ?_
  · intro s hs _
    exact ⟨hs.visible 0, trivial⟩
  intro found
  refine triple_fact (fun hfound => ?_)
  obtain ⟨row, rfl, hrow⟩ := hfound
  refine triple_of_keepsSpent (Within.bind (keepsSpent_of_workerStep (K := fun _ => False)
    (E := fun _ => False) (R := fun _ => False) id (fun _ => id) workerStep_insertElsewhere)
      (fun _ => ?_))
  split
  · exact Within.bind (keepsSpent_leaveVerification (by decide) (by decide))
      (fun _ => within_pure _)
  · split
    · exact Within.bind keepsSpent_escalation (fun _ => within_pure _)
    · have hspent : ¬ (isRetryEligible row.attempts row.retryLimit).1 = true :=
        fun h => absurd ((isRetryEligible_iff _ _).mp h) (not_lt.mpr hrow.budget)
      simp only [Option.map_some, Option.getD_some]
      rw [if_neg hspent]
      exact Within.bind keepsSpent_escalation (fun _ => within_pure _)

theorem verifyNode_spent (cooldown : Int) :
    (spentProtocol p state.incidentId first).Triple p (fun _ => True)
      (verifyNode p actor state cooldown) (fun _ _ => True) (fun _ _ => True) := by
  have hask : Within (WorkerStep p (fun k => .transaction = k) (fun _ => False) (fun _ => False))
      (service World.verify) := workerStep_service (fun _ _ he => absurd he List.not_mem_nil)
  have hrest : (spentProtocol p state.incidentId first).Triple p (fun _ => True) (do
      let verdict ← service World.verify
      settleVerdict p actor state verdict cooldown) (fun _ _ => True) (fun _ _ => True) :=
    (triple_of_keepsSpent (keepsSpent_of_workerStep (by simp) (by simp) hask)).bind
      (fun verdict => settleVerdict_spent verdict cooldown)
  unfold verifyNode
  split
  · refine Triple.bind (triple_of_keepsSpent ?_) (fun _ => hrest)
    exact keepsSpent_of_workerStep (K := fun k => .transaction = k) (E := fun _ => False)
      (R := fun _ => False) (by simp) (by simp)
        (workerStep_unitOfWork_unseen rfl (workerStep_select _))
  · exact hrest

/-- However often the node is tried again. -/
theorem retried_spent (cooldown : Int) (tries : Nat) :
    (spentProtocol p state.incidentId first).Triple p (fun _ => True)
      (retried (verifyNode p actor state cooldown) tries) (fun _ _ => True) (fun _ _ => True) := by
  induction tries with
  | zero => exact verifyNode_spent cooldown
  | succ n ih =>
      cases n with
      | zero => exact verifyNode_spent cooldown
      | succ n => exact (verifyNode_spent cooldown).handle (fun _ => ih)

end Kept

/-! ### Where a retry is left

Here the runs are given.  The wake-up is committed in its own transaction, and then the move is
refused, or the process dies: one of the two is there without the other.  The node is run again
after a refusal, and leaves another wake-up each time.
-/

section Left

variable {p w : Nat} {actor : String} {state : IncidentGraphState} {inc : Incident} {s : Db}

/-- The incident is being verified, nobody has it under way, and the next identifier is new. -/
structure Poised (i : Nat) (inc : Incident) (w : Nat) (s : Db) : Prop where
  row : s.incident i = some inc
  free : (s.incidents i).pending = none
  next : s.nextId = w
  fresh : s.schedules w = Cell.empty

theorem Poised.same {i : Nat} {s' : Db} (h : Poised i inc w s)
    (hrow : s'.incidents i = s.incidents i)
    (hnext : s'.nextId = s.nextId) (hschedule : s'.schedules w = s.schedules w) :
    Poised i inc w s' := by
  refine ⟨?_, by rw [hrow, h.free], hnext.trans h.next, hschedule.trans h.fresh⟩
  unfold Db.incident
  rw [hrow]
  exact h.row

/-- The end of a transaction that has touched neither. -/
theorem Poised.commit {i : Nat} (h : Poised i inc w s) (t : TxId) (evs : List Event) :
    Poised i inc w ((s.commit t).record evs) := by
  refine h.same ?_ rfl ?_
  · refine Cell.commit_of_not_locked ?_
    rintro ⟨vs, hvs⟩
    rw [h.free] at hvs
    cases hvs
  · show (s.schedules w).commit t = s.schedules w
    rw [h.fresh]
    rfl

/-- The wake-up is there, and the incident has not gone back. -/
structure Torn (i : Nat) (inc : Incident) (w : Nat) (s : Db) : Prop where
  row : s.incident i = some inc
  wakeup : ∃ schedule, s.schedule w = some schedule ∧ schedule.incidentId = i ∧
    schedule.waitReason = .cooldown ∧ schedule.incidentVersion = inc.version + 1

theorem Torn.rollback {i : Nat} (h : Torn i inc w s) (t : TxId) : Torn i inc w (s.rollback t) := by
  refine ⟨Cell.committed_rollback.trans h.row, ?_⟩
  obtain ⟨schedule, hschedule, hrest⟩ := h.wakeup
  exact ⟨schedule, Cell.committed_rollback.trans hschedule, hrest⟩

theorem Torn.crash {i : Nat} (h : Torn i inc w s) (q : Nat) : Torn i inc w (s.crash q) :=
  have h' := (h.rollback ⟨q, 0⟩).rollback ⟨q, 1⟩
  ⟨h'.row, h'.wakeup⟩

/-- It is not atomic. -/
theorem Torn.not_atomic {i : Nat} {first : Db} (h : Torn i inc w s)
    (hfresh : first.schedules w = Cell.empty)
    (hstate : inc.state = .verifying) : ¬ RetryAtomic first i inc s := by
  intro hatomic
  obtain ⟨schedule, hschedule, hid, hreason, hversion⟩ := h.wakeup
  have hnew : ¬ first.cooldown i w := by
    rintro ⟨row, hrow, -⟩
    unfold Db.schedule at hrow
    rw [hfresh] at hrow
    cases hrow
  obtain ⟨row, hrow, hback⟩ := hatomic.together.mp
    ⟨w, schedule, hnew, ⟨schedule, hschedule, hid, hreason⟩, hschedule, hversion⟩
  rw [h.row] at hrow
  cases hrow
  rw [hstate] at hback
  cases hback

theorem can_insertSchedule {t : TxId} {schedule : WorkflowSchedule} {Q : Unit → Db → Prop}
    {X : Err → Db → Prop}
    (hvisible : ((s.incidents schedule.incidentId).visible t).isSome = true)
    (h : Q () { s.setSchedule schedule.id ((s.schedules schedule.id).write t (some schedule)) with
      scheduleIds := schedule.id :: s.scheduleIds }) :
    (insertSchedule t schedule).Can (fun _ => True) Q X s :=
  can_sql (w := {}) (r := .ok ()) trivial rfl (if_pos hvisible) h

theorem can_updateIncident {t : TxId} {i : Nat} {set : Int → Incident → Option Incident}
    {row : Incident} {Q : Option Incident → Db → Prop} {X : Err → Db → Prop}
    (hvisible : (s.incidents i).visible t = some inc) (hset : set (s.txTime t) inc = some row)
    (hfree : (s.incidents i).free t = true)
    (h : Q (some row) (s.setIncident i ((s.incidents i).write t (some row)))) :
    (updateIncident t i set).Can (fun _ => True) Q X s := by
  refine can_sql (w := {}) (r := .ok (some row)) trivial rfl ?_ h
  simp only [hvisible, Option.bind_some, hset, if_pos hfree]

/-- The wake-up is committed while the row of the incident is written and not committed. -/
theorem can_scheduleRetryCooldown {i v : Nat} {cooldown : Int} {Q : WorkflowSchedule → Db → Prop}
    {X : Err → Db → Prop} (hactor : validActor actor = true) (hrow : s.incident i = some inc)
    (hlocked : (s.incidents i).locked ⟨p, 0⟩) (hnext : s.nextId = w)
    (hfresh : s.schedules w = Cell.empty)
    (hQ : ∀ schedule s', schedule.incidentId = i → schedule.waitReason = .cooldown →
      schedule.incidentVersion = v → s'.incidents i = s.incidents i →
      s'.schedules w = Cell.ofRow schedule → Q schedule s') :
    (scheduleRetryCooldown ⟨p, 1⟩ actor i v cooldown).Can (fun _ => True) Q X s := by
  have hother : ¬ (s.incidents i).locked ⟨p, 1⟩ := Cell.not_locked_of_locked (by simp) hlocked
  have hvisible : (s.incidents i).visible ⟨p, 1⟩ = some inc := by
    rw [Cell.visible_eq_committed (Cell.own_eq_nil_of_not_locked hother)]
    exact hrow
  refine can_bind (can_datetimeNow (w := {}) trivial (can_bind (can_datetimeNow (w := {}) trivial
    (can_unitOfWork (w := {}) hactor trivial rfl ?_))))
  refine can_bind (can_uuid4 (w := {}) trivial (can_bind (can_insertSchedule ?_ ?_)))
  · show ((s.incidents i).visible ⟨p, 1⟩).isSome = true
    rw [hvisible]
    rfl
  · refine (can_pure _).mpr (hQ _ _ rfl rfl rfl (Cell.commit_of_not_locked hother) ?_)
    subst hnext
    simp [Db.record, Db.commit, Db.setSchedule, Db.draw, Db.started, hfresh, Cell.commit,
      Cell.write, Cell.own, Cell.empty, Cell.ofRow]

/-- The incident is moved back, and the move is not committed. -/
theorem can_leaveVerification {Q : Option Incident → Db → Prop} {X : Err → Db → Prop}
    (hs : Poised state.incidentId inc w s) (hstate : inc.state = .verifying)
    (hleft : inc.attempts < inc.retryLimit)
    (hQ : ∀ row : Incident, row.version = inc.version + 1 →
      Q (some row) (s.setIncident state.incidentId
        ((s.incidents state.incidentId).write ⟨p, 0⟩ (some row)))) :
    (leaveVerification actor state ⟨p, 0⟩ (some inc) .diagnosed).Can (fun _ => True) Q X s := by
  have hvisible : (s.incidents state.incidentId).visible ⟨p, 0⟩ = some inc := by
    rw [Cell.visible_eq_committed (Cell.own_of_free hs.free)]
    exact hs.row
  have hfree : (s.incidents state.incidentId).free ⟨p, 0⟩ = true := by
    simp [Cell.free, hs.free]
  have hadmits : inc.admitsTransition inc.version .diagnosed = .ok () := by
    unfold Incident.admitsTransition validateTransition
    rw [hstate]
    simp [IncidentState.transitions, Incident.retries, not_le.mpr hleft]
    rfl
  unfold leaveVerification
  rw [Option.filter_some, if_pos (by simp [hstate])]
  refine can_bind (can_bind (can_select (w := {}) trivial rfl ?_))
  rw [hvisible]
  refine can_bind (can_check ?_)
  rw [hadmits]
  refine can_bind (can_updateIncident hvisible (if_pos rfl) hfree ?_)
  exact (can_pure _).mpr ((can_pure _).mpr (hQ _ (by simp [Incident.transitioned])))

/-- **The wake-up is left behind**: the transaction of the node is refused at its end. -/
theorem can_settleVerdict {verdict : VerdictAnswer} {cooldown : Int}
    {Q : IncidentGraphState → Db → Prop} (hactor : validActor actor = true)
    (hs : Poised state.incidentId inc w s) (hstate : inc.state = .verifying)
    (hleft : inc.attempts < inc.retryLimit)
    (hfailed : ¬ (verdict.passed = true ∧ verdict.attribution = .agentHealed))
    (hinternal : ¬ (verdict.attribution = .externallyRecovered ∨
      verdict.attribution = .inconclusive)) :
    (settleVerdict p actor state verdict cooldown).Can (fun _ => True) Q
      (fun _ => Torn state.incidentId inc w) s := by
  have hbegun : Poised state.incidentId inc w (s.started ⟨p, 0⟩) := hs.same rfl rfl rfl
  have hvisible : ((s.started ⟨p, 0⟩).incidents state.incidentId).visible ⟨p, 0⟩ = some inc := by
    rw [Cell.visible_eq_committed (Cell.own_of_free hbegun.free)]
    exact hbegun.row
  refine can_unitOfWork_lost (w := { fails := true }) (v := {}) hactor trivial rfl trivial rfl ?_
  refine can_bind (can_select (w := {}) trivial rfl ?_)
  rw [hvisible]
  refine can_bind (can_sql (w := {}) (r := .ok ()) trivial rfl rfl ?_)
  show Prog.Can _ _ _ _ _
  rw [if_neg hfailed, if_neg hinternal]
  simp only [Option.map_some, Option.getD_some]
  rw [if_pos ((isRetryEligible_iff _ _).mpr hleft)]
  refine can_bind (can_bind (can_leaveVerification hbegun hstate hleft (fun row hversion => ?_)))
  refine can_bind (can_scheduleRetryCooldown hactor
    ((incident_setIncident _ _).trans hbegun.row) ?_ hbegun.next hbegun.fresh ?_)
  · simp [Db.setIncident]
  · intro schedule s' hid hreason hv hrow hschedule
    refine (can_pure _).mpr ((can_pure _).mpr (Torn.rollback (Torn.rollback ⟨?_, ?_⟩ _) _))
    · unfold Db.incident
      rw [hrow]
      exact (incident_setIncident _ _).trans hbegun.row
    · refine ⟨schedule, ?_, hid, hreason, ?_⟩
      · unfold Db.schedule
        rw [hschedule]
        rfl
      · rw [hv]
        exact hversion

/-- The node can leave the wake-up behind. -/
theorem can_verifyNode {cooldown : Int} {Q : IncidentGraphState → Db → Prop}
    (hactor : validActor actor = true) (hs : Poised state.incidentId inc w s)
    (hstate : inc.state = .verifying) (hleft : inc.attempts < inc.retryLimit) :
    (verifyNode p actor state cooldown).Can (fun _ => True) Q
      (fun _ => Torn state.incidentId inc w) s := by
  have hrest : ∀ s, Poised state.incidentId inc w s → Prog.Can (fun _ => True) (do
      let verdict ← service World.verify
      settleVerdict p actor state verdict cooldown) Q (fun _ => Torn state.incidentId inc w) s := by
    intro s hs
    refine can_bind (can_stmt (w := { verify := .answered unhealthyVerdict })
      (r := .ok unhealthyVerdict) trivial rfl ?_)
    exact can_settleVerdict hactor (hs.same rfl rfl rfl) hstate hleft (by decide)
      (by decide)
  unfold verifyNode
  split
  · refine can_bind (can_unitOfWork (w := {}) hactor trivial rfl
      (can_select (w := {}) trivial rfl (hrest _ ?_)))
    have hbegun : Poised state.incidentId inc w (s.started ⟨p, 0⟩) := hs.same rfl rfl rfl
    exact hbegun.commit _ _
  · exact hrest s hs

end Left

/-! ### The node, stopped anywhere -/

section Stopped

variable {p : Nat} {actor : String} {state : IncidentGraphState} {inc : Incident} {db : Db}
  {steps : List (Db × Db)} {s : Db}

/-- Nothing of the process is under way. -/
def Fresh (p i : Nat) (db : Db) : Prop :=
  (db.incidents i).pending = none ∧ (∀ w l, (db.schedules w).own ⟨p, l⟩ = []) ∧
    db.schedules db.nextId = Cell.empty

/-- Where no retry is left, nothing is written wherever the node is stopped. -/
theorem spent_of_began {cooldown : Int} {tries : Nat}
    (hrow : db.incident state.incidentId = some inc)
    (hstate : inc.state = .verifying) (hfresh : Fresh p state.incidentId db)
    (hspent : inc.retryLimit ≤ inc.attempts)
    (hbegan : (retried (verifyNode p actor state cooldown) tries).Began steps)
    (hothers : Between (SparesRetry p state.incidentId) db steps s) :
    Spent p state.incidentId db s := by
  have hfirst : Spent p state.incidentId db db := by
    refine ⟨⟨inc, hrow, hspent, by rw [hstate]; decide⟩, ?_, fun _ => Iff.rfl, hfresh.2.1⟩
    intro l v hv
    rw [Cell.own_of_free hfresh.1] at hv
    cases hv
  obtain ⟨y, hwent⟩ := hbegan
  have hrely : Between ((spentProtocol p state.incidentId db).Rely p) db steps s := by
    refine hothers.mono (fun u u' hsame => Relation.ReflTransGen.single ?_)
    exact Other.proc (p + 1) (by omega)
      (fun h => h.same hsame.row hsame.cooldowns hsame.own) trivial
  exact Safe.stopped (P := spentProtocol p state.incidentId db) (fun _ _ => trivial) hfirst
    (retried_spent cooldown tries db hfirst trivial) hwent hrely

/-- Where a retry is left, the node can be stopped with a wake-up left behind. -/
theorem torn_of_left (cooldown : Int) (tries : Nat) (hactor : validActor actor = true)
    (hrow : db.incident state.incidentId = some inc) (hstate : inc.state = .verifying)
    (hfresh : Fresh p state.incidentId db) (hleft : inc.attempts < inc.retryLimit) :
    ∃ steps s, (retried (verifyNode p actor state cooldown) tries).Began steps ∧
      Between (fun s s' => s = s') db steps s ∧ Torn state.incidentId inc db.nextId s := by
  have hcan : (verifyNode p actor state cooldown).Can (fun _ => True) (fun _ _ => False)
      (fun _ => Torn state.incidentId inc db.nextId) db :=
    can_verifyNode hactor ⟨hrow, hfresh.1, rfl, hfresh.2.2⟩ hstate hleft
  obtain ⟨r, s, hends, hout⟩ := hcan.ends
  obtain ⟨steps, htook, halone⟩ := hends.alone
  refine ⟨steps, s, ?_, halone, ?_⟩
  · match tries with
    | 0 | 1 => exact htook.began
    | n + 2 => exact htook.began.guarded _
  · cases r with
    | ok final => exact hout.elim
    | error e => exact hout

/-- **When the wake-up and the move belong together.**  Take an incident that is being verified, and
nothing of the process under way.  However the node and its automatic repetitions go, and wherever
the process dies in them, the incident went back if and only if a wake-up for its new version was
scheduled, and no more than one was: this holds for the incident if and only if no retry is left to
it, and so neither is ever written. -/
theorem retry_atomic_iff (p : Nat) (actor : String) (state : IncidentGraphState) (cooldown : Int)
    (tries : Nat) (inc : Incident) (db : Db) (hactor : validActor actor = true)
    (hrow : db.incident state.incidentId = some inc) (hstate : inc.state = .verifying)
    (hfresh : Fresh p state.incidentId db) :
    (∀ steps s, (retried (verifyNode p actor state cooldown) tries).Began steps →
      Between (SparesRetry p state.incidentId) db steps s →
        RetryAtomic db state.incidentId inc (s.crash p)) ↔
      inc.retryLimit ≤ inc.attempts := by
  constructor
  · intro hatomic
    by_contra hnot
    obtain ⟨steps, s, hbegan, halone, htorn⟩ := torn_of_left (p := p) cooldown tries hactor hrow
      hstate hfresh (not_le.mp hnot)
    have hothers : Between (SparesRetry p state.incidentId) db steps s := by
      refine halone.mono ?_
      rintro u _ rfl
      exact ⟨rfl, fun _ => Iff.rfl, fun _ _ => rfl⟩
    exact (htorn.crash p).not_atomic hfresh.2.2 hstate (hatomic steps s hbegan hothers)
  · intro hspent steps s hbegan hothers
    exact ((spent_of_began hrow hstate hfresh hspent hbegan hothers).crash p).retryAtomic inc

end Stopped

theorem fresh_overdueDb : Fresh 0 1 overdueDb :=
  ⟨rfl, fun _ _ => rfl, rfl⟩

/-- The incident has a retry left. -/
theorem retry_atomic_iff_overdue :
    (∀ steps s, (retried (verifyNode 0 "worker:a" overdueState) 3).Began steps →
      Between (SparesRetry 0 1) overdueDb steps s → RetryAtomic overdueDb 1 overdueIncident
        (s.crash 0)) ↔ overdueIncident.retryLimit ≤ overdueIncident.attempts :=
  retry_atomic_iff 0 "worker:a" overdueState defaultResourceCooldownSeconds 3 overdueIncident
    overdueDb (by decide) rfl rfl fresh_overdueDb

/-- **Three wake-ups and no move.**  The database refuses the end of the node's transaction three
times; the node is tried three times, and raises. -/
theorem three_wakeups :
    ∃ e last, (executeWithPolicy .verify (verifyNode 0 "worker:a" overdueState)).Ends overdueDb
        (.error e) last ∧
      (last.schedulesOf 1).map WorkflowSchedule.waitReason = [.cooldown, .cooldown, .cooldown] ∧
      (last.schedulesOf 1).map WorkflowSchedule.incidentVersion = [8, 8, 8] ∧
      (last.incident 1).map Incident.state = some .verifying := by
  have hpasses : (executeWithPolicy .verify (verifyNode 0 "worker:a" overdueState)).passes
      (List.replicate 3 (List.replicate 12 { verify := .answered unhealthyVerdict } ++
        [{ fails := true }, {}])).flatten overdueDb
      (fun r db => match r with
        | .error _ => decide (
            (db.schedulesOf 1).map WorkflowSchedule.waitReason = [.cooldown, .cooldown, .cooldown] ∧
            (db.schedulesOf 1).map WorkflowSchedule.incidentVersion = [8, 8, 8] ∧
            (db.incident 1).map Incident.state = some .verifying)
        | .ok _ => false) = true := by decide +kernel
  obtain ⟨r, last, hends, htest⟩ := ends_of_passes hpasses
  split at htest
  · rename_i e
    exact ⟨e, last, hends, of_decide_eq_true htest⟩
  · cases htest

end SelfHealing
