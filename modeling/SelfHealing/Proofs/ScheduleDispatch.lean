/-
A wake-up is dispatched once.

Most of what a worker does leaves the rows of the wake-ups alone, and tells nothing of them; that is
read off the kinds of its steps.  What is left is little: a cooldown and the wait for an approval
are inserted under an identifier that was drawn for them, and a recovery service claims a row that
it has found due and commits.  Whatever the number of services, the runs that they dispatch, the
deaths of processes and the clock, no wake-up is dispatched twice.

So the proof has two parts of different kinds.  For most programs it is enough that they are within
a relation, and only for the few that write the rows there are triples.
-/
import SelfHealing.Proofs.ScheduleRows

namespace SelfHealing

open Interleaving Interleaving.Prog Interleaving.Protocol ReadCommitted

/-! ### Steps that leave the rows alone

The kinds of steps are those of `Proofs/WorkerSteps`, and each is gone through once.  Most write
other tables.  What an observer may see of them is listed with the kinds, so that no step but one
can be taken for a dispatch.
-/

/-- A worker that schedules nothing. -/
def Unscheduled (k : WorkerKind) : Prop := ∀ reason, k ≠ .schedule reason

theorem permits_unscheduled : Permits Unscheduled := by
  refine ⟨?_, ?_, ?_, ?_⟩
  all_goals exact fun _ h => by cases h

/-- Nothing is told of a wake-up. -/
def Untold (e : Event) : Prop := e.ofSchedule = false

/-- A step of a worker or of its adapter that does not concern the wake-ups. -/
def QuietStep (p : Nat) (s s' : Db) : Prop :=
  WorkerStep p Unscheduled Untold (fun _ => True) s s' ∨ AdapterStep p s s'

/-- The rows are left as they are, but that a transaction may end. -/
structure RowsAlone (p : Nat) (s s' : Db) : Prop where
  now : s'.now = s.now
  clock : ∀ t, s'.txTime t = s.txTime t ∨ s'.txTime t = s.now
  log : ∃ evs, s'.log = evs ++ s.log ∧ ∀ e ∈ evs, Untold e
  drawn : (s'.nextId = s.nextId ∧ s'.drawnBy = s.drawnBy) ∨
    ∃ q, s'.nextId = (s.draw q).nextId ∧ s'.drawnBy = (s.draw q).drawnBy
  cells : s'.schedules = s.schedules ∨ ∃ l,
    (s'.schedules = fun w => (s.schedules w).commit ⟨p, l⟩) ∨
      s'.schedules = fun w => (s.schedules w).rollback ⟨p, l⟩

/-- Process `p` has written nothing to the rows that is still to be committed. -/
def RowsSettled (p : Nat) (s : Db) : Prop := ∀ w l, l ≤ 1 → (s.schedules w).own ⟨p, l⟩ = []

section Quiet

variable {p : Nat} {s s' : Db} {admits : Db → Db → Prop}

theorem alone_of_worker
    (h : WorkerStep p Unscheduled Untold (fun _ => True) s s') : RowsAlone p s s' := by
  cases h with
  | started l hk =>
      exact ⟨rfl, txTime_started s _, ⟨[], rfl, by simp⟩, .inl ⟨rfl, rfl⟩, .inl rfl⟩
  | drawn q =>
      exact ⟨rfl, fun _ => .inl rfl, ⟨[], rfl, by simp⟩, .inr ⟨q, rfl, rfl⟩, .inl rfl⟩
  | commit l evs hk hevs =>
      exact ⟨rfl, fun _ => .inl rfl, ⟨evs, rfl, hevs⟩, .inl ⟨rfl, rfl⟩, .inr ⟨l, .inl rfl⟩⟩
  | rollback l hk =>
      exact ⟨rfl, fun _ => .inl rfl, ⟨[], rfl, by simp⟩, .inl ⟨rfl, rfl⟩, .inr ⟨l, .inr rfl⟩⟩
  | seen evs hevs => exact ⟨rfl, fun _ => .inl rfl, ⟨evs, rfl, hevs⟩, .inl ⟨rfl, rfl⟩, .inl rfl⟩
  | schedule l schedule hk => exact absurd rfl (hk _)
  | _ => exact ⟨rfl, fun _ => .inl rfl, ⟨[], rfl, by simp⟩, .inl ⟨rfl, rfl⟩, .inl rfl⟩

theorem Harmless.untold {evs : List Event} (h : Harmless evs) : ∀ e ∈ evs, Untold e := by
  intro e he
  have hof := h e he
  unfold Untold
  cases e <;> simp_all [Event.ofAdapter, Event.ofSchedule]

theorem alone_of_adapter (h : AdapterStep p s s') : RowsAlone p s s' := by
  cases h with
  | outside hkept =>
      exact ⟨hkept.now, hkept.clock, ⟨[], hkept.log, by simp⟩, hkept.drawn, .inl hkept.schedules⟩
  | observed evs hevs hkept =>
      exact ⟨hkept.now, hkept.clock, ⟨evs, hkept.log, hevs.untold⟩, hkept.drawn, .inl hkept.schedules⟩
  | commit t ht evs hevs =>
      obtain ⟨q, l⟩ := t
      cases ht
      exact ⟨rfl, fun _ => .inl rfl, ⟨evs, rfl, hevs.untold⟩, .inl ⟨rfl, rfl⟩, .inr ⟨l, .inl rfl⟩⟩
  | rollback t ht =>
      obtain ⟨q, l⟩ := t
      cases ht
      exact ⟨rfl, fun _ => .inl rfl, ⟨[], rfl, by simp⟩, .inl ⟨rfl, rfl⟩, .inr ⟨l, .inr rfl⟩⟩

theorem QuietStep.alone (h : QuietStep p s s') : RowsAlone p s s' :=
  h.elim alone_of_worker alone_of_adapter

/-- An identifier that was drawn is not drawn again. -/
theorem RowsAlone.drawn_kept (h : RowsAlone p s s') (hinv : ScheduleInv s) :
    (∀ id q, s.drawnBy id = some q → s'.drawnBy id = some q) ∧
      ∀ id q, s'.drawnBy id = some q → id < s'.nextId := by
  rcases h.drawn with ⟨hnext, hdrawn⟩ | ⟨q, hnext, hdrawn⟩
  · rw [hnext, hdrawn]
    exact ⟨fun _ _ h => h, hinv.drawn⟩
  · rw [hnext, hdrawn]
    refine ⟨fun id q' hid => ?_, fun id q' hid => ?_⟩
    · show Function.update s.drawnBy s.nextId (some q) id = some q'
      rw [Function.update_of_ne (hinv.drawn id q' hid).ne]
      exact hid
    · show id < s.nextId + 1
      by_cases hlast : id = s.nextId
      · omega
      · have hold : s.drawnBy id = some q' := by
          rw [← hid]
          exact (Function.update_of_ne hlast _ _).symm
        exact Nat.lt_succ_of_lt (hinv.drawn id q' hold)

theorem RowsAlone.change (h : RowsAlone p s s') (mine : Prop) (w : Nat) :
    ScheduleChange p mine w (s.schedules w) (s'.schedules w) := by
  rcases h.cells with hsame | ⟨l, hcommit | hrollback⟩
  · rw [hsame]
    exact .same _
  · rw [hcommit]
    exact .commit l _
  · rw [hrollback]
    exact .rollback l _

theorem RowsAlone.act (h : RowsAlone p s s') (hinv : ScheduleInv s) : ScheduleAct p s s' := by
  obtain ⟨hkept, hbound⟩ := h.drawn_kept hinv
  refine ⟨h.now, ?_, hkept, fun w => h.change _ w, hinv.keep h.now.ge h.clock h.log
    hbound hkept fun w => ⟨p, h.change _ w⟩⟩
  obtain ⟨evs, hlog, -⟩ := h.log
  rw [hlog]
  exact List.subset_append_right _ _

theorem RowsAlone.settled (h : RowsAlone p s s') (hs : RowsSettled p s) : RowsSettled p s' := by
  intro w l hl
  rcases h.cells with hsame | ⟨l', hcommit | hrollback⟩
  · rw [hsame]
    exact hs w l hl
  · rw [hcommit]
    exact Cell.own_commit_of_nil (hs w l hl)
  · rw [hrollback]
    exact Cell.own_rollback_of_nil (hs w l hl)

theorem stable_rowsSettled : (scheduleProtocol admits).Stable p (RowsSettled p) := by
  intro s s' _ hs hother w l hl
  rw [(rest_of_other hother).own w l]
  exact hs w l hl

/-- A program that does not concern the wake-ups. -/
def KeepsRows (admits : Db → Db → Prop) (p : Nat) {α : Type} (x : Prog α) : Prop :=
  (scheduleProtocol admits).Triple p (RowsSettled p) x (fun _ => RowsSettled p) (fun _ => RowsSettled p)

theorem keepsRows_of_quiet {α : Type} {x : Prog α} (hx : Within (QuietStep p) x) :
    KeepsRows admits p x :=
  triple_of_steps hx stable_rowsSettled fun _ _ hinv hs h =>
    ⟨h.alone.act hinv, h.alone.settled hs⟩

end Quiet

/-! ### Programs that keep the rows -/

section Keeping

variable {α β : Type} {admits : Db → Db → Prop} {p l : Nat} {actor : String}

theorem keepsRows_pure (a : α) : KeepsRows admits p (pure a) := triple_pure a fun _ _ h => h

theorem keepsRows_bind {x : Prog α} {g : α → Prog β} (hx : KeepsRows admits p x)
    (hg : ∀ a, KeepsRows admits p (g a)) : KeepsRows admits p (x >>= g) := Triple.bind hx hg

theorem keepsRows_handle {x : Prog α} {g : Err → Prog α} (hx : KeepsRows admits p x)
    (hg : ∀ e, KeepsRows admits p (g e)) : KeepsRows admits p (tryCatch x g) :=
  Triple.handle hx hg

theorem keepsRows_worker {x : Prog α}
    (hx : Within (WorkerStep p Unscheduled Untold (fun _ => True)) x) : KeepsRows admits p x :=
  keepsRows_of_quiet (hx.mono fun _ _ h => .inl h)

theorem keepsRows_throw (e : Err) : KeepsRows admits p (throw e : Prog α) :=
  triple_throw e fun _ _ h => h

theorem RowsAlone.started (s : Db) (t : TxId) : RowsAlone p s (s.started t) :=
  ⟨rfl, txTime_started s t, ⟨[], rfl, by simp⟩, .inl ⟨rfl, rfl⟩, .inl rfl⟩

theorem RowsAlone.committed (s : Db) (l : Nat) {evs : List Event} (h : ∀ e ∈ evs, Untold e) :
    RowsAlone p s ((s.commit ⟨p, l⟩).record evs) :=
  ⟨rfl, fun _ => .inl rfl, ⟨evs, rfl, h⟩, .inl ⟨rfl, rfl⟩, .inr ⟨l, .inl rfl⟩⟩

theorem RowsAlone.back (s : Db) (l : Nat) : RowsAlone p s (s.rollback ⟨p, l⟩) :=
  ⟨rfl, fun _ => .inl rfl, ⟨[], rfl, by simp⟩, .inl ⟨rfl, rfl⟩, .inr ⟨l, .inr rfl⟩⟩

theorem ScheduleAct.refl {s : Db} (h : ScheduleInv s) : ScheduleAct p s s :=
  ⟨rfl, List.Subset.refl _, fun _ _ h => h, fun _ => .same _, h⟩

theorem keepsRows_unitOfWork {body : Prog α} {seen : α → List Event}
    (hbody : KeepsRows admits p body) (hseen : ∀ a, ∀ e ∈ seen a, Untold e) :
    KeepsRows admits p (unitOfWork ⟨p, l⟩ actor body seen) := by
  have hback : ∀ s, ScheduleInv s → RowsSettled p s →
      ScheduleAct p s (s.rollback ⟨p, l⟩) ∧ RowsSettled p (s.rollback ⟨p, l⟩) := fun s hinv hs =>
    ⟨(RowsAlone.back s l).act hinv, (RowsAlone.back s l).settled hs⟩
  refine triple_unitOfWork (B := RowsSettled p) (F := RowsSettled p) (M := fun _ => RowsSettled p)
    ?_ hbody (fun a => ?_) ?_ (fun _ _ h => h)
  · refine triple_beginTx stable_rowsSettled (fun s hinv _ => ScheduleAct.refl hinv)
      (fun _ _ h => h) (fun s hinv hs _ => ?_)
    exact ⟨(RowsAlone.started s _).act hinv, (RowsAlone.started (p := p) s _).settled hs⟩
  · refine triple_commitTx stable_rowsSettled (fun s hinv hs _ => hback s hinv hs)
      (fun s hinv hs _ => ?_)
    exact ⟨(RowsAlone.committed s l (hseen a)).act hinv,
      (RowsAlone.committed s l (hseen a)).settled hs⟩
  · exact triple_rollbackTx stable_rowsSettled (fun s hinv hs _ => hback s hinv hs)

theorem keepsRows_unitOfWork_unseen {body : Prog α} (hbody : KeepsRows admits p body) :
    KeepsRows admits p (unitOfWork ⟨p, l⟩ actor body) :=
  keepsRows_unitOfWork hbody fun _ _ he => absurd he List.not_mem_nil

/-! ### Inserting a wake-up -/

/-- The identifier is the process's own, and there is no row of it. -/
def FreshRow (p id : Nat) (s : Db) : Prop :=
  s.drawnBy id = some p ∧ s.schedules id = Cell.empty

/-- Only this transaction of the process may have written to the rows. -/
def SettledBut (p l : Nat) (s : Db) : Prop :=
  ∀ w l', l' ≤ 1 → l' ≠ l → (s.schedules w).own ⟨p, l'⟩ = []

theorem stable_freshRow (id : Nat) : (scheduleProtocol admits).Stable p (FreshRow p id) :=
  fun _ _ _ h hother => ⟨(rest_of_other hother).drawn _ _ h.1,
    (rest_of_other hother).empty id h.1 h.2⟩

theorem stable_settledBut : (scheduleProtocol admits).Stable p (SettledBut p l) := by
  intro s s' _ h hother w l' hl hne
  rw [(rest_of_other hother).own w l']
  exact h w l' hl hne

/-- Once the transaction has ended that may have written, all is settled. -/
theorem RowsAlone.settled_of_ended {s s' : Db} (h : RowsAlone p s s') (hbut : SettledBut p l s)
    (hself : ∀ w, (s'.schedules w).own ⟨p, l⟩ = []) : RowsSettled p s' := by
  intro w l' hl
  by_cases hl' : l' = l
  · rw [hl']
    exact hself w
  · rcases h.cells with hsame | ⟨l₁, hcommit | hrollback⟩
    · rw [hsame]
      exact hbut w l' hl hl'
    · rw [hcommit]
      exact Cell.own_commit_of_nil (hbut w l' hl hl')
    · rw [hrollback]
      exact Cell.own_rollback_of_nil (hbut w l' hl hl')

theorem ScheduleInv.fresh {s : Db} (h : ScheduleInv s) : s.drawnBy s.nextId = none := by
  cases howner : s.drawnBy s.nextId with
  | none => rfl
  | some q => exact absurd (h.drawn _ q howner) (lt_irrefl _)

theorem insertSchedule_triple (schedule : WorkflowSchedule) (hpending : schedule.status = .pending) :
    (scheduleProtocol admits).Triple p
      (fun s => RowsSettled p s ∧ FreshRow p schedule.id s) (insertSchedule ⟨p, l⟩ schedule)
      (fun _ => SettledBut p l) (fun _ => SettledBut p l) := by
  refine triple_sql (stable_rowsSettled.and (stable_freshRow _))
    (fun s hinv _ => ScheduleAct.refl hinv) (fun s _ h w l' hl _ => h.1 w l' hl) ?_
  intro s r s' hinv hR hf _
  obtain ⟨hsettled, hmine, hnone⟩ := hR
  split at hf
  swap
  · simp only [Option.some.injEq, Prod.mk.injEq] at hf
    obtain ⟨rfl, rfl⟩ := hf
    exact ⟨ScheduleAct.refl hinv, fun w l' hl _ => hsettled w l' hl⟩
  simp only [Option.some.injEq, Prod.mk.injEq] at hf
  obtain ⟨rfl, rfl⟩ := hf
  have hchange : ∀ w, ScheduleChange p (s.drawnBy w = some p) w (s.schedules w)
      (Function.update s.schedules schedule.id
        ((s.schedules schedule.id).write ⟨p, l⟩ (some schedule)) w) := by
    intro w
    by_cases hw : w = schedule.id
    · subst hw
      rw [Function.update_self, hnone]
      exact .created l schedule hmine rfl hpending
    · rw [Function.update_of_ne hw]
      exact .same _
  refine ⟨⟨rfl, List.Subset.refl _, fun _ _ h => h, hchange, ?_⟩, ?_⟩
  · exact hinv.keep (le_refl _) (fun _ => .inl rfl) ⟨[], rfl, by simp⟩ hinv.drawn
      (fun _ _ h => h) fun w => ⟨p, hchange w⟩
  · intro w l' hl hne
    show (Function.update s.schedules schedule.id _ w).own ⟨p, l'⟩ = []
    by_cases hw : w = schedule.id
    · rw [hw, Function.update_self]
      refine Cell.own_eq_nil_of_not_locked (Cell.not_locked_of_locked ?_ (Cell.locked_write _))
      exact fun heq => hne (TxId.mk.inj heq).2
    · rw [Function.update_of_ne hw]
      exact hsettled w l' hl

theorem createWorkflowSchedule_triple (i version : Nat) (nextRunAt : Int) (reason : WaitReason)
    (metadata : ResumeMetadata) :
    (scheduleProtocol admits).Triple p (RowsSettled p)
      (createWorkflowSchedule ⟨p, l⟩ i version nextRunAt reason metadata)
      (fun _ => SettledBut p l) (fun _ => SettledBut p l) := by
  refine Triple.bind (M := fun id s => RowsSettled p s ∧ FreshRow p id s) ?_ (fun id => ?_)
  · refine triple_uuid4 stable_rowsSettled fun s hinv hs _ => ?_
    have halone : RowsAlone p s (s.draw p) :=
      ⟨rfl, fun _ => .inl rfl, ⟨[], rfl, by simp⟩, .inr ⟨p, rfl, rfl⟩, .inl rfl⟩
    exact ⟨halone.act hinv, halone.settled hs, Function.update_self ..,
      hinv.undrawn _ hinv.fresh⟩
  · let schedule : WorkflowSchedule :=
      { id := id, incidentId := i, incidentVersion := version, nextRunAt := nextRunAt,
        waitReason := reason, resumeMetadata := metadata }
    exact Triple.bind (insertSchedule_triple schedule rfl)
      (fun _ => triple_pure schedule fun _ _ h => h)

theorem keepsRows_scheduleWakeup (i version : Nat) (delaySeconds : Int) (reason : WaitReason)
    (metadata : ResumeMetadata) :
    KeepsRows admits p
      (scheduleWakeup ⟨p, l⟩ actor i version delaySeconds reason metadata) := by
  refine keepsRows_bind (keepsRows_worker workerStep_datetimeNow) (fun now => ?_)
  have hback : ∀ s, ScheduleInv s → SettledBut p l s →
      ScheduleAct p s (s.rollback ⟨p, l⟩) ∧ RowsSettled p (s.rollback ⟨p, l⟩) := fun s hinv hs =>
    ⟨(RowsAlone.back s l).act hinv,
      (RowsAlone.back s l).settled_of_ended hs fun w => Cell.own_rollback_self⟩
  refine triple_unitOfWork (B := RowsSettled p) (F := SettledBut p l)
    (M := fun _ => SettledBut p l) ?_ (createWorkflowSchedule_triple _ _ _ _ _) (fun a => ?_) ?_
    (fun _ _ h => h)
  · refine triple_beginTx stable_rowsSettled (fun s hinv _ => ScheduleAct.refl hinv)
      (fun _ _ h w l' hl _ => h w l' hl) (fun s hinv hs _ => ?_)
    exact ⟨(RowsAlone.started s _).act hinv, (RowsAlone.started (p := p) s _).settled hs⟩
  · refine triple_commitTx stable_settledBut (fun s hinv hs _ => ?_) (fun s hinv hs _ => ?_)
    · obtain ⟨hact, hsettled⟩ := hback s hinv hs
      exact ⟨hact, fun w l' hl _ => hsettled w l' hl⟩
    · have halone : RowsAlone p s ((s.commit ⟨p, l⟩).record []) :=
        RowsAlone.committed s l (by simp)
      exact ⟨halone.act hinv, halone.settled_of_ended hs fun w => Cell.own_commit_self⟩
  · exact triple_rollbackTx stable_settledBut (fun s hinv hs _ => hback s hinv hs)

end Keeping

end SelfHealing
