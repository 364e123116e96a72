/-
What becomes of the row of a wake-up.

A row is inserted under an identifier that was drawn for it, waiting; it is claimed once, and after
that it is not written again (`Moves`).  So when a worker has claimed it and commits, nobody had
claimed it before, and the run that an observer sees it dispatch is the only one.  The guarantee of
a worker says how far it may write to the rows (`ScheduleChange`); whatever keeps to it keeps the
invariant, unless it tells of the rows itself.

A claim is committed before the run is dispatched.  One that is rolled back leaves the row waiting,
and the next service that looks finds it so.
-/
import SelfHealing.Lib.Frames
import SelfHealing.Proofs.WorkerSteps
import SelfHealing.Workflow.Recovery

namespace SelfHealing

open Interleaving Interleaving.Protocol ReadCommitted

/-! ### One row over time -/

/-- What may be written over what. -/
def Moves : Option WorkflowSchedule → Option WorkflowSchedule → Prop
  | none, some _ => True
  | some a, some b => a.status = .pending ∧ b = { a with status := .processed }
  | _, none => False

/-- The two are one wake-up. -/
structure SameWakeup (a b : WorkflowSchedule) : Prop where
  incidentId : b.incidentId = a.incidentId
  nextRunAt : b.nextRunAt = a.nextRunAt

section Linked

variable {l l' : List (Option WorkflowSchedule)}

/-- What has been claimed is not written again. -/
theorem linked_processed (h : Linked Moves l) (hs : l' <:+ l) {row : WorkflowSchedule}
    (hrow : l'.head?.join = some row) (hprocessed : row.status = .processed) : l' = l := by
  induction l with
  | nil => exact List.suffix_nil.mp hs
  | cons v rest ih =>
      rcases List.suffix_cons_iff.mp hs with heq | hsuf
      · exact heq
      · have hrest := ih h.2 hsuf
        subst hrest
        have hmove := h.1
        rw [hrow] at hmove
        cases v with
        | none => exact hmove.elim
        | some b =>
            have hpending : row.status = .pending := hmove.1
            rw [hprocessed] at hpending
            cases hpending

/-- The newest version is of the same wake-up as any other. -/
theorem linked_newest (h : Linked Moves l) {a : WorkflowSchedule} (ha : some a ∈ l) :
    ∃ b, l.head?.join = some b ∧ SameWakeup a b := by
  induction l with
  | nil => cases ha
  | cons v rest ih =>
      rcases List.mem_cons.mp ha with rfl | hrest
      · exact ⟨a, rfl, rfl, rfl⟩
      · obtain ⟨b, hb, hsame⟩ := ih h.2 hrest
        have hmove := h.1
        rw [hb] at hmove
        cases v with
        | none => exact hmove.elim
        | some c =>
            obtain ⟨-, rfl⟩ := hmove
            exact ⟨_, rfl, hsame.incidentId, hsame.nextRunAt⟩

end Linked

/-- What process `p` may do to the row `w`; it may insert it if the identifier is its own. -/
inductive ScheduleChange (p : Nat) (mine : Prop) (w : Nat) :
    Cell TxId WorkflowSchedule → Cell TxId WorkflowSchedule → Prop
  | same (c : Cell TxId WorkflowSchedule) : ScheduleChange p mine w c c
  | created (l : Nat) (row : WorkflowSchedule) (hmine : mine) (hid : row.id = w)
      (hpending : row.status = .pending) :
      ScheduleChange p mine w Cell.empty (Cell.empty.write ⟨p, l⟩ (some row))
  | claimed (l : Nat) (c : Cell TxId WorkflowSchedule) (row : WorkflowSchedule)
      (hfree : c.free ⟨p, l⟩ = true) (hrow : c.visible ⟨p, l⟩ = some row)
      (hpending : row.status = .pending) :
      ScheduleChange p mine w c (c.write ⟨p, l⟩ (some { row with status := .processed }))
  | commit (l : Nat) (c : Cell TxId WorkflowSchedule) : ScheduleChange p mine w c (c.commit ⟨p, l⟩)
  | rollback (l : Nat) (c : Cell TxId WorkflowSchedule) :
      ScheduleChange p mine w c (c.rollback ⟨p, l⟩)

section Change

variable {p w : Nat} {mine : Prop} {c c' : Cell TxId WorkflowSchedule}

theorem ScheduleChange.step (h : ScheduleChange p mine w c c') :
    ∃ l, Cell.Step Moves ⟨p, l⟩ c c' := by
  cases h with
  | same => exact ⟨0, Cell.Step.same _⟩
  | created l row hmine hid hpending =>
      exact ⟨l, Cell.Step.write _ _ Cell.free_empty (by rw [Cell.visible_empty]; trivial)⟩
  | claimed l c row hfree hrow hpending =>
      exact ⟨l, Cell.Step.write _ _ hfree (by rw [hrow]; exact ⟨hpending, rfl⟩)⟩
  | commit l => exact ⟨l, Cell.Step.commit _⟩
  | rollback l => exact ⟨l, Cell.Step.rollback _⟩

theorem ScheduleChange.linked (h : ScheduleChange p mine w c c') (hc : Linked Moves c.chain) :
    Linked Moves c'.chain := by
  obtain ⟨l, hstep⟩ := h.step
  exact hstep.linked hc

theorem ScheduleChange.versions_suffix (h : ScheduleChange p mine w c c') :
    c.versions <:+ c'.versions := by
  obtain ⟨l, hstep⟩ := h.step
  exact hstep.versions_suffix

/-- Another process does not touch what one has written. -/
theorem ScheduleChange.own_eq (h : ScheduleChange p mine w c c') {t : TxId} (ht : t.pid ≠ p) :
    c'.own t = c.own t := by
  obtain ⟨l, hstep⟩ := h.step
  exact hstep.own_eq fun heq => ht (congrArg TxId.pid heq).symm

/-- A row that is not there is inserted by the one only whose identifier it has. -/
theorem ScheduleChange.empty (h : ScheduleChange p mine w Cell.empty c') (hmine : ¬ mine) :
    c' = Cell.empty := by
  cases h with
  | same => rfl
  | created l row hm hid hpending => exact absurd hm hmine
  | claimed l c row hfree hrow hpending =>
      rw [Cell.visible_empty] at hrow
      cases hrow
  | commit l => rfl
  | rollback l => rfl

theorem ScheduleChange.keyed (h : ScheduleChange p mine w c c')
    (hc : ∀ row, some row ∈ c.chain → row.id = w) :
    ∀ row, some row ∈ c'.chain → row.id = w := by
  intro row hrow
  cases h with
  | same => exact hc row hrow
  | created l' new hmine hid hpending =>
      rw [Cell.chain_eq_view (Cell.locked_free (Cell.locked_write _))] at hrow
      unfold Cell.view at hrow
      rw [Cell.own_write, Cell.own_of_free rfl] at hrow
      rw [← Option.some.inj (List.mem_singleton.mp hrow)] at hid
      exact hid
  | claimed l' c old hfree hold hpending =>
      rw [Cell.chain_eq_view (Cell.locked_free (Cell.locked_write _))] at hrow
      unfold Cell.view at hrow
      rw [Cell.own_write, Cell.write_versions, List.cons_append] at hrow
      rcases List.mem_cons.mp hrow with heq | hrest
      · rw [Option.some.inj heq]
        exact hc old (Cell.mem_chain_of_view (Cell.visible_mem hold))
      · exact hc row (Cell.mem_chain_of_view hrest)
  | commit l' =>
      rw [Cell.chain_commit] at hrow
      exact hc row hrow
  | rollback l' => exact hc row (Cell.chain_rollback_suffix.mem hrow)

end Change

/-! ### The invariant

A dispatch that was seen is of a row whose newest version is claimed, and a row is claimed once.
So a second dispatch of it could only come from the transaction that has claimed it, and that one
has ended.
-/

/-- An event that tells of a wake-up. -/
def Event.ofSchedule : Event → Bool
  | .dispatched _ _ _ | .completed _ _ _ | .abandoned _ _ _ => true
  | _ => false

/-- The event tells that the run for this wake-up is to follow. -/
def Event.dispatches (w : Nat) : Event → Bool
  | .dispatched _ w' _ => decide (w' = w)
  | _ => false

structure ScheduleInv (s : Db) : Prop where
  clock : ∀ t, s.txTime t ≤ s.now
  drawn : ∀ id q, s.drawnBy id = some q → id < s.nextId
  undrawn : ∀ w, s.drawnBy w = none → s.schedules w = Cell.empty
  linked : ∀ w, Linked Moves (s.schedules w).chain
  keyed : ∀ w row, some row ∈ (s.schedules w).chain → row.id = w
  dispatched : ∀ q w i, .dispatched q w i ∈ s.log → ∃ row, (s.schedules w).committed = some row ∧
    row.status = .processed ∧ row.incidentId = i ∧ row.nextRunAt ≤ s.now
  once : ∀ w, s.log.countP (Event.dispatches w) ≤ 1
  told : ∀ q w i, .completed q w i ∈ s.log ∨ .abandoned q w i ∈ s.log →
    .dispatched q w i ∈ s.log

section Invariant

variable {s s' : Db} {p w : Nat}

/-- **Whatever keeps to the rows keeps the invariant**, if it tells nothing of them. -/
theorem ScheduleInv.keep (h : ScheduleInv s) (hnow : s.now ≤ s'.now)
    (hclock : ∀ t, s'.txTime t = s.txTime t ∨ s'.txTime t = s.now)
    (hlog : ∃ evs, s'.log = evs ++ s.log ∧ ∀ e ∈ evs, e.ofSchedule = false)
    (hdrawn : ∀ id q, s'.drawnBy id = some q → id < s'.nextId)
    (hkept : ∀ id q, s.drawnBy id = some q → s'.drawnBy id = some q)
    (hcells : ∀ w, ∃ q, ScheduleChange q (s.drawnBy w = some q) w (s.schedules w)
      (s'.schedules w)) : ScheduleInv s' := by
  obtain ⟨evs, hlog, hquiet⟩ := hlog
  have hmem : ∀ e, e.ofSchedule = true → e ∈ s'.log → e ∈ s.log := by
    intro e htells he
    rw [hlog] at he
    rcases List.mem_append.mp he with he | he
    · rw [hquiet e he] at htells
      cases htells
    · exact he
  refine ⟨?_, hdrawn, ?_, ?_, ?_, ?_, ?_, ?_⟩
  · intro t
    rcases hclock t with heq | heq
    · rw [heq]
      exact (h.clock t).trans hnow
    · rw [heq]
      exact hnow
  · intro w hnone
    have hold : s.drawnBy w = none := by
      cases howner : s.drawnBy w with
      | none => rfl
      | some q => rw [hkept w q howner] at hnone; cases hnone
    obtain ⟨q, hchange⟩ := hcells w
    rw [h.undrawn w hold] at hchange
    exact hchange.empty (by rw [hold]; simp)
  · intro w
    obtain ⟨q, hchange⟩ := hcells w
    exact hchange.linked (h.linked w)
  · intro w
    obtain ⟨q, hchange⟩ := hcells w
    exact hchange.keyed (h.keyed w)
  · intro q w i hseen
    obtain ⟨row, hrow, hprocessed, hincident, hdue⟩ :=
      h.dispatched q w i (hmem _ rfl hseen)
    obtain ⟨q', hchange⟩ := hcells w
    -- the committed version is the last of the chain, and stays the committed one
    have hsame := linked_processed ((hchange.linked (h.linked w)).suffix
      (Cell.versions_suffix_chain _)) hchange.versions_suffix hrow hprocessed
    refine ⟨row, ?_, hprocessed, hincident, hdue.trans hnow⟩
    unfold Cell.committed
    rw [← hsame]
    exact hrow
  · intro w
    have hnone : evs.countP (Event.dispatches w) = 0 := by
      rw [List.countP_eq_zero]
      intro e he hdispatches
      have := hquiet e he
      cases e <;> simp_all [Event.dispatches, Event.ofSchedule]
    rw [hlog, List.countP_append, hnone, Nat.zero_add]
    exact h.once w
  · intro q w i hseen
    rw [hlog]
    refine List.mem_append_right _ (h.told q w i ?_)
    exact hseen.imp (hmem _ rfl) (hmem _ rfl)

/-- A wake-up that has been claimed but not committed has not been dispatched. -/
theorem ScheduleInv.not_dispatched (h : ScheduleInv s) {t : TxId}
    (hown : (s.schedules w).own t ≠ []) (q i : Nat) : .dispatched q w i ∉ s.log := by
  intro hseen
  obtain ⟨row, hrow, hprocessed, -⟩ := h.dispatched q w i hseen
  have hlocked : (s.schedules w).locked t := by
    by_contra hnot
    exact hown (Cell.own_eq_nil_of_not_locked hnot)
  have hchain := Cell.chain_eq_view (Cell.locked_free hlocked)
  have hsame := linked_processed (h.linked w) (Cell.versions_suffix_chain _) hrow hprocessed
  rw [hchain] at hsame
  unfold Cell.view at hsame
  exact hown (List.append_left_eq_self.mp hsame.symm)

/-- The run for a wake-up is dispatched that nobody has dispatched. -/
theorem ScheduleInv.dispatch (h : ScheduleInv s) {q i : Nat} {row : WorkflowSchedule}
    (hrow : (s.schedules w).committed = some row) (hprocessed : row.status = .processed)
    (hincident : row.incidentId = i) (hdue : row.nextRunAt ≤ s.now)
    (hnone : ∀ q i, .dispatched q w i ∉ s.log) :
    ScheduleInv (s.record [.dispatched q w i]) := by
  refine ⟨h.clock, h.drawn, h.undrawn, h.linked, h.keyed, ?_, ?_, ?_⟩
  · intro q' w' i' hseen
    rcases List.mem_cons.mp hseen with heq | hseen
    · obtain ⟨rfl, rfl, rfl⟩ := Event.dispatched.inj heq
      exact ⟨row, hrow, hprocessed, hincident, hdue⟩
    · exact h.dispatched q' w' i' hseen
  · intro w'
    show List.countP _ (.dispatched q w i :: s.log) ≤ 1
    rw [List.countP_cons]
    by_cases hw : w = w'
    · subst hw
      have hzero : s.log.countP (Event.dispatches w) = 0 := by
        rw [List.countP_eq_zero]
        intro e he hdispatches
        cases e with
        | dispatched q' w' i' =>
            rw [Event.dispatches, decide_eq_true_eq] at hdispatches
            exact hnone q' i' (hdispatches ▸ he)
        | _ => cases hdispatches
      rw [hzero]
      simp [Event.dispatches]
    · simpa [Event.dispatches, hw] using h.once w'
  · intro q' w' i' hseen
    refine List.mem_cons_of_mem _ (h.told q' w' i' ?_)
    exact hseen.imp (fun hmem => (List.mem_cons.mp hmem).resolve_left (by simp))
      (fun hmem => (List.mem_cons.mp hmem).resolve_left (by simp))

/-- What has become of the run is told by the one who has dispatched it. -/
theorem ScheduleInv.tell (h : ScheduleInv s) {q i : Nat} {e : Event}
    (he : e = .completed q w i ∨ e = .abandoned q w i) (hseen : .dispatched q w i ∈ s.log) :
    ScheduleInv (s.record [e]) := by
  have hnot : ∀ q' w' i', Event.dispatched q' w' i' ≠ e := by
    intro q' w' i' heq
    rcases he with rfl | rfl <;> cases heq
  refine ⟨h.clock, h.drawn, h.undrawn, h.linked, h.keyed, ?_, ?_, ?_⟩
  · intro q' w' i' hmem
    exact h.dispatched q' w' i' ((List.mem_cons.mp hmem).resolve_left (hnot q' w' i'))
  · intro w'
    show List.countP _ (e :: s.log) ≤ 1
    rw [List.countP_cons]
    have hzero : Event.dispatches w' e = false := by
      rcases he with rfl | rfl <;> rfl
    simpa [hzero] using h.once w'
  · intro q' w' i' htold
    refine List.mem_cons_of_mem _ ?_
    rcases htold with htold | htold
    · rcases List.mem_cons.mp htold with heq | hold
      · rcases he with rfl | rfl
        · obtain ⟨rfl, rfl, rfl⟩ := Event.completed.inj heq
          exact hseen
        · cases heq
      · exact h.told q' w' i' (.inl hold)
    · rcases List.mem_cons.mp htold with heq | hold
      · rcases he with rfl | rfl
        · cases heq
        · obtain ⟨rfl, rfl, rfl⟩ := Event.abandoned.inj heq
          exact hseen
      · exact h.told q' w' i' (.inr hold)

end Invariant

/-! ### The protocol -/

/-- What one step of a worker can do. -/
structure ScheduleAct (p : Nat) (s s' : Db) : Prop where
  now : s'.now = s.now
  log : s.log ⊆ s'.log
  drawn : ∀ id q, s.drawnBy id = some q → s'.drawnBy id = some q
  cells : ∀ w, ScheduleChange p (s.drawnBy w = some p) w (s.schedules w) (s'.schedules w)
  inv : ScheduleInv s'

section Protocol

variable {s s' : Db} {p : Nat}

theorem ScheduleInv.crash (h : ScheduleInv s) (p : Nat) : ScheduleInv (s.crash p) := by
  have hback : ∀ {s : Db} (l : Nat), ScheduleInv s → ScheduleInv (s.rollback ⟨p, l⟩) := by
    intro s l h
    exact h.keep (le_refl _) (fun _ => .inl rfl) ⟨[], rfl, by simp⟩ h.drawn (fun _ _ h => h)
      (fun w => ⟨p, .rollback l _⟩)
  refine (hback 1 (hback 0 h)).keep (le_refl _) (fun _ => .inl rfl) ⟨[.crashed p], rfl, ?_⟩ h.drawn
    (fun _ _ h => h) (fun w => ⟨p, .same _⟩)
  intro e he
  rw [List.mem_singleton.mp he]
  rfl

/-- Nothing beside the workers touches the rows. -/
theorem schedules_of_env {e : WorkerEnv} (henv : e.apply s = some s') :
    s.now ≤ s'.now ∧ s'.txTime = s.txTime ∧ s'.log = s.log ∧ s.nextId ≤ s'.nextId ∧
      s'.drawnBy = s.drawnBy ∧ s'.schedules = s.schedules := by
  cases e with
  | tick elapsed =>
      cases henv
      exact ⟨Int.le_add_of_nonneg_right (Int.natCast_nonneg elapsed), rfl, rfl, le_refl _, rfl,
        rfl⟩
  | control c =>
      cases henv
      exact ⟨le_refl _, rfl, rfl, le_refl _, rfl, rfl⟩
  | decided i approval =>
      simp only [WorkerEnv.apply, Db.decide] at henv
      split at henv
      · cases henv
      · split at henv
        · cases henv
          exact ⟨le_refl _, rfl, rfl, le_refl _, rfl, rfl⟩
        · cases henv
  | opened incident =>
      simp only [WorkerEnv.apply] at henv
      split at henv
      · cases henv
        exact ⟨le_refl _, rfl, rfl, Nat.le_succ _, rfl, rfl⟩
      · cases henv
  | bound resource =>
      cases henv
      exact ⟨le_refl _, rfl, rfl, le_refl _, rfl, rfl⟩

theorem ScheduleInv.env (h : ScheduleInv s) {e : WorkerEnv} (henv : e.apply s = some s') :
    ScheduleInv s' := by
  obtain ⟨hnow, hclock, hlog, hnext, hdrawn, hcells⟩ := schedules_of_env henv
  refine h.keep hnow (fun t => .inl (by rw [hclock])) ⟨[], hlog, by simp⟩ ?_ ?_ ?_
  · intro id q hid
    rw [hdrawn] at hid
    exact lt_of_lt_of_le (h.drawn id q hid) hnext
  · intro id q hid
    rw [hdrawn]
    exact hid
  · intro w
    rw [hcells]
    exact ⟨0, .same _⟩

variable (admits : Db → Db → Prop)

def scheduleProtocol : Protocol World WorkerTask WorkerEnv Db where
  machine := workerMachine admits
  guar := ScheduleAct
  inv := ScheduleInv
  inv_guar := fun _ _ _ _ h _ => h.inv
  inv_crash := fun p _ h => h.crash p
  inv_env := fun _ _ _ h henv _ => h.env henv

variable {admits}

/-- What the others leave as it is. -/
structure ScheduleRest (p : Nat) (s s' : Db) : Prop where
  now : s.now ≤ s'.now
  log : s.log ⊆ s'.log
  drawn : ∀ id q, s.drawnBy id = some q → s'.drawnBy id = some q
  own : ∀ w l, (s'.schedules w).own ⟨p, l⟩ = (s.schedules w).own ⟨p, l⟩
  versions : ∀ w, (s.schedules w).versions <:+ (s'.schedules w).versions
  empty : ∀ w, s.drawnBy w = some p → s.schedules w = Cell.empty → s'.schedules w = Cell.empty

theorem rest_of_other (h : (scheduleProtocol admits).Other p s s') : ScheduleRest p s s' := by
  cases h with
  | proc q hne hguar hadm =>
      have hact : ScheduleAct q s s' := hguar
      refine ⟨hact.now.ge, hact.log, hact.drawn, fun w l => ?_, fun w => ?_, fun w hmine hnone => ?_⟩
      · exact (hact.cells w).own_eq fun heq => hne heq.symm
      · exact (hact.cells w).versions_suffix
      · have hchange := hact.cells w
        rw [hnone] at hchange
        exact hchange.empty fun hother => hne (Option.some.inj (hother.symm.trans hmine))
  | crash q s hne =>
      have hcell : ∀ w, (s.crash q).schedules w =
          ((s.schedules w).rollback ⟨q, 0⟩).rollback ⟨q, 1⟩ := fun _ => rfl
      refine ⟨le_refl _, List.subset_cons_self _ _, fun _ _ h => h, fun w l => ?_, fun w => ?_,
        fun w _ hnone => ?_⟩
      · have hother : ∀ l', (⟨q, l'⟩ : TxId) ≠ ⟨p, l⟩ := fun l' heq => hne (TxId.mk.inj heq).1
        show ((s.crash q).schedules w).own _ = _
        rw [hcell, (Cell.Step.rollback (W := Moves) _).own_eq (hother 1),
          (Cell.Step.rollback (W := Moves) _).own_eq (hother 0)]
      · show _ <:+ ((s.crash q).schedules w).versions
        rw [hcell, Cell.rollback_versions, Cell.rollback_versions]
      · show (s.crash q).schedules w = _
        rw [hcell, hnone]
        rfl
  | env e henv hadm =>
      obtain ⟨hnow, -, hlog, -, hdrawn, hcells⟩ := schedules_of_env henv
      refine ⟨hnow, ?_, ?_, fun w l => ?_, fun w => ?_, fun w _ hnone => ?_⟩
      · rw [hlog]
        exact List.Subset.refl _
      · rw [hdrawn]
        exact fun _ _ h => h
      all_goals rw [hcells]
      exact hnone

end Protocol

end SelfHealing
