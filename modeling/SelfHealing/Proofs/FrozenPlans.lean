/-
Approved plans are frozen.

An approved plan is not changed any more, and neither is the set of its steps, whatever other
transactions do at the same time.  A step is written with its plan locked and not approved, and the
lock is held until the transaction ends: whoever approves the plan waits for that, and whoever comes
after finds it approved (`Guarded.touched`).  That the plan of a step is there to be locked is what
the foreign keys are for.

Two locks meet here: a step is written under the plan's row, and an approval writes that row.  So
one of the two comes first, and the other sees what it has done.
-/
import SelfHealing.Proofs.AuditTrail

namespace SelfHealing

open ReadCommitted

/-! ### What is to hold

Frozen is said of one state and a later one, as a plan that was approved when it was first looked
at.
-/

/-- What the foreign keys of steps refuse: a step without its plan, and the end of a plan that has
steps. -/
structure ForeignKeys (refuses : Refusals) : Prop where
  step : ∀ view c step planId, c.new = some step → step.identifier "plan_id" = some planId →
    refuses .remediationSteps view c = false → (view .remediationPlans [planId]).isSome = true
  plan : ∀ view old planId key step, old.keyIn AuditedTable.remediationPlans.name = some [planId] →
    view .remediationSteps key = some step → step.identifier "plan_id" = some planId →
    refuses .remediationPlans view (.delete old) = true

/-- A plan and its steps, and all approvals, are in the later state what they are in the earlier
one. -/
structure Frozen (s s' : AuditedStore) (planId : String) (plan : DataDict) : Prop where
  plan : (s'.cells .remediationPlans [planId]).committed = some plan
  steps : ∀ key step, step.identifier "plan_id" = some planId →
    ((s'.cells .remediationSteps key).committed = some step ↔
      (s.cells .remediationSteps key).committed = some step)
  approvals : ∀ key approval, (s.cells .approvals key).committed = some approval →
    (s'.cells .approvals key).committed = some approval

/-! ### Rows that are not written over -/

section Cells

variable {W : Option DataDict → Option DataDict → Prop} {cell : Cell Nat DataDict} {t u : Nat}

/-- What has been written over the older versions was permitted to be. -/
theorem linked_over {newer older : List (Option DataDict)} (h : Linked W (newer ++ older))
    (hne : newer ≠ []) : ∃ v, W older.head?.join v := by
  induction newer with
  | nil => exact absurd rfl hne
  | cons v rest ih =>
      cases rest with
      | nil => exact ⟨v, h.1⟩
      | cons w rest => exact ih h.2 (List.cons_ne_nil _ _)

/-- A committed version over which nothing may be written stays the newest. -/
theorem own_eq_nil_of_sealed (h : Linked W cell.chain)
    (hsealed : ∀ v, ¬ W cell.committed v) : cell.own t = [] := by
  by_contra hne
  have hl : cell.locked t := by
    by_contra hnot
    exact hne (Cell.own_eq_nil_of_not_locked hnot)
  rw [Cell.chain_eq_view (Cell.locked_free hl)] at h
  obtain ⟨v, hv⟩ := linked_over h hne
  exact hsealed v hv

end Cells

/-- A plan is written over as long as it is not approved. -/
def OverUnapproved (old _new : Option DataDict) : Prop :=
  ∀ plan, old = some plan → plan.approved = false

/-- An approval is not written over. -/
def OverNothing (old _new : Option DataDict) : Prop := old = none

/-- What holds of plans, steps and approvals.  Who has written on a step has its plan locked, and
the plan is not approved. -/
structure Guarded (s : AuditedStore) : Prop where
  plans : ∀ planId, Linked OverUnapproved (s.cells .remediationPlans [planId]).chain
  approvals : ∀ key, Linked OverNothing (s.cells .approvals key).chain
  touched : ∀ t key step planId, (s.cells .remediationSteps key).own t ≠ [] →
    some step ∈ (s.cells .remediationSteps key).own t ∨
      (s.cells .remediationSteps key).committed = some step →
    step.identifier "plan_id" = some planId →
    (s.cells .remediationPlans [planId]).locked t ∧
      OverUnapproved (s.cells .remediationPlans [planId]).committed none
  seen : ∀ t key step planId, (s.cells .remediationSteps key).visible t = some step →
    step.identifier "plan_id" = some planId →
    ((s.cells .remediationPlans [planId]).visible t).isSome = true
  stored : ∀ key step planId, (s.cells .remediationSteps key).committed = some step →
    step.identifier "plan_id" = some planId →
    (s.cells .remediationPlans [planId]).committed.isSome = true

theorem guarded_init : Guarded {} := by
  refine ⟨fun _ => trivial, fun _ => trivial, ?_, ?_, ?_⟩
  · intro t key step planId hne
    exact absurd rfl hne
  · intro t key step planId h
    cases h
  · intro key step planId h
    cases h

section Plans

variable {s s' g : AuditedStore} {t u : Nat} {planId : String} {plan : DataDict}

/-- Nobody has written over an approved plan. -/
theorem Guarded.own_plan (h : Guarded s)
    (hplan : (s.cells .remediationPlans [planId]).committed = some plan)
    (happroved : plan.approved = true) : (s.cells .remediationPlans [planId]).own t = [] := by
  refine own_eq_nil_of_sealed (h.plans planId) ?_
  intro v hover
  rw [hover plan hplan] at happroved
  cases happroved

/-- A plan that somebody sees not approved is not committed as approved. -/
theorem Guarded.unapproved (h : Guarded s)
    (hplan : (s.cells .remediationPlans [planId]).visible t = some plan)
    (hun : plan.approved = false) :
    OverUnapproved (s.cells .remediationPlans [planId]).committed none := by
  intro plan' hplan'
  by_contra happroved
  rw [Bool.not_eq_false] at happroved
  rw [Cell.visible_eq_committed (h.own_plan hplan' happroved), hplan'] at hplan
  rw [Option.some.inj hplan, hun] at happroved
  cases happroved

theorem Guarded.unwritten (h : Guarded s) (hq : Unwritten s s') : Guarded s' := by
  have hcommitted : ∀ table key,
      (s'.cells table key).committed = (s.cells table key).committed := by
    intro table key
    unfold Cell.committed
    rw [hq.versions]
  refine ⟨?_, ?_, ?_, ?_, ?_⟩
  · intro planId
    rw [hq.chain]
    exact h.plans planId
  · intro key
    rw [hq.chain]
    exact h.approvals key
  · intro t key step planId hne hstep hid
    rw [hq.own] at hne hstep
    rw [hcommitted] at hstep
    obtain ⟨hlocked, hun⟩ := h.touched t key step planId hne hstep hid
    rw [hcommitted]
    exact ⟨hq.locked _ _ _ hlocked, hun⟩
  · intro t key step planId hstep hid
    rw [hq.visible] at hstep ⊢
    exact h.seen t key step planId hstep hid
  · intro key step planId hstep hid
    rw [hcommitted] at hstep ⊢
    exact h.stored key step planId hstep hid

/-! ### A change

A trigger locks the row of the plan and then looks whether it is approved.  So a change that was
let through has the plan locked and unapproved, and both last until its transaction ends; whoever
approves the plan has to wait for that lock.
-/

/-- What the guards have found before a change. -/
structure GuardsPassed (g : AuditedStore) (t : Nat) (table : AuditedTable) (c : RowChange) : Prop where
  plan : table = .remediationPlans → OverUnapproved c.old c.new
  approval : table = .approvals → c.old = none
  step : table = .remediationSteps → ∀ step, c.old = some step ∨ c.new = some step →
    ∀ planId, step.identifier "plan_id" = some planId →
    ∀ plan, (g.cells .remediationPlans [planId]).visible t = some plan →
    (g.cells .remediationPlans [planId]).locked t ∧ plan.approved = false

theorem lockPlan_passed {step : DataDict} (h : s.lockPlan t step = some s')
    (hid : step.identifier "plan_id" = some planId)
    (hplan : (s.cells .remediationPlans [planId]).visible t = some plan) :
    (s'.cells .remediationPlans [planId]).locked t ∧ plan.approved = false := by
  unfold AuditedStore.lockPlan at h
  rw [hid] at h
  dsimp only at h
  rw [hplan] at h
  dsimp only at h
  split at h
  · rename_i hok
    rw [Bool.and_eq_true] at hok
    cases h
    have hcell : (s.setCell .remediationPlans [planId]
        ((s.cells .remediationPlans [planId]).lock t)).cells .remediationPlans [planId] =
          (s.cells .remediationPlans [planId]).lock t := by
      simp only [AuditedStore.setCell, Function.update_self]
    rw [hcell]
    exact ⟨Cell.locked_lock, by simpa using hok.2⟩
  · cases h

theorem beforeChange_passed {table : AuditedTable} {c : RowChange}
    (h : s.beforeChange t table c = some g) : GuardsPassed g t table c := by
  refine ⟨?_, ?_, ?_⟩
  · rintro rfl plan hold
    simp only [AuditedStore.beforeChange, AuditedStore.guardPlan, hold, Option.any_some] at h
    split at h
    · cases h
    · rename_i hun
      simpa using hun
  · rintro rfl
    simp only [AuditedStore.beforeChange, AuditedStore.guardApprovalRecord] at h
    split at h
    · cases h
    · rename_i hnone
      simpa using hnone
  · rintro rfl step hstep planId hid plan hplan
    obtain ⟨s₁, hold, hnew⟩ := Option.bind_eq_some_iff.mp h
    have hlater := (elim_lockPlan_locks hnew).unwritten
    rw [hlater.visible] at hplan
    rcases hstep with hstep | hstep
    · rw [hstep] at hold
      rw [(lockPlan_locks hold).unwritten.visible] at hplan
      obtain ⟨hlocked, hun⟩ := lockPlan_passed hold hid hplan
      exact ⟨hlater.locked _ _ _ hlocked, hun⟩
    · rw [hstep] at hnew
      exact lockPlan_passed hnew hid hplan

section Change

variable {table : AuditedTable} {key : List String} {c : RowChange} {entry : AuditEntry}
  {refuses : Refusals}

theorem Changes.committed_eq (hc : Changes g s' t table key c entry) (table' : AuditedTable)
    (key' : List String) :
    (s'.cells table' key').committed = (g.cells table' key').committed := by
  by_cases hsame : table' = table ∧ key' = key
  · obtain ⟨rfl, rfl⟩ := hsame
    rw [hc.cell_same]
    rfl
  · rw [hc.cell_other hsame]

/-- What others see of a row that one changes. -/
theorem Changes.visible_other (hc : Changes g s' t table key c entry) (hne : u ≠ t)
    (table' : AuditedTable) (key' : List String) :
    (s'.cells table' key').visible u = (g.cells table' key').visible u := by
  by_cases hsame : table' = table ∧ key' = key
  · obtain ⟨rfl, rfl⟩ := hsame
    have hstep : Cell.Step (fun _ _ => True) t (g.cells table' key')
        ((g.cells table' key').write t c.new) := .write _ _ hc.free trivial
    rw [hc.cell_same]
    unfold Cell.visible Cell.view
    rw [hstep.own_eq (Ne.symm hne), Cell.write_versions]
  · rw [hc.cell_other hsame]

theorem Changes.linked (hc : Changes g s' t table key c entry)
    {W : Option DataDict → Option DataDict → Prop} {table' : AuditedTable} {key' : List String}
    (hw : table' = table ∧ key' = key → W c.old c.new) (h : Linked W (g.cells table' key').chain) :
    Linked W (s'.cells table' key').chain := by
  by_cases hsame : table' = table ∧ key' = key
  · have hover := hw hsame
    obtain ⟨rfl, rfl⟩ := hsame
    rw [hc.cell_same]
    have hstep : Cell.Step W t (g.cells table' key') ((g.cells table' key').write t c.new) := by
      refine .write _ _ hc.free ?_
      rw [hc.old]
      exact hover
    exact hstep.linked h
  · rw [hc.cell_other hsame]
    exact h

/-- The plan of a step that is locked stays so, and stays as it is committed. -/
theorem Changes.locked (hc : Changes g s' t table key c entry) {table' : AuditedTable}
    {key' : List String} (h : (g.cells table' key').locked u) :
    (s'.cells table' key').locked u := by
  by_cases hsame : table' = table ∧ key' = key
  · obtain ⟨rfl, rfl⟩ := hsame
    rw [hc.cell_same]
    obtain ⟨vs, hvs⟩ := h
    have hfree := hc.free
    simp only [Cell.free, hvs, decide_eq_true_eq] at hfree
    rw [hfree]
    exact Cell.locked_write _
  · rw [hc.cell_other hsame]
    exact h

/-- The steps that a transaction has written on, after a change that it makes to one. -/
theorem Guarded.touched_self (h : Guarded g) (hkeys : ForeignKeys refuses)
    (hc : Changes g s' t .remediationSteps key c entry)
    (hadmitted : refuses .remediationSteps (s'.view t) c = false)
    (hpassed : GuardsPassed g t .remediationSteps c) {step : DataDict}
    (hstep : some step ∈ (s'.cells .remediationSteps key).own t ∨
      (s'.cells .remediationSteps key).committed = some step)
    (hid : step.identifier "plan_id" = some planId) :
    (g.cells .remediationPlans [planId]).locked t ∧
      OverUnapproved (g.cells .remediationPlans [planId]).committed none := by
  have hplans : s'.cells .remediationPlans [planId] = g.cells .remediationPlans [planId] :=
    hc.cell_other fun hsame => by cases hsame.1
  -- the guard has locked the plan, if it was there
  have hguard : ∀ row, c.old = some row ∨ c.new = some row →
      row.identifier "plan_id" = some planId →
      ((g.cells .remediationPlans [planId]).visible t).isSome = true →
      (g.cells .remediationPlans [planId]).locked t ∧
        OverUnapproved (g.cells .remediationPlans [planId]).committed none := by
    intro row hrow hrowid hsome
    obtain ⟨plan, hplan⟩ := Option.isSome_iff_exists.mp hsome
    obtain ⟨hlocked, hun⟩ := hpassed.step rfl row hrow planId hrowid plan hplan
    exact ⟨hlocked, h.unapproved hplan hun⟩
  rw [hc.committed_eq] at hstep
  rw [hc.cell_same, Cell.own_write, List.mem_cons] at hstep
  by_cases hnew : c.new = some step
  · refine hguard step (Or.inr hnew) hid ?_
    have hview : (s'.view t .remediationPlans [planId]).isSome = true :=
      hkeys.step _ c step planId hnew hid hadmitted
    unfold AuditedStore.view at hview
    rw [hplans] at hview
    exact hview
  · have hold : some step ∈ (g.cells .remediationSteps key).own t ∨
        (g.cells .remediationSteps key).committed = some step := by
      rcases hstep with (heq | hmem) | hcommitted
      · exact absurd heq.symm hnew
      · exact Or.inl hmem
      · exact Or.inr hcommitted
    by_cases hown : (g.cells .remediationSteps key).own t = []
    · -- the first write: the committed step is the one that the guard has looked at
      rw [hown] at hold
      rcases hold with hmem | hcommitted
      · exact absurd hmem List.not_mem_nil
      · have hvisible : (g.cells .remediationSteps key).visible t = some step := by
          rw [Cell.visible_eq_committed hown]
          exact hcommitted
        refine hguard step (Or.inl ?_) hid (h.seen t key step planId hvisible hid)
        rw [← hc.old]
        exact hvisible
    · exact h.touched t key step planId hown hold hid

theorem Guarded.changed (h : Guarded g) (hrow : RowAudited g table key)
    (hkeys : ForeignKeys refuses) (hc : Changes g s' t table key c entry)
    (hadmitted : refuses table (s'.view t) c = false) (hpassed : GuardsPassed g t table c) :
    Guarded s' := by
  refine ⟨?_, ?_, ?_, ?_, ?_⟩
  · intro planId
    exact hc.linked (fun hsame => hpassed.plan hsame.1.symm) (h.plans planId)
  · intro key'
    exact hc.linked (fun hsame => hpassed.approval hsame.1.symm) (h.approvals key')
  · intro u key' step planId hne hstep hid
    rw [hc.committed_eq]
    by_cases hsame : AuditedTable.remediationSteps = table ∧ key' = key
    · obtain ⟨rfl, rfl⟩ := hsame
      by_cases hu : u = t
      · subst hu
        obtain ⟨hlocked, hun⟩ := h.touched_self hkeys hc hadmitted hpassed hstep hid
        exact ⟨hc.locked hlocked, hun⟩
      · have hwrite : Cell.Step (fun _ _ => True) t (g.cells .remediationSteps key')
            ((g.cells .remediationSteps key').write t c.new) := .write _ _ hc.free trivial
        rw [hc.cell_same, hwrite.own_eq (Ne.symm hu), own_of_free_other hc.free hu] at hne
        exact absurd rfl hne
    · rw [hc.cell_other hsame] at hne hstep
      obtain ⟨hlocked, hun⟩ := h.touched u key' step planId hne hstep hid
      exact ⟨hc.locked hlocked, hun⟩
  · intro u key' step planId hstep hid
    by_cases hu : u = t
    · subst hu
      by_cases hplan : AuditedTable.remediationPlans = table ∧ [planId] = key
      · obtain ⟨rfl, rfl⟩ := hplan
        rw [hc.cell_same, Cell.visible_write]
        cases c with
        | insert new => rfl
        | update old new => rfl
        | delete old =>
            have hrefused := hkeys.plan (s'.view u) old planId key' step
              (hc.entry_key hrow).1 hstep hid
            rw [hrefused] at hadmitted
            cases hadmitted
      · by_cases hsame : AuditedTable.remediationSteps = table ∧ key' = key
        · obtain ⟨rfl, rfl⟩ := hsame
          rw [hc.cell_same, Cell.visible_write] at hstep
          exact hkeys.step _ c step planId hstep hid hadmitted
        · rw [hc.cell_other hsame] at hstep
          rw [hc.cell_other hplan]
          exact h.seen u key' step planId hstep hid
    · rw [hc.visible_other hu] at hstep ⊢
      exact h.seen u key' step planId hstep hid
  · intro key' step planId hstep hid
    rw [hc.committed_eq] at hstep ⊢
    exact h.stored key' step planId hstep hid

end Change

/-! ### The end of a transaction

What a transaction has written while the plan was unapproved becomes committed while it still holds
the plan.
-/

section Cells

variable {cell : Cell Nat DataDict} {row : DataDict}

/-- A row that somebody else has locked is as it was. -/
theorem commit_of_locked_other (hne : u ≠ t) (h : cell.locked u) : cell.commit t = cell :=
  Cell.commit_of_not_locked (Cell.not_locked_of_locked (Ne.symm hne) h)

theorem rollback_of_locked_other (hne : u ≠ t) (h : cell.locked u) : cell.rollback t = cell :=
  Cell.rollback_of_not_locked (Cell.not_locked_of_locked (Ne.symm hne) h)

theorem rowLocked_of_own (h : cell.own u ≠ []) : cell.locked u := by
  by_contra hnot
  exact h (Cell.own_eq_nil_of_not_locked hnot)

/-- At the end of a transaction, whoever has written on a row has it locked, and the row stays as it
was. -/
theorem kept_of_own {cell' : Cell Nat DataDict} (hself : cell'.own t = [])
    (hnil : cell.own u = [] → cell'.own u = []) (hsame : u ≠ t → cell.locked u → cell' = cell)
    (h : cell'.own u ≠ []) : u ≠ t ∧ cell.locked u ∧ cell' = cell := by
  have hne : u ≠ t := by
    rintro rfl
    exact h hself
  have hlocked : cell.locked u := rowLocked_of_own fun hcell => h (hnil hcell)
  exact ⟨hne, hlocked, hsame hne hlocked⟩

theorem kept_of_own_commit (h : (cell.commit t).own u ≠ []) :
    u ≠ t ∧ cell.locked u ∧ cell.commit t = cell :=
  kept_of_own Cell.own_commit_self Cell.own_commit_of_nil commit_of_locked_other h

theorem kept_of_own_rollback (h : (cell.rollback t).own u ≠ []) :
    u ≠ t ∧ cell.locked u ∧ cell.rollback t = cell :=
  kept_of_own Cell.own_rollback_self Cell.own_rollback_of_nil rollback_of_locked_other h

theorem mem_own_of_visible (hown : cell.own u ≠ []) (h : cell.visible u = some row) :
    some row ∈ cell.own u := by
  unfold Cell.visible Cell.view at h
  cases hlist : cell.own u with
  | nil => exact absurd hlist hown
  | cons v vs =>
      rw [hlist, List.cons_append, List.head?_cons, Option.join_some] at h
      rw [h]
      exact List.mem_cons_self

/-- After a commit a transaction without writes sees what the one that committed has seen. -/
theorem visible_commit (h : (cell.commit t).own u = []) :
    (cell.commit t).visible u = cell.visible t := by
  rw [Cell.visible_eq_committed h, Cell.committed_commit]

theorem visible_rollback_other (hne : u ≠ t) :
    (cell.rollback t).visible u = cell.visible u := by
  have hstep : Cell.Step (fun _ _ => True) t cell (cell.rollback t) := .rollback _
  unfold Cell.visible Cell.view
  rw [hstep.own_eq (Ne.symm hne), Cell.rollback_versions]

end Cells

/-- A transaction that commits has seen what all the others see then, and they keep what they have
written. -/
theorem Guarded.seen_commit (h : Guarded s) {key : List String} {step : DataDict}
    (hstep : ((s.cells .remediationSteps key).commit t).visible u = some step)
    (hid : step.identifier "plan_id" = some planId) :
    (((s.cells .remediationPlans [planId]).commit t).visible u).isSome = true := by
  by_cases hown : ((s.cells .remediationSteps key).commit t).own u = []
  · rw [visible_commit hown] at hstep
    have hplan := h.seen t key step planId hstep hid
    by_cases hplanown : ((s.cells .remediationPlans [planId]).commit t).own u = []
    · rw [visible_commit hplanown]
      exact hplan
    · -- it has written on the plan, so that the step is not one that `t` has written on
      obtain ⟨hne, hplanlock, hplansame⟩ := kept_of_own_commit hplanown
      have hnone : (s.cells .remediationSteps key).own t = [] := by
        by_contra hwritten
        obtain ⟨hlocked, -⟩ := h.touched t key step planId hwritten
          (Or.inl (mem_own_of_visible hwritten hstep)) hid
        exact Cell.not_locked_of_locked hne hlocked hplanlock
      have hstepown : (s.cells .remediationSteps key).own u = [] := by
        by_contra hwritten
        rw [commit_of_locked_other hne (rowLocked_of_own hwritten)] at hown
        exact hwritten hown
      rw [Cell.visible_eq_committed hnone, ← Cell.visible_eq_committed hstepown] at hstep
      rw [hplansame]
      exact h.seen u key step planId hstep hid
  · -- it has written on the step, and has the plan locked
    obtain ⟨hne, -, hsame⟩ := kept_of_own_commit hown
    rw [hsame] at hstep hown
    obtain ⟨hlocked, -⟩ := h.touched u key step planId hown
      (Or.inl (mem_own_of_visible hown hstep)) hid
    rw [commit_of_locked_other hne hlocked]
    exact h.seen u key step planId hstep hid

theorem Guarded.commit (h : Guarded s) :
    Guarded (s.finish t (Cell.commit t) (s.unsaved t)) := by
  refine ⟨?_, ?_, ?_, fun _ _ _ _ => h.seen_commit, ?_⟩
  · intro planId
    show Linked OverUnapproved ((s.cells .remediationPlans [planId]).commit t).chain
    rw [Cell.chain_commit]
    exact h.plans planId
  · intro key
    show Linked OverNothing ((s.cells .approvals key).commit t).chain
    rw [Cell.chain_commit]
    exact h.approvals key
  · intro u key step planId hne hstep hid
    obtain ⟨hu, -, hsame⟩ := kept_of_own_commit hne
    change some step ∈ ((s.cells .remediationSteps key).commit t).own u ∨
      ((s.cells .remediationSteps key).commit t).committed = some step at hstep
    change ((s.cells .remediationSteps key).commit t).own u ≠ [] at hne
    rw [hsame] at hne hstep
    obtain ⟨hlocked, hun⟩ := h.touched u key step planId hne hstep hid
    show ((s.cells .remediationPlans [planId]).commit t).locked u ∧
      OverUnapproved ((s.cells .remediationPlans [planId]).commit t).committed none
    rw [commit_of_locked_other hu hlocked]
    exact ⟨hlocked, hun⟩
  · intro key step planId hstep hid
    change ((s.cells .remediationSteps key).commit t).committed = some step at hstep
    show ((s.cells .remediationPlans [planId]).commit t).committed.isSome = true
    rw [Cell.committed_commit] at hstep ⊢
    exact h.seen t key step planId hstep hid

theorem Guarded.rollback (h : Guarded s) : Guarded (s.finish t (Cell.rollback t) []) := by
  refine ⟨?_, ?_, ?_, ?_, ?_⟩
  · intro planId
    exact (h.plans planId).suffix Cell.chain_rollback_suffix
  · intro key
    exact (h.approvals key).suffix Cell.chain_rollback_suffix
  · intro u key step planId hne hstep hid
    obtain ⟨hu, -, hsame⟩ := kept_of_own_rollback hne
    change some step ∈ ((s.cells .remediationSteps key).rollback t).own u ∨
      ((s.cells .remediationSteps key).rollback t).committed = some step at hstep
    change ((s.cells .remediationSteps key).rollback t).own u ≠ [] at hne
    rw [hsame] at hne hstep
    obtain ⟨hlocked, hun⟩ := h.touched u key step planId hne hstep hid
    show ((s.cells .remediationPlans [planId]).rollback t).locked u ∧
      OverUnapproved ((s.cells .remediationPlans [planId]).rollback t).committed none
    rw [rollback_of_locked_other hu hlocked]
    exact ⟨hlocked, hun⟩
  · intro u key step planId hstep hid
    change ((s.cells .remediationSteps key).rollback t).visible u = some step at hstep
    show (((s.cells .remediationPlans [planId]).rollback t).visible u).isSome = true
    by_cases hu : u = t
    · subst hu
      rw [Cell.visible_eq_committed Cell.own_rollback_self, Cell.committed_rollback] at hstep ⊢
      exact h.stored key step planId hstep hid
    · rw [visible_rollback_other hu] at hstep ⊢
      exact h.seen u key step planId hstep hid
  · intro key step planId hstep hid
    change ((s.cells .remediationSteps key).rollback t).committed = some step at hstep
    show ((s.cells .remediationPlans [planId]).rollback t).committed.isSome = true
    rw [Cell.committed_rollback] at hstep ⊢
    exact h.stored key step planId hstep hid

end Plans

/-! ### Runs -/

section Run

variable {refuses : Refusals} {a : AuditStep} {s s' s'' : AuditedStore} {planId : String}
  {plan : DataDict} {t : Nat}

theorem Guarded.execute (h : Guarded s) (haudited : Audited s) (hkeys : ForeignKeys refuses) :
    Guarded (s.execute refuses a) := by
  have hcases : Outcome refuses s (s.execute refuses a) a.tx := execute_cases
  rcases hcases with hq | ⟨guarded, table, key, c, entry, hguard, hadmitted, hc⟩ | heq | heq
  · exact h.unwritten hq
  · have hlocks := (beforeChange_locks hguard).unwritten
    exact (h.unwritten hlocks).changed ((haudited.unwritten hlocks).rows table key) hkeys hc
      hadmitted (beforeChange_passed hguard)
  · rw [heq]
    exact h.commit
  · rw [heq]
    exact h.rollback

theorem Guarded.runs (h : Guarded s) (haudited : Audited s) (hkeys : ForeignKeys refuses)
    (steps : List AuditStep) : Guarded (s.runs refuses steps) := by
  induction steps generalizing s with
  | nil => exact h
  | cons a rest ih => exact ih (h.execute haudited hkeys) haudited.execute

theorem frozen_of_committed
    (heq : ∀ table key, (s'.cells table key).committed = (s.cells table key).committed)
    (hplan : (s.cells .remediationPlans [planId]).committed = some plan) :
    Frozen s s' planId plan := by
  refine ⟨?_, ?_, ?_⟩
  · rw [heq]
    exact hplan
  · intro key step _
    rw [heq]
  · intro key approval happroval
    rw [heq]
    exact happroval

/-- A commit leaves an approved plan as it is, with its steps. -/
theorem Guarded.frozen_commit (h : Guarded s)
    (hplan : (s.cells .remediationPlans [planId]).committed = some plan)
    (happroved : plan.approved = true) :
    Frozen s (s.finish t (Cell.commit t) (s.unsaved t)) planId plan := by
  refine ⟨?_, ?_, ?_⟩
  · show ((s.cells .remediationPlans [planId]).commit t).committed = some plan
    rw [Cell.committed_commit, Cell.visible_eq_committed (h.own_plan hplan happroved)]
    exact hplan
  · intro key step hid
    show ((s.cells .remediationSteps key).commit t).committed = some step ↔ _
    rw [Cell.committed_commit]
    by_cases hown : (s.cells .remediationSteps key).own t = []
    · rw [Cell.visible_eq_committed hown]
    · -- who has written on a step of the plan has found it not approved
      have hnever : ¬ (some step ∈ (s.cells .remediationSteps key).own t ∨
          (s.cells .remediationSteps key).committed = some step) := by
        intro hstep
        have hun := (h.touched t key step planId hown hstep hid).2 plan hplan
        rw [happroved] at hun
        cases hun
      refine ⟨fun hstep => ?_, fun hstep => absurd (Or.inr hstep) hnever⟩
      exact absurd (Or.inl (mem_own_of_visible hown hstep)) hnever
  · intro key approval happroval
    show ((s.cells .approvals key).commit t).committed = some approval
    have hown : (s.cells .approvals key).own t = [] := by
      refine own_eq_nil_of_sealed (h.approvals key) ?_
      intro v hover
      rw [happroval] at hover
      cases hover
    rw [Cell.committed_commit, Cell.visible_eq_committed hown]
    exact happroval

theorem Guarded.frozen (h : Guarded s)
    (hplan : (s.cells .remediationPlans [planId]).committed = some plan)
    (happroved : plan.approved = true) : Frozen s (s.execute refuses a) planId plan := by
  have hcases : Outcome refuses s (s.execute refuses a) a.tx := execute_cases
  have hlocked : ∀ {g : AuditedStore}, Unwritten s g → ∀ table key,
      (g.cells table key).committed = (s.cells table key).committed := by
    intro g hq table key
    unfold Cell.committed
    rw [hq.versions]
  rcases hcases with hq | ⟨guarded, table, key, c, entry, hguard, -, hc⟩ | heq | heq
  · exact frozen_of_committed (hlocked hq) hplan
  · refine frozen_of_committed (fun table' key' => ?_) hplan
    rw [hc.committed_eq]
    exact hlocked (beforeChange_locks hguard).unwritten table' key'
  · rw [heq]
    exact h.frozen_commit hplan happroved
  · rw [heq]
    exact frozen_of_committed (fun _ _ => Cell.committed_rollback) hplan

theorem Frozen.trans (h : Frozen s s' planId plan) (h' : Frozen s' s'' planId plan) :
    Frozen s s'' planId plan where
  plan := h'.plan
  steps key step hid := (h'.steps key step hid).trans (h.steps key step hid)
  approvals key approval happroval := h'.approvals key approval (h.approvals key approval happroval)

theorem Guarded.frozen_runs (h : Guarded s) (haudited : Audited s) (hkeys : ForeignKeys refuses)
    (hplan : (s.cells .remediationPlans [planId]).committed = some plan)
    (happroved : plan.approved = true) (steps : List AuditStep) :
    Frozen s (s.runs refuses steps) planId plan := by
  induction steps generalizing s with
  | nil => exact frozen_of_committed (fun _ _ => rfl) hplan
  | cons a rest ih =>
      have hstep : Frozen s (s.execute refuses a) planId plan := h.frozen hplan happroved
      exact hstep.trans (ih (h.execute haudited hkeys) haudited.execute hstep.plan)

end Run

/-- **An approved plan is frozen.**  Once it is committed as approved, whatever statements of any
transactions come later, those begun before included, it stays as it is and so does the set of its
steps; and no approval is changed or taken back. -/
theorem approved_plan_frozen (refuses : Refusals) (hkeys : ForeignKeys refuses)
    (steps later : List AuditStep) (planId : String) (plan : DataDict)
    (hplan : ((AuditedStore.runs refuses {} steps).cells .remediationPlans [planId]).committed =
      some plan)
    (happroved : plan.approved = true) :
    Frozen (AuditedStore.runs refuses {} steps)
      ((AuditedStore.runs refuses {} steps).runs refuses later) planId plan :=
  Guarded.frozen_runs (guarded_init.runs audited_init hkeys steps) (audited_init.runs steps) hkeys
    hplan happroved later

/-- No plan is deleted, and no step is without its plan. -/
def plansKept : Refusals := fun table view c =>
  match table, c with
  | .remediationPlans, .delete _ => true
  | .remediationSteps, c => c.new.any fun step =>
      (step.identifier "plan_id").any fun planId => (view .remediationPlans [planId]).isNone
  | _, _ => false

theorem plansKept_keys : ForeignKeys plansKept := by
  refine ⟨?_, fun _ _ _ _ _ _ _ _ => rfl⟩
  intro view c step planId hnew hid hadmitted
  simp only [plansKept, hnew, hid, Option.any_some] at hadmitted
  simpa using hadmitted

/-- A statement of a transaction, with what the database draws for it. -/
def demoStatement (tx : Nat) (statement : AuditStatement) : AuditStep :=
  ⟨tx, statement, { id := "e", createdAt := "2026-01-01T00:00:00+00:00" }⟩

/-- A plan is made and approved in one transaction, with a step that another tries to delete. -/
theorem approved_plan_frozen_deletion :
    Frozen
      (AuditedStore.runs plansKept {}
        [demoStatement 1 (.setActor "agent:planner"),
          demoStatement 1 (.insert .incidents [("id", dataText "i")]),
          demoStatement 1 (.insert .remediationPlans
            [("id", dataText "p"), ("incident_id", dataText "i"),
              ("approved", .atom (.bool false))]),
          demoStatement 1 (.insert .remediationSteps
            [("id", dataText "s"), ("plan_id", dataText "p")]),
          demoStatement 1 (.update .remediationPlans ["p"] [("approved", .atom (.bool true))]),
          demoStatement 1 .commit])
      (AuditedStore.runs plansKept
        (AuditedStore.runs plansKept {}
          [demoStatement 1 (.setActor "agent:planner"),
            demoStatement 1 (.insert .incidents [("id", dataText "i")]),
            demoStatement 1 (.insert .remediationPlans
              [("id", dataText "p"), ("incident_id", dataText "i"),
                ("approved", .atom (.bool false))]),
            demoStatement 1 (.insert .remediationSteps
              [("id", dataText "s"), ("plan_id", dataText "p")]),
            demoStatement 1 (.update .remediationPlans ["p"] [("approved", .atom (.bool true))]),
            demoStatement 1 .commit])
        [demoStatement 2 (.setActor "operator:ada"),
          demoStatement 2 (.delete .remediationSteps ["s"]), demoStatement 2 .commit])
      "p"
      [("id", dataText "p"), ("incident_id", dataText "i"), ("approved", .atom (.bool true))] :=
  approved_plan_frozen plansKept plansKept_keys _ _ "p" _ rfl rfl

end SelfHealing
