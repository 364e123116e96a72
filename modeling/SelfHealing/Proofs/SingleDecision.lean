/-
One decision on each version of a plan.

Two requests can both find that nothing has been decided.  What decides between them is the
incident: a request records its decision and moves the incident in one transaction, from the row
that it read first, and so whoever comes second finds the row gone.  `Wins` says what a transaction
that has recorded a decision holds in its hands when it commits.

The table of decisions has no index that would keep a second one out.  It is the version of the
incident that does, and it does so only for transactions that write both.
-/
import SelfHealing.Approvals
import SelfHealing.Proofs.Repository
import SelfHealing.Proofs.WorkerSteps

namespace SelfHealing

open Interleaving Interleaving.Protocol Interleaving.Prog ReadCommitted

/-! ### What a request holds

Either nothing of the decision is written yet, or the transaction holds the decision and the
incident.
-/

/-- The decisions that the transaction of `p` has recorded. -/
def Db.newApprovals (p : Nat) (s : Db) : List Approval :=
    (s.added ⟨p, 0⟩).filterMap NewRow.approval?

/-- The transaction of `p` has written no incident and no other row. -/
structure Clean (p : Nat) (s : Db) : Prop where
  added : s.added ⟨p, 0⟩ = []
  incidents : ∀ i, (s.incidents i).own ⟨p, 0⟩ = []

/-- The transaction of `p` has recorded the first decision on a version of a plan, and has moved
its incident from `r`, where it waits, to `r'`. -/
structure Wins (p : Nat) (a : Approval) (i : Nat) (r r' : Incident) (s : Db) : Prop where
  approval : s.newApprovals p = [a]
  plans : (s.added ⟨p, 0⟩).filterMap NewRow.plan? = []
  fresh : ∀ b ∈ s.approvals, b.isFor a.planId a.planVersion = false
  plan : ∃ plan ∈ s.plans, plan.id = a.planId ∧ plan.incidentId = i
  before : (s.incidents i).committed = some r
  waiting : r.state = .pendingApproval
  after : (s.incidents i).own ⟨p, 0⟩ = [some r']
  moved : r'.state = a.decision.outcome
  version : r'.version = r.version + 1
  only : ∀ j, j ≠ i → (s.incidents j).own ⟨p, 0⟩ = []

/-- What has to be in order before a request commits. -/
def Decided (p : Nat) (s : Db) : Prop := Clean p s ∨ ∃ a i r r', Wins p a i r r' s

/-- The identifier of a plan tells its incident, and there is at most one decision on each version
of a plan. -/
structure DecisionInv (s : Db) : Prop where
  repo : RepoInv s
  plans : ∀ a ∈ s.plans, ∀ b ∈ s.plans, a.id = b.id → a.incidentId = b.incidentId
  single : ∀ planId planVersion,
    (s.approvals.filter (Approval.isFor planId planVersion)).length ≤ 1

/-! ### One step

A commit with a decision moves the incident from the row that was read.  If two transactions hold a
decision each, the one that commits first leaves the other with a write over a row that is not
there any more, and so the second is refused.
-/

theorem Clean.plans_commit {p : Nat} {s : Db} (h : Clean p s) :
    (s.commit ⟨p, 0⟩).plans = s.plans ∧ (s.commit ⟨p, 0⟩).approvals = s.approvals := by
  simp [Db.commit, h.added]

theorem Wins.plans_commit {p i : Nat} {a : Approval} {r r' : Incident} {s : Db}
    (h : Wins p a i r r' s) :
    (s.commit ⟨p, 0⟩).plans = s.plans ∧ (s.commit ⟨p, 0⟩).approvals = a :: s.approvals := by
  refine ⟨?_, ?_⟩
  · show (s.added ⟨p, 0⟩).filterMap NewRow.plan? ++ s.plans = s.plans
    rw [h.plans, List.nil_append]
  · show (s.added ⟨p, 0⟩).filterMap NewRow.approval? ++ s.approvals = a :: s.approvals
    have hnew : (s.added ⟨p, 0⟩).filterMap NewRow.approval? = [a] := h.approval
    rw [hnew, List.singleton_append]

/-- **What a step of a request does to plans and decisions**: nothing, or it commits the first
decision. -/
theorem RepoStep.decides {p : Nat} {s s' : Db} (h : RepoStep Decided p s s') :
    s'.plans = s.plans ∧ (s'.approvals = s.approvals ∨
      ∃ a i r r' evs, Wins p a i r r' s ∧ s' = (s.commit ⟨p, 0⟩).record evs) := by
  cases h with
  | idle h => exact ⟨h.plans, Or.inl h.approvals⟩
  | insert r hnew hunused hopen => exact ⟨rfl, Or.inl rfl⟩
  | update i q r hfree hvis hw => exact ⟨rfl, Or.inl rfl⟩
  | post o e hunused => exact ⟨rfl, Or.inl rfl⟩
  | add row => exact ⟨rfl, Or.inl rfl⟩
  | commit evs hdue =>
      rcases hdue with hclean | ⟨a, i, r, r', hwins⟩
      · exact ⟨hclean.plans_commit.1, Or.inl hclean.plans_commit.2⟩
      · exact ⟨hwins.plans_commit.1, Or.inr ⟨a, i, r, r', evs, hwins, rfl⟩⟩
  | rollback => exact ⟨rfl, Or.inl rfl⟩

theorem filter_fresh {l : List Approval} {a : Approval} {planId planVersion : Nat}
    (hfresh : ∀ b ∈ l, b.isFor a.planId a.planVersion = false)
    (ha : a.isFor planId planVersion = true) :
    l.filter (Approval.isFor planId planVersion) = [] := by
  simp only [Approval.isFor, Bool.and_eq_true, decide_eq_true_eq] at ha
  rw [List.filter_eq_nil_iff]
  intro b hb
  rw [← ha.1, ← ha.2, hfresh b hb]
  simp

theorem DecisionInv.step {p : Nat} {s s' : Db} (hinv : DecisionInv s)
    (h : RepoStep Decided p s s') : DecisionInv s' := by
  obtain ⟨hplans, hcases⟩ := h.decides
  refine ⟨hinv.repo.step h, ?_, ?_⟩
  · rw [hplans]
    exact hinv.plans
  · intro planId planVersion
    rcases hcases with hsame | ⟨a, i, r, r', evs, hwins, rfl⟩
    · rw [hsame]
      exact hinv.single planId planVersion
    · show ((s.commit ⟨p, 0⟩).approvals.filter (Approval.isFor planId planVersion)).length ≤ 1
      rw [hwins.plans_commit.2, List.filter_cons]
      by_cases ha : a.isFor planId planVersion = true
      · rw [if_pos ha, filter_fresh hwins.fresh ha]
        exact Nat.le_refl 1
      · rw [if_neg ha]
        exact hinv.single planId planVersion

theorem DecisionInv.crash {s : Db} (hinv : DecisionInv s) (p : Nat) : DecisionInv (s.crash p) :=
  ⟨hinv.repo.crash p, hinv.plans, hinv.single⟩

/-! ### What others do -/

/-- A move of an incident by somebody else. -/
structure MovedBy (i : Nat) (row row' : Incident) (s s' : Db) : Prop where
  idle : (s.incidents i).pending = none
  old : (s.incidents i).committed = some row
  write : IncidentWrite (some row) (some row')
  result : s' = s.setIncident i ⟨some row' :: (s.incidents i).versions, none⟩

/-- **What happens beside the requests.** -/
theorem approvalEnv_cases {e : ApprovalEnv} {s s' : Db} (h : e.apply s = some s') :
    (∃ elapsed, s' = { s with now := s.now + elapsed }) ∨
      (∃ i row row', MovedBy i row row' s s') ∨
      (∃ plan, (∀ other ∈ s.plans, other.id ≠ plan.id) ∧
        s' = { s with plans := plan :: s.plans }) := by
  cases e with
  | elapse elapsed =>
      simp only [ApprovalEnv.apply, Option.some.injEq] at h
      exact Or.inl ⟨elapsed, h.symm⟩
  | moved i target =>
      simp only [ApprovalEnv.apply] at h
      split at h
      · rename_i row hidle hrow
        split at h
        · rename_i hok
          simp only [Option.some.injEq] at h
          have hadm := (admitted_of_ok hok).2
          exact Or.inr (Or.inl ⟨i, row, _, hidle, hrow, IncidentWrite.move row s.now target hadm,
            h.symm⟩)
        · simp at h
      · simp at h
  | planned plan =>
      simp only [ApprovalEnv.apply] at h
      split at h
      · simp at h
      · rename_i hnew
        simp only [Option.some.injEq] at h
        refine Or.inr (Or.inr ⟨plan, ?_, h.symm⟩)
        intro other hother heq
        exact hnew (List.any_eq_true.mpr ⟨other, hother, by simpa using heq⟩)

theorem MovedBy.lt {i : Nat} {row row' : Incident} {s s' : Db} (hinv : RepoInv s)
    (h : MovedBy i row row' s s') : i < s.nextId := by
  by_contra hge
  have hempty := (hinv.fresh i (by omega)).1
  have hold := h.old
  rw [hempty] at hold
  simp at hold

theorem MovedBy.repoInv {i : Nat} {row row' : Incident} {s s' : Db} (hinv : RepoInv s)
    (h : MovedBy i row row' s s') : RepoInv s' := by
  have hlt := h.lt hinv
  rw [h.result]
  refine ⟨hinv.drawn, ?_, ?_⟩
  · intro id hid
    exact ⟨fresh_update (fun id hid => (hinv.fresh id hid).1) hlt id hid, (hinv.fresh id hid).2⟩
  · intro j
    by_cases hj : j = i
    · subst hj
      have hrise := (hinv.rising j).suffix (Cell.versions_suffix_chain _)
      simp only [Db.setIncident, Function.update_self]
      refine ⟨?_, hrise⟩
      have hold : (s.incidents j).versions.head?.join = some row := h.old
      rw [hold]
      exact h.write.rises
    · simp only [Db.setIncident, Function.update_of_ne hj]
      exact hinv.rising j

theorem MovedBy.aside {p i : Nat} {row row' : Incident} {s s' : Db} (h : MovedBy i row row' s s') :
    Aside p s s' := by
  rw [h.result]
  refine ⟨?_, fun _ => Relation.ReflTransGen.refl, fun _ _ => rfl, ?_⟩
  · intro j
    by_cases hj : j = i
    · subst hj
      simp only [Db.setIncident, Function.update_self]
      -- the move is a write and a commit of some other transaction
      have hfree : (s.incidents j).free ⟨p + 1, 0⟩ = true := by simp [Cell.free, h.idle]
      have hnot : ¬ (⟨p + 1, 0⟩ : TxId).pid = p := by simp
      have hwrite : Cell.Others (fun _ _ => True) (fun t => t.pid = p) (s.incidents j)
          ((s.incidents j).write ⟨p + 1, 0⟩ (some row')) :=
        (Cell.Step.write _ _ hfree trivial).others hnot
      have hcommit : ((s.incidents j).write ⟨p + 1, 0⟩ (some row')).commit ⟨p + 1, 0⟩ =
          ⟨some row' :: (s.incidents j).versions, none⟩ := by
        simp [Cell.commit, Cell.write, Cell.own, h.idle]
      rw [← hcommit]
      exact hwrite.trans ((Cell.Step.commit _).others hnot)
    · simp only [Db.setIncident, Function.update_of_ne hj]
      exact Relation.ReflTransGen.refl
  · intro id hid
    have hne : id ≠ i := by
      intro heq
      have hold := h.old
      rw [← heq, hid.incident] at hold
      simp at hold
    refine ⟨hid.mine, ?_, hid.outbox⟩
    simp only [Db.setIncident, Function.update_of_ne hne]
    exact hid.incident

/-- Any number of requests, beside whatever else happens. -/
def approvalProtocol : Protocol World ApprovalRequest ApprovalEnv Db where
  machine := approvalMachine
  guar := RepoStep Decided
  inv := DecisionInv
  inv_guar := fun _ _ _ hinv hstep _ => hinv.step hstep
  inv_crash := fun p _ hinv => hinv.crash p
  inv_env := by
    intro e s s' hinv henv _
    rcases approvalEnv_cases henv with ⟨elapsed, rfl⟩ | ⟨i, row, row', hmoved⟩ | ⟨plan, hnew, rfl⟩
    · exact ⟨⟨hinv.repo.drawn, hinv.repo.fresh, hinv.repo.rising⟩, hinv.plans, hinv.single⟩
    · refine ⟨hmoved.repoInv hinv.repo, ?_, ?_⟩
      · rw [hmoved.result]
        exact hinv.plans
      · rw [hmoved.result]
        exact hinv.single
    · refine ⟨⟨hinv.repo.drawn, hinv.repo.fresh, hinv.repo.rising⟩, ?_, hinv.single⟩
      intro a ha b hb heq
      rcases List.mem_cons.mp ha with hap | hold
      · rcases List.mem_cons.mp hb with hbp | hold'
        · rw [hap, hbp]
        · rw [hap] at heq
          exact absurd heq.symm (hnew b hold')
      · rcases List.mem_cons.mp hb with hbp | hold'
        · rw [hbp] at heq
          exact absurd heq (hnew a hold)
        · exact hinv.plans a hold b hold' heq

theorem isRepoProtocol_approval : IsRepoProtocol Decided approvalProtocol where
  guar := fun _ _ _ h => h
  inv := fun _ h => h.repo
  others := by
    intro p s s' hinv hother
    cases hother with
    | proc q hq hact hadm => exact RepoStep.aside hq hinv.repo hact
    | crash q _ hq => exact aside_crash hq s
    | env e henv hadm =>
        rcases approvalEnv_cases henv with ⟨elapsed, rfl⟩ | ⟨i, row, row', hmoved⟩ |
          ⟨plan, hnew, rfl⟩
        · exact Idle.aside (q := p) hinv.repo
            ⟨⟨rfl, rfl, rfl, rfl, rfl, rfl⟩, Or.inl ⟨rfl, rfl⟩⟩
        · exact hmoved.aside
        · exact ⟨fun _ => Relation.ReflTransGen.refl, fun _ => Relation.ReflTransGen.refl,
            fun _ _ => rfl, fun id hid => ⟨hid.mine, hid.incident, hid.outbox⟩⟩

/-! ### What a request knows -/

section Requests

variable {p : Nat}

/-- Whatever others do, they take no plan back, and a decision they commit comes with a move. -/
theorem other_decides {s s' : Db} (h : approvalProtocol.Other p s s') :
    s.plans ⊆ s'.plans ∧ (s'.approvals = s.approvals ∨ ∃ q a i r r' evs, q ≠ p ∧
      Wins q a i r r' s ∧ s' = (s.commit ⟨q, 0⟩).record evs) := by
  cases h with
  | proc q hq hact hadm =>
      have hstep : RepoStep Decided q s s' := hact
      obtain ⟨hplans, hcases⟩ := hstep.decides
      refine ⟨by rw [hplans]; exact List.Subset.refl _, ?_⟩
      rcases hcases with hsame | ⟨a, i, r, r', evs, hwins, heq⟩
      · exact Or.inl hsame
      · exact Or.inr ⟨q, a, i, r, r', evs, hq, hwins, heq⟩
  | crash q _ hq => exact ⟨List.Subset.refl _, Or.inl rfl⟩
  | env e henv hadm =>
      rcases approvalEnv_cases henv with ⟨elapsed, rfl⟩ | ⟨i, row, row', hmoved⟩ | ⟨plan, hnew, rfl⟩
      · exact ⟨List.Subset.refl _, Or.inl rfl⟩
      · rw [hmoved.result]
        exact ⟨List.Subset.refl _, Or.inl rfl⟩
      · exact ⟨List.subset_cons_self _ _, Or.inl rfl⟩

theorem stable_clean : approvalProtocol.Stable p (Clean p) := by
  intro s s' hinv h hother
  have ha := isRepoProtocol_approval.others p s s' hinv hother
  refine ⟨?_, ?_⟩
  · rw [ha.added ⟨p, 0⟩ rfl]
    exact h.added
  · intro i
    rw [(ha.incidents i).own_eq (t := ⟨p, 0⟩) rfl]
    exact h.incidents i

theorem onRows_clean : OnRows (Clean p) := by
  intro s s' hsame h
  refine ⟨?_, ?_⟩
  · rw [hsame.added]
    exact h.added
  · rw [hsame.incidents]
    exact h.incidents

theorem stable_listed (plan : RemediationPlan) :
    approvalProtocol.Stable p (fun s => plan ∈ s.plans) :=
  fun _ _ _ h hother => (other_decides hother).1 h

/-- A row that was seen and is in sight has been in sight all the time. -/
theorem visible_back {t : TxId} {mine : TxId → Prop} {c c' : Cell TxId Incident} {r : Incident}
    (h : Cell.Others (fun _ _ => True) mine c c') (hmine : mine t) (hsaw : some r ∈ c.view t)
    (hrise : Linked Rises c'.chain) (hvis : c'.visible t = some r) : c.visible t = some r := by
  by_cases hl : c.locked t
  · rw [h.eq_of_locked hmine hl] at hvis
    exact hvis
  have hown : c.own t = [] := Cell.own_eq_nil_of_not_locked hl
  have hown' : c'.own t = [] := by rw [h.own_eq hmine, hown]
  rw [Cell.visible_eq_committed hown'] at hvis
  rw [Cell.visible_eq_committed hown]
  unfold Cell.view at hsaw
  rw [hown, List.nil_append] at hsaw
  unfold Cell.committed at hvis ⊢
  cases hl' : c'.versions with
  | nil =>
      rw [hl'] at hvis
      simp at hvis
  | cons v rest =>
      have hsuffix : c.versions <:+ v :: rest := by
        rw [← hl']
        exact h.versions_suffix
      have hsorted : c'.versions.Pairwise (fun newer older => rowRank older < rowRank newer) :=
        (hrise.suffix (Cell.versions_suffix_chain c')).sorted (fun _ _ hr => hr)
      rw [hl'] at hvis hsorted
      have hv : v = some r := by simpa using hvis
      rcases List.suffix_cons_iff.mp hsuffix with heq | hrest
      · rw [heq, hv]
        rfl
      · -- the row would have to be older than itself
        have hlt := (List.pairwise_cons.mp hsorted).1 (some r) (hrest.mem hsaw)
        rw [hv] at hlt
        omega

/-- What a request has read: a row of the incident, a plan of it, and that there was no decision
on the plan while the row was the newest. -/
structure HasRead (p i : Nat) (r : Incident) (plan : RemediationPlan) (s : Db) : Prop where
  saw : SawIncident p i r s
  listed : plan ∈ s.plans
  undecided : (s.incidents i).visible ⟨p, 0⟩ = some r →
    ∀ b ∈ s.approvals, b.isFor plan.id plan.version = false

/-- A transaction that wins moves the incident under everybody else. -/
theorem Wins.visible_other {p q i : Nat} {a : Approval} {r r' : Incident} {s : Db}
    (h : Wins q a i r r' s) (hq : q ≠ p) :
    (s.incidents i).visible ⟨p, 0⟩ = some r ∧
      (((s.commit ⟨q, 0⟩).incidents i).visible ⟨p, 0⟩) = some r' := by
  have hne : (⟨p, 0⟩ : TxId) ≠ ⟨q, 0⟩ := by
    intro heq
    simp only [TxId.mk.injEq, and_true] at heq
    exact hq heq.symm
  have hlocked : (s.incidents i).locked ⟨q, 0⟩ := by
    by_contra hl
    have := Cell.own_eq_nil_of_not_locked hl
    rw [h.after] at this
    simp at this
  have hnot : ¬ (s.incidents i).locked ⟨p, 0⟩ := Cell.not_locked_of_locked hne hlocked
  refine ⟨?_, ?_⟩
  · rw [Cell.visible_of_not_locked hnot, h.before]
  · show ((s.incidents i).commit ⟨q, 0⟩).visible ⟨p, 0⟩ = some r'
    rw [Cell.visible_commit_free (Or.inr hnot)]
    simp [Cell.visible, Cell.view, h.after]

theorem stable_hasRead {i : Nat} {r : Incident} {plan : RemediationPlan}
    (hplan : plan.incidentId = i) : approvalProtocol.Stable p (HasRead p i r plan) := by
  intro s s' hinv h hother
  have haside := isRepoProtocol_approval.others p s s' hinv hother
  obtain ⟨hplans, hcases⟩ := other_decides hother
  refine ⟨(haside.incidents i).mem_view rfl h.saw, hplans h.listed, ?_⟩
  intro hvis b hb
  have hinv' : DecisionInv s' := inv_other hinv hother
  have hbefore := visible_back (haside.incidents i) rfl h.saw (hinv'.repo.rising i) hvis
  have hold := h.undecided hbefore
  rcases hcases with hsame | ⟨q, a, j, r₀, r₁, evs, hq, hwins, rfl⟩
  · rw [hsame] at hb
    exact hold b hb
  · change b ∈ (s.commit ⟨q, 0⟩).approvals at hb
    rw [hwins.plans_commit.2] at hb
    rcases List.mem_cons.mp hb with rfl | hb
    · by_contra hfor
      simp only [Approval.isFor, Bool.not_eq_false, Bool.and_eq_true, decide_eq_true_eq] at hfor
      -- the other decision would be on the same plan, and so move the same incident
      have hj : j = i := by
        obtain ⟨other, hother, hid, hincident⟩ := hwins.plan
        rw [← hincident, ← hplan]
        exact hinv.plans other hother plan h.listed (by rw [hid, hfor.1])
      subst hj
      obtain ⟨hsees, hsees'⟩ := hwins.visible_other hq
      have hr₀ : r₀ = r := by
        rw [hsees] at hbefore
        simpa using hbefore
      have hr₁ : r₁ = r := by
        have hv : ((s.commit ⟨q, 0⟩).incidents j).visible ⟨p, 0⟩ = some r := hvis
        rw [hsees'] at hv
        simpa using hv
      have hversion := hwins.version
      rw [hr₀, hr₁] at hversion
      omega
    · exact hold b hb

theorem onRows_hasRead {i : Nat} {r : Incident} {plan : RemediationPlan} :
    OnRows (HasRead p i r plan) := by
  intro s s' hsame h
  refine ⟨?_, ?_, ?_⟩
  · unfold SawIncident
    rw [hsame.incidents]
    exact h.saw
  · rw [hsame.plans]
    exact h.listed
  · rw [hsame.incidents, hsame.approvals]
    exact h.undecided

theorem Wins.locked {i : Nat} {a : Approval} {r r' : Incident} {s : Db} (h : Wins p a i r r' s) :
    (s.incidents i).locked ⟨p, 0⟩ := by
  by_contra hl
  have := Cell.own_eq_nil_of_not_locked hl
  rw [h.after] at this
  simp at this

/-- Once a request has the incident in its hands, nobody else can decide. -/
theorem stable_wins (a : Approval) (i : Nat) (r r' : Incident) :
    approvalProtocol.Stable p (Wins p a i r r') := by
  intro s s' hinv h hother
  have haside := isRepoProtocol_approval.others p s s' hinv hother
  obtain ⟨hplans, hcases⟩ := other_decides hother
  have hcell : s'.incidents i = s.incidents i :=
    (haside.incidents i).eq_of_locked (t := ⟨p, 0⟩) rfl h.locked
  have hadded : s'.added ⟨p, 0⟩ = s.added ⟨p, 0⟩ := haside.added ⟨p, 0⟩ rfl
  refine ⟨?_, ?_, ?_, ?_, ?_, h.waiting, ?_, h.moved, h.version, ?_⟩
  · unfold Db.newApprovals
    rw [hadded]
    exact h.approval
  · rw [hadded]
    exact h.plans
  · intro b hb
    rcases hcases with hsame | ⟨q, a₁, j, r₀, r₁, evs, hq, hwins, rfl⟩
    · rw [hsame] at hb
      exact h.fresh b hb
    · change b ∈ (s.commit ⟨q, 0⟩).approvals at hb
      rw [hwins.plans_commit.2] at hb
      rcases List.mem_cons.mp hb with rfl | hb
      · by_contra hfor
        simp only [Approval.isFor, Bool.not_eq_false, Bool.and_eq_true, decide_eq_true_eq] at hfor
        obtain ⟨plan, hplan, hid, hincident⟩ := h.plan
        obtain ⟨other, hother, hid', hincident'⟩ := hwins.plan
        have hj : j = i := by
          rw [← hincident, ← hincident']
          exact hinv.plans other hother plan hplan (by rw [hid, hid', hfor.1])
        subst hj
        have hne : (⟨p, 0⟩ : TxId) ≠ ⟨q, 0⟩ := by
          intro heq
          simp only [TxId.mk.injEq, and_true] at heq
          exact hq heq.symm
        exact Cell.not_locked_of_locked hne hwins.locked h.locked
      · exact h.fresh b hb
  · obtain ⟨plan, hplan, hid⟩ := h.plan
    exact ⟨plan, hplans hplan, hid⟩
  · rw [hcell]
    exact h.before
  · rw [hcell]
    exact h.after
  · intro j hj
    rw [(haside.incidents j).own_eq (t := ⟨p, 0⟩) rfl]
    exact h.only j hj

theorem onRows_wins (a : Approval) (i : Nat) (r r' : Incident) : OnRows (Wins p a i r r') := by
  intro s s' hsame h
  refine ⟨?_, ?_, ?_, ?_, ?_, h.waiting, ?_, h.moved, h.version, ?_⟩
  · unfold Db.newApprovals
    rw [hsame.added]
    exact h.approval
  · rw [hsame.added]
    exact h.plans
  · rw [hsame.approvals]
    exact h.fresh
  · rw [hsame.plans]
    exact h.plan
  · rw [hsame.incidents]
    exact h.before
  · rw [hsame.incidents]
    exact h.after
  · rw [hsame.incidents]
    exact h.only

/-! ### The programs keep to it -/

/-- A row of another table than those of plans and decisions changes nothing. -/
theorem Wins.add {a : Approval} {i : Nat} {r r' : Incident} {s : Db} {row : NewRow}
    (h : Wins p a i r r' s) (happroval : row.approval? = none) (hplan : row.plan? = none) :
    Wins p a i r r' (s.add ⟨p, 0⟩ row) := by
  have hadded : (s.add ⟨p, 0⟩ row).added ⟨p, 0⟩ = row :: s.added ⟨p, 0⟩ := by
    simp [Db.add]
  refine ⟨?_, ?_, h.fresh, h.plan, h.before, h.waiting, h.after, h.moved, h.version, h.only⟩
  · unfold Db.newApprovals
    rw [hadded, List.filterMap_cons_none happroval]
    exact h.approval
  · rw [hadded, List.filterMap_cons_none hplan]
    exact h.plans

theorem Wins.post {a : Approval} {i o : Nat} {r r' : Incident} {s : Db} {c : Cell TxId OutboxEvent}
    (h : Wins p a i r r' s) : Wins p a i r r' (s.setOutbox o c) :=
  ⟨h.approval, h.plans, h.fresh, h.plan, h.before, h.waiting, h.after, h.moved, h.version, h.only⟩

/-- The decision is recorded, and the incident not yet moved. -/
structure RecordedDecision (p : Nat) (a : Approval) (i : Nat) (r : Incident)
    (plan : RemediationPlan)
    (s : Db) : Prop where
  added : s.added ⟨p, 0⟩ = [.approval a]
  incidents : ∀ j, (s.incidents j).own ⟨p, 0⟩ = []
  read : HasRead p i r plan s

theorem stable_recordedDecision {a : Approval} {i : Nat} {r : Incident} {plan : RemediationPlan}
    (hplan : plan.incidentId = i) : approvalProtocol.Stable p (RecordedDecision p a i r plan) := by
  intro s s' hinv h hother
  have haside := isRepoProtocol_approval.others p s s' hinv hother
  refine ⟨?_, ?_, stable_hasRead hplan s s' hinv h.read hother⟩
  · rw [haside.added ⟨p, 0⟩ rfl]
    exact h.added
  · intro j
    rw [(haside.incidents j).own_eq (t := ⟨p, 0⟩) rfl]
    exact h.incidents j

theorem onRows_recordedDecision {a : Approval} {i : Nat} {r : Incident} {plan : RemediationPlan} :
    OnRows (RecordedDecision p a i r plan) := by
  intro s s' hsame h
  refine ⟨?_, ?_, onRows_hasRead s s' hsame h.read⟩
  · rw [hsame.added]
    exact h.added
  · rw [hsame.incidents]
    exact h.incidents

/-- **Moving the incident wins**: it is still the row that was read, and so nobody has decided. -/
theorem RecordedDecision.wins {a : Approval} {i : Nat} {r : Incident} {plan : RemediationPlan}
    {s : Db}
    {target : IncidentState} (h : RecordedDecision p a i r plan s) (hplan : plan.incidentId = i)
    (hwait : r.state = .pendingApproval) (hid : a.planId = plan.id)
    (hversion : a.planVersion = plan.version) (htarget : target = a.decision.outcome)
    (hvis : (s.incidents i).visible ⟨p, 0⟩ = some r) (now : Int) :
    Wins p a i r (r.transitioned now r.version target r) (s.setIncident i
      ((s.incidents i).write ⟨p, 0⟩ (some (r.transitioned now r.version target r)))) := by
  refine ⟨?_, ?_, ?_, ⟨plan, h.read.listed, hid.symm, hplan⟩, ?_, hwait, ?_, htarget, ?_, ?_⟩
  · show (s.added ⟨p, 0⟩).filterMap NewRow.approval? = [a]
    rw [h.added]
    rfl
  · show (s.added ⟨p, 0⟩).filterMap NewRow.plan? = []
    rw [h.added]
    rfl
  · rw [hid, hversion]
    exact h.read.undecided hvis
  · simp only [Db.setIncident, Function.update_self]
    show (s.incidents i).committed = some r
    rw [← Cell.visible_eq_committed (h.incidents i)]
    exact hvis
  · simp only [Db.setIncident, Function.update_self, Cell.own_write]
    rw [h.incidents i]
  · exact version_transitioned r now target
  · intro j hj
    simp only [Db.setIncident, Function.update_of_ne hj]
    exact h.incidents j

theorem createEscalationRecord_triple {R : Db → Prop} (hst : approvalProtocol.Stable p R)
    (hR : OnRows R) (hadd : ∀ s row, R s → row.approval? = none → row.plan? = none →
      R (s.add ⟨p, 0⟩ row)) (i : Nat) (title summary cause : String) (reason : Option String) :
    approvalProtocol.Triple p R (createEscalationRecord ⟨p, 0⟩ i title summary cause reason)
      (fun _ => R) (fun _ _ => True) := by
  have hP := isRepoProtocol_approval
  unfold createEscalationRecord
  refine Triple.bind (M := fun _ => R) ((repo_uuid4 hP hst hR).conseq (fun _ _ h => h)
    (fun _ _ _ h => h.1) (fun _ _ _ _ => trivial)) (fun id => ?_)
  exact (insertRow_triple hP hst (fun s _ h => hadd s _ h rfl rfl)).conseq (fun _ _ h => h)
    (fun _ _ _ h => h) (fun _ _ _ _ => trivial)

/-- The move of the incident by a request that has recorded its decision. -/
theorem decision_transition {a : Approval} {i : Nat} {r : Incident} {plan : RemediationPlan}
    {target : IncidentState} (actor : String) (hplan : plan.incidentId = i)
    (hwait : r.state = .pendingApproval) (hid : a.planId = plan.id)
    (hversion : a.planVersion = plan.version) (htarget : target = a.decision.outcome) :
    approvalProtocol.Triple p (RecordedDecision p a i r plan)
      (transition ⟨p, 0⟩ actor i r.version target) (fun r' s => Wins p a i r r' s)
      (fun _ _ => True) := by
  have hP := isRepoProtocol_approval
  refine transition_triple hP actor i r.version target (stable_recordedDecision hplan)
    (fun _ _ => trivial) (fun r' => stable_wins a i r r') (fun r' => onRows_wins a i r r')
    (fun _ _ _ => trivial) ?_ (fun _ _ _ _ _ h _ _ => h.post)
  intro s q hinv h _ hvis hver _
  have hsame : r = q := by
    refine Cell.eq_of_seen rowRank (fun _ _ h => h) (hinv.repo.rising i) h.read.saw hvis ?_
    simp only [rowRank]
    omega
  subst hsame
  exact h.wins hplan hwait hid hversion htarget hvis _

theorem decideRequest_triple (req : ApprovalRequest) (r : Incident) (plan : RemediationPlan)
    (now : Int) (hplan : plan.incidentId = req.incidentId) (hwait : r.state = .pendingApproval) :
    approvalProtocol.Triple p (fun s => Clean p s ∧ HasRead p req.incidentId r plan s)
      (decideRequest p req r plan now) (fun _ => Decided p) (fun _ _ => True) := by
  have hP := isRepoProtocol_approval
  have hst : approvalProtocol.Stable p (fun s => Clean p s ∧ HasRead p req.incidentId r plan s) :=
    stable_clean.and (stable_hasRead hplan)
  have hrows : OnRows (fun s => Clean p s ∧ HasRead p req.incidentId r plan s) :=
    fun s s' hsame h => ⟨onRows_clean s s' hsame h.1, onRows_hasRead s s' hsame h.2⟩
  -- the decision, whatever identifier it gets
  have hrecord : approvalProtocol.Triple p
      (fun s => Clean p s ∧ HasRead p req.incidentId r plan s)
      (recordApproval ⟨p, 0⟩ (req.approval plan now))
      (fun a s => (∃ id, a = req.approval plan now id) ∧
        RecordedDecision p a req.incidentId r plan s)
      (fun _ _ => True) := by
    unfold recordApproval
    refine Triple.bind (M := fun _ s => Clean p s ∧ HasRead p req.incidentId r plan s)
      ((repo_uuid4 hP hst hrows).conseq (fun _ _ h => h) (fun _ _ _ h => h.1)
        (fun _ _ _ _ => trivial)) (fun id => ?_)
    refine Triple.bind (M := fun _ => RecordedDecision p
      (req.approval plan now id) req.incidentId r plan)
      ((insertRow_triple hP hst ?_).conseq (fun _ _ h => h) (fun _ _ _ h => h)
        (fun _ _ _ _ => trivial)) (fun _ => triple_pure _ (fun _ _ h => ⟨⟨id, rfl⟩, h⟩))
    intro s _ h
    refine ⟨?_, h.1.incidents, ⟨h.2.saw, h.2.listed, h.2.undecided⟩⟩
    simp [Db.add, h.1.added]
  unfold decideRequest
  refine hrecord.bind (fun a => triple_fact ?_)
  rintro ⟨id, rfl⟩
  have hmove : ∀ target, target = req.decision.outcome →
      approvalProtocol.Triple p
        (RecordedDecision p (req.approval plan now id) req.incidentId r plan)
        (transition ⟨p, 0⟩ req.actor req.incidentId r.version target)
        (fun r' s => Wins p (req.approval plan now id) req.incidentId r r' s) (fun _ _ => True) :=
    fun target htarget => decision_transition req.actor hplan hwait rfl rfl htarget
  cases hdecision : req.decision with
  | approve =>
      refine Triple.bind (M := fun _ => RecordedDecision p
        (req.approval plan now id) req.incidentId r plan)
        ((repo_idle hP (stable_recordedDecision hplan) onRows_recordedDecision ?_).conseq
          (fun _ _ h => h)
          (fun _ _ _ h => h) (fun _ _ _ _ => trivial)) (fun _ => ?_)
      · intro s x s' hf
        simp only [Option.some.injEq, Prod.mk.injEq] at hf
        rw [← hf.2]
        exact ⟨SameRows.refl s, rfl, rfl⟩
      · refine Triple.bind (hmove .approved (by rw [hdecision]; rfl)) (fun r' => ?_)
        exact triple_pure _ (fun _ _ h => Or.inr ⟨_, _, _, _, h⟩)
  | reject =>
      refine Triple.bind (hmove .escalated (by rw [hdecision]; rfl)) (fun r' => ?_)
      refine Triple.bind (createEscalationRecord_triple (stable_wins _ _ r r')
        (onRows_wins _ _ r r') (fun s row h => h.add) _ _ _ _ _) (fun _ => ?_)
      exact triple_pure _ (fun _ _ h => Or.inr ⟨_, _, _, _, h⟩)

/-- A request that comes too late raises, whatever it has written before. -/
theorem expireRequest_triple (req : ApprovalRequest) (r : Incident) :
    approvalProtocol.Triple p (fun _ => True) (expireRequest p req r) (fun _ => Decided p)
      (fun _ _ => True) := by
  have hP := isRepoProtocol_approval
  have hrows : OnRows (fun _ => True) := fun _ _ _ _ => trivial
  unfold expireRequest
  by_cases hwait : r.state = .pendingApproval
  · simp only [if_pos hwait]
    refine Triple.bind (transition_lasts hP lasting_true req.actor req.incidentId r.version
      .escalated) (fun _ => ?_)
    refine Triple.bind (createEscalationRecord_triple (stable_const True) hrows
      (fun _ _ _ _ _ => trivial) _ _ _ _ _) (fun _ => ?_)
    exact triple_throw _ (fun _ _ _ => trivial)
  · simp only [if_neg hwait]
    exact triple_throw _ (fun _ _ _ => trivial)

theorem answerRequest_triple (req : ApprovalRequest) (r : Incident) (plan : RemediationPlan)
    (now : Int) (hplan : plan.incidentId = req.incidentId) :
    approvalProtocol.Triple p (fun s => Clean p s ∧ HasRead p req.incidentId r plan s)
      (answerRequest p req r plan now) (fun _ => Decided p) (fun _ _ => True) := by
  unfold answerRequest
  by_cases hlate : r.updatedAt + seconds (30 * 60) < now
  · rw [if_pos hlate]
    exact (expireRequest_triple req r).pre (fun _ _ _ => trivial)
  rw [if_neg hlate]
  by_cases hwait : r.state ≠ .pendingApproval
  · rw [if_pos hwait]
    exact triple_throw _ (fun _ _ _ => trivial)
  rw [if_neg hwait]
  by_cases hversion : (r.version : Int) ≠ req.expectedIncidentVersion
  · rw [if_pos hversion]
    exact triple_throw _ (fun _ _ _ => trivial)
  rw [if_neg hversion]
  exact decideRequest_triple req r plan now hplan (by simpa using hwait)

/-- No decision is the latest if there is none at all. -/
theorem approvalsFor_head? {s : Db} {planId planVersion : Nat}
    (h : (s.approvalsFor planId planVersion).head? = none) :
    ∀ b ∈ s.approvals, b.isFor planId planVersion = false := by
  intro b hb
  by_contra hfor
  rw [Bool.not_eq_false] at hfor
  have hmem : b ∈ s.approvalsFor planId planVersion := by
    unfold Db.approvalsFor
    rw [List.mem_insertionSort]
    exact List.mem_filter.mpr ⟨hb, hfor⟩
  rw [List.head?_eq_none_iff] at h
  rw [h] at hmem
  exact absurd hmem List.not_mem_nil

/-- **`submit_approval`** commits a decision and the move that goes with it, or nothing. -/
theorem submitApproval_triple (req : ApprovalRequest) :
    approvalProtocol.Triple p (Clean p) (submitApproval p req) (fun _ => Clean p)
      (fun _ => Clean p) := by
  have hP := isRepoProtocol_approval
  unfold submitApproval
  by_cases hallowed : req.allowed = false
  · rw [if_pos hallowed]
    exact triple_throw _ (fun _ _ h => h)
  rw [if_neg hallowed]
  by_cases hreason : req.unexplained = true
  · rw [if_pos hreason]
    exact triple_throw _ (fun _ _ h => h)
  rw [if_neg hreason]
  have hdecided : approvalProtocol.Stable p (Decided p) := by
    intro s s' hinv h hother
    rcases h with hclean | ⟨a, i, r, r', hwins⟩
    · exact Or.inl (stable_clean s s' hinv hclean hother)
    · exact Or.inr ⟨a, i, r, r', stable_wins a i r r' s s' hinv hwins hother⟩
  refine repo_unitOfWork hP stable_clean onRows_clean hdecided (fun _ _ h => h) ?_ ?_ ?_
    (fun _ _ h => h)
  · refine Triple.bind (M := fun found s => Clean p s ∧
      ∀ r, found = some r → SawIncident p req.incidentId r s)
      ((repo_select hP stable_clean).conseq (fun _ _ h => h) ?_ (fun _ _ _ _ => trivial))
      (fun found => ?_)
    · intro found s _ h
      refine ⟨h.1, ?_⟩
      intro r hr
      rw [hr] at h
      exact Cell.visible_mem h.2.symm
    cases found with
    | none => exact triple_throw _ (fun _ _ _ => trivial)
    | some r =>
        have hst : approvalProtocol.Stable p
            (fun s => Clean p s ∧ SawIncident p req.incidentId r s) :=
          stable_clean.and (stable_sawIncident hP _ _)
        refine Triple.bind (M := fun plan s => (Clean p s ∧ SawIncident p req.incidentId r s) ∧
          ∀ row, plan = some row → row ∈ s.plans ∧ row.incidentId = req.incidentId)
          ((repo_select hP hst).conseq (fun _ _ h => ⟨h.1, h.2 r rfl⟩) ?_
            (fun _ _ _ _ => trivial)) (fun plan => ?_)
        · intro plan s _ h
          refine ⟨h.1, ?_⟩
          intro row hrow
          rw [hrow] at h
          have hfound := h.2.symm
          refine ⟨List.mem_of_find?_eq_some hfound, ?_⟩
          have := List.find?_some hfound
          simp only [Bool.and_eq_true, decide_eq_true_eq] at this
          exact this.1
        cases plan with
        | none => exact triple_throw _ (fun _ _ _ => trivial)
        | some plan =>
            by_cases hhash : req.mismatches plan = true
            · simp only [if_pos hhash]
              exact triple_throw _ (fun _ _ _ => trivial)
            simp only [if_neg hhash]
            refine Triple.pre (R := fun s => plan.incidentId = req.incidentId ∧
              ((Clean p s ∧ SawIncident p req.incidentId r s) ∧ plan ∈ s.plans))
              (triple_fact fun hplan => ?_) (fun _ _ h => ⟨(h.2 plan rfl).2, h.1, (h.2 plan rfl).1⟩)
            have hread : approvalProtocol.Stable p (HasRead p req.incidentId r plan) :=
              stable_hasRead hplan
            refine Triple.bind (M := fun existing s => Clean p s ∧
              (existing = none → HasRead p req.incidentId r plan s))
              ((repo_select hP (hst.and (stable_listed plan))).conseq (fun _ _ h => h) ?_
                (fun _ _ _ _ => trivial)) (fun existing => ?_)
            · intro existing s _ h
              refine ⟨h.1.1.1, ?_⟩
              intro hnone
              rw [hnone] at h
              exact ⟨h.1.1.2, h.1.2, fun _ => approvalsFor_head? h.2.symm⟩
            have hst' : approvalProtocol.Stable p (fun s => Clean p s ∧
                (existing = none → HasRead p req.incidentId r plan s)) := by
              intro s s' hinv h hother
              exact ⟨stable_clean s s' hinv h.1 hother,
                fun hnone => hread s s' hinv (h.2 hnone) hother⟩
            refine Triple.bind (M := fun _ s => Clean p s ∧
              (existing = none → HasRead p req.incidentId r plan s))
              (triple_datetimeNow hst' (fun s _ _ => .idle (Idle.refl p s)) (fun _ _ h => h))
              (fun now => ?_)
            cases existing with
            | none =>
                exact (answerRequest_triple req r plan now hplan).pre
                  (fun _ _ h => ⟨h.1, h.2 rfl⟩)
            | some approval =>
                by_cases hsame : approval.decision = req.decision
                · simp only [if_pos hsame]
                  exact triple_pure _ (fun _ _ h => Or.inl h.1)
                · simp only [if_neg hsame]
                  exact triple_throw _ (fun _ _ _ => trivial)
  · intro s evs _ _
    exact ⟨by simp [Db.commit, Db.record], fun i => Cell.own_commit⟩
  · intro s _
    exact ⟨by simp [Db.rollback], fun i => Cell.own_rollback⟩

end Requests

theorem approvalProtocol_rests : approvalProtocol.RestsIn Clean where
  stable := fun p => stable_clean
  crash := by
    intro p s _
    refine ⟨?_, fun i => own_crash p _⟩
    show Function.update (Function.update s.added ⟨p, 0⟩ []) ⟨p, 1⟩ [] ⟨p, 0⟩ = []
    rw [Function.update_of_ne (by simp), Function.update_self]
  safe := fun p req s hinv hrest _ => triple_ends (submitApproval_triple req) hinv hrest

/-! ### Requests that lose -/

/-- No decision and no move of an incident is committed. -/
def SameCommitted (s s' : Db) : Prop :=
  s'.approvals = s.approvals ∧ ∀ i, s'.incident i = s.incident i

theorem SameCommitted.refl (s : Db) : SameCommitted s s := ⟨rfl, fun _ => rfl⟩

/-- What a request does before its transaction ends. -/
abbrev RequestStep (p : Nat) : Db → Db → Prop :=
  WorkerStep p (fun k => .incident = k) (fun _ => False) (fun _ => True)

theorem workerStep_requestRecord (p i : Nat) (title summary cause : String)
    (reason : Option String) :
    Within (RequestStep p) (createEscalationRecord ⟨p, 0⟩ i title summary cause reason) :=
  workerStep_createEscalationRecord (fun _ => trivial) _ _ _ _ _

theorem decideRequest_within (p : Nat) (req : ApprovalRequest) (r : Incident)
    (plan : RemediationPlan) (now : Int) :
    Within (RequestStep p) (decideRequest p req r plan now) := by
  refine Within.bind (Within.bind (workerStep_uuid4 _) (fun _ =>
    Within.bind (workerStep_insertRow trivial) (fun _ => within_pure _))) (fun a => ?_)
  cases req.decision with
  | approve =>
      exact Within.bind workerStep_insertElsewhere (fun _ =>
        Within.bind (workerStep_transition rfl _ _ _) (fun _ => within_pure _))
  | reject =>
      exact Within.bind (workerStep_transition rfl _ _ _) (fun _ =>
        Within.bind (workerStep_requestRecord _ _ _ _ _ _) (fun _ => within_pure _))

theorem answerRequest_within (p : Nat) (req : ApprovalRequest) (r : Incident)
    (plan : RemediationPlan) (now : Int) :
    Within (RequestStep p) (answerRequest p req r plan now) := by
  have hexpire : Within (RequestStep p) (expireRequest p req r) := by
    unfold expireRequest
    by_cases hwait : r.state = .pendingApproval
    · simp only [if_pos hwait]
      exact Within.bind (workerStep_transition rfl _ _ _) (fun _ =>
        Within.bind (workerStep_requestRecord _ _ _ _ _ _) (fun _ => within_throw _))
    · simp only [if_neg hwait]
      exact within_throw _
  unfold answerRequest
  split
  · exact hexpire
  · split
    · exact within_throw _
    · split
      · exact within_throw _
      · exact decideRequest_within p req r plan now

/-- A request raises at once, or is one block in a transaction. -/
theorem submitApproval_block (p : Nat) (req : ApprovalRequest) :
    (∃ e, submitApproval p req = throw e) ∨ ∃ body, Within (RequestStep p) body ∧
      submitApproval p req = unitOfWork ⟨p, 0⟩ req.actor body := by
  unfold submitApproval
  by_cases hallowed : req.allowed = false
  · rw [if_pos hallowed]
    exact Or.inl ⟨_, rfl⟩
  rw [if_neg hallowed]
  by_cases hreason : req.unexplained = true
  · rw [if_pos hreason]
    exact Or.inl ⟨_, rfl⟩
  rw [if_neg hreason]
  refine Or.inr ⟨_, Within.bind (workerStep_select _) (fun found => ?_), rfl⟩
  cases found with
  | none => exact within_throw _
  | some r =>
      refine Within.bind (workerStep_select _) (fun plan => ?_)
      cases plan with
      | none => exact within_throw _
      | some plan =>
          by_cases hhash : req.mismatches plan = true
          · simp only [if_pos hhash]
            exact within_throw _
          simp only [if_neg hhash]
          refine Within.bind (workerStep_select _) (fun existing =>
            Within.bind workerStep_datetimeNow (fun now => ?_))
          cases existing with
          | none => exact answerRequest_within p req r plan now
          | some approval =>
              by_cases hsame : approval.decision = req.decision
              · simp only [if_pos hsame]
                exact within_pure _
              · simp only [if_neg hsame]
                exact within_throw _

/-- **A request that raises commits nothing.** -/
theorem submitApproval_undone {p : Nat} {req : ApprovalRequest} {steps : List (Db × Db)} {e : Err}
    (h : (submitApproval p req).Took steps (.error e)) : ∀ q ∈ steps, Undone q.1 q.2 := by
  rcases submitApproval_block p req with ⟨e', heq⟩ | ⟨body, hbody, heq⟩
  · rw [heq] at h
    obtain ⟨rfl, -⟩ := took_throw.mp h
    simp
  · rw [heq] at h
    exact took_unitOfWork_undone (by simp) hbody h

theorem submitApproval_raised {p : Nat} {req : ApprovalRequest} {steps : List (Db × Db)} {e : Err}
    (h : (submitApproval p req).Took steps (.error e)) : ∀ q ∈ steps, SameCommitted q.1 q.2 := by
  intro q hq
  have hundone := submitApproval_undone h q hq
  exact ⟨hundone.approvals, hundone.incident⟩

/-! ### Every run -/

/-- Any incidents, plans and decisions, at most one for each version of a plan, with nothing under
way; identifiers that are still to be drawn are not in use. -/
structure Db.Awaiting (db : Db) : Prop where
  incidents : ∀ i, db.incidents i = Cell.empty ∨ ∃ row, db.incidents i = Cell.ofRow row
  fresh : ∀ id, db.nextId ≤ id → db.incidents id = Cell.empty ∧ db.outbox id = Cell.empty
  drawn : ∀ id q, db.drawnBy id = some q → id < db.nextId
  added : ∀ t, db.added t = []
  plans : ∀ a ∈ db.plans, ∀ b ∈ db.plans, a.id = b.id → a.incidentId = b.incidentId
  single : ∀ planId planVersion,
    (db.approvals.filter (Approval.isFor planId planVersion)).length ≤ 1

/-- A decision is committed on a plan of an incident that waits for it, and the incident leaves
for the state that goes with the decision. -/
structure CommitsDecision (a : Approval) (i : Nat) (s s' : Db) : Prop where
  approvals : s'.approvals = a :: s.approvals
  plan : ∃ plan ∈ s.plans, plan.id = a.planId ∧ plan.incidentId = i
  before : ∃ r, s.incident i = some r ∧ r.state = .pendingApproval
  after : ∃ r, s'.incident i = some r ∧ r.state = a.decision.outcome
  others : ∀ j, j ≠ i → s'.incident j = s.incident j

theorem Wins.commits {p i : Nat} {a : Approval} {r r' : Incident} {s : Db} (h : Wins p a i r r' s)
    (evs : List Event) : CommitsDecision a i s ((s.commit ⟨p, 0⟩).record evs) := by
  refine ⟨h.plans_commit.2, h.plan, ⟨r, h.before, h.waiting⟩, ⟨r', ?_, h.moved⟩, ?_⟩
  · show ((s.incidents i).commit ⟨p, 0⟩).committed = some r'
    rw [Cell.committed_commit]
    simp [Cell.visible, Cell.view, h.after]
  · intro j hj
    show ((s.incidents j).commit ⟨p, 0⟩).committed = s.incident j
    rw [Cell.committed_commit, Cell.visible_eq_committed (h.only j hj)]
    rfl

/-- What a step of a request commits: nothing, or a decision. -/
theorem RepoStep.commits {p : Nat} {s s' : Db} (h : RepoStep Decided p s s') :
    SameCommitted s s' ∨ ∃ a i, CommitsDecision a i s s' := by
  cases h with
  | idle h =>
      refine Or.inl ⟨h.approvals, fun i => ?_⟩
      unfold Db.incident
      rw [h.incidents]
  | insert r hnew hunused hopen => exact Or.inl ⟨rfl, incident_setIncident _⟩
  | update i q r hfree hvis hw => exact Or.inl ⟨rfl, incident_setIncident _⟩
  | post o e hunused => exact Or.inl ⟨rfl, fun _ => rfl⟩
  | add row => exact Or.inl ⟨rfl, fun _ => rfl⟩
  | commit evs hdue =>
      rcases hdue with hclean | ⟨a, i, r, r', hwins⟩
      · refine Or.inl ⟨hclean.plans_commit.2, fun i => ?_⟩
        show ((s.incidents i).commit ⟨p, 0⟩).committed = s.incident i
        rw [Cell.committed_commit, Cell.visible_eq_committed (hclean.incidents i)]
        rfl
      · exact Or.inr ⟨a, i, hwins.commits evs⟩
  | rollback => exact Or.inl ⟨rfl, fun i => Cell.committed_rollback⟩

theorem commits_of_act {s s' : Db} (h : approvalProtocol.Act s s') :
    SameCommitted s s' ∨ (∃ a i, CommitsDecision a i s s') ∨
      (s'.approvals = s.approvals ∧ ∃ e, approvalMachine.env e s = some s') := by
  cases h with
  | proc p hguar hadm =>
      have hrepo : RepoStep Decided p s s' := hguar
      rcases hrepo.commits with hsame | hdecides
      · exact Or.inl hsame
      · exact Or.inr (Or.inl hdecides)
  | crash p =>
      refine Or.inl ⟨rfl, fun i => ?_⟩
      show (((s.incidents i).rollback _).rollback _).committed = s.incident i
      rw [Cell.committed_rollback, Cell.committed_rollback]
      rfl
  | env e henv hadm =>
      refine Or.inr (Or.inr ⟨?_, e, henv⟩)
      rcases approvalEnv_cases henv with ⟨elapsed, heq⟩ | ⟨i, row, row', hmoved⟩ | ⟨plan, -, heq⟩
      · rw [heq]
      · rw [hmoved.result]
        rfl
      · rw [heq]

theorem Db.Awaiting.sound {db₀ : Db} (h₀ : db₀.Awaiting) :
    approvalProtocol.SoundIn Clean (Config.idle db₀) := by
  refine ⟨⟨⟨h₀.drawn, h₀.fresh, ?_⟩, h₀.plans, h₀.single⟩, ?_, ?_⟩
  · intro i
    rcases h₀.incidents i with heq | ⟨row, heq⟩
    · show Linked Rises (db₀.incidents i).chain
      rw [heq]
      trivial
    · show Linked Rises (db₀.incidents i).chain
      rw [heq]
      exact ⟨by simp [Rises, rowRank], trivial⟩
  · intro p prog hp
    simp [Config.idle] at hp
  · intro p _
    refine ⟨h₀.added _, fun i => ?_⟩
    rcases h₀.incidents i with heq | ⟨row, heq⟩
    · show (db₀.incidents i).own ⟨p, 0⟩ = []
      rw [heq]
      rfl
    · show (db₀.incidents i).own ⟨p, 0⟩ = []
      rw [heq]
      rfl

/-- **One decision on each version of a plan.**  Whatever requests run at the same time, there is
at most one committed decision on each version of a plan; every step commits nothing, or one
decision together with the move of its incident out of `PENDING_APPROVAL`, or it is no step of a
request; and a request that raises commits nothing. -/
theorem single_decision (db₀ : Db) (h₀ : db₀.Awaiting) :
    (∀ c, Reaches approvalMachine (Config.idle db₀) c →
      (∀ planId planVersion,
        (c.state.approvals.filter (Approval.isFor planId planVersion)).length ≤ 1) ∧
      ∀ c', Interleaving.Step approvalMachine c c' →
        SameCommitted c.state c'.state ∨ (∃ a i, CommitsDecision a i c.state c'.state) ∨
        (c'.state.approvals = c.state.approvals ∧
          ∃ e, approvalMachine.env e c.state = some c'.state)) ∧
    (∀ p req steps e, (submitApproval p req).Took steps (.error e) →
      ∀ q ∈ steps, SameCommitted q.1 q.2) := by
  refine ⟨?_, fun p req steps e h => submitApproval_raised h⟩
  intro c hr
  have hsound := h₀.sound.reaches approvalProtocol_rests hr
  refine ⟨hsound.inv.single, ?_⟩
  intro c' hstep
  obtain ⟨-, heq | hact⟩ := hsound.step approvalProtocol_rests hstep
  · rw [heq]
    exact Or.inl (SameCommitted.refl _)
  · exact commits_of_act hact

/-- An incident that waits for a decision on its plan. -/
def pendingDb : Db :=
  { Db.init 0 with
    nextId := 5
    incidents := Function.update (fun _ => Cell.empty) 1 (Cell.ofRow
      { id := 1, resourceId := 7, correlationKey := "demo", state := .pendingApproval, version := 5,
        approvalRequired := true, updatedAt := 0 })
    plans := [
      { id := 3, incidentId := 1, diagnosisId := 0, version := 1, risk := "LOW",
        approved := false, contentHash := "", containerId := none, bindingGeneration := none,
        verificationProfile := none }] }

theorem awaiting_pendingDb : pendingDb.Awaiting := by
  have hother : ∀ i, i ≠ 1 → pendingDb.incidents i = Cell.empty := by
    intro i hi
    simp only [pendingDb, Function.update_of_ne hi]
  refine ⟨?_, ?_, ?_, fun _ => rfl, ?_, fun _ _ => Nat.zero_le 1⟩
  · intro i
    by_cases hi : i = 1
    · subst hi
      exact Or.inr ⟨_, rfl⟩
    · exact Or.inl (hother i hi)
  · intro id hid
    have hle : 5 ≤ id := hid
    exact ⟨hother id (by omega), rfl⟩
  · intro id q hdrawn
    exact absurd hdrawn (by simp [pendingDb, Db.init])
  · intro a ha b hb _
    simp only [pendingDb, List.mem_singleton] at ha hb
    rw [ha, hb]

/-- Two approvers find that nothing has been decided; one approves, and the rejection of the other
is refused. -/
theorem single_decision_contested :
    ∃ c, Reaches approvalMachine (Config.idle pendingDb) c ∧
      c.state.approvals.map Approval.decision = [.approve] ∧
      (c.state.incident 1).map Incident.state = some .approved ∧
      ∀ planId planVersion,
        (c.state.approvals.filter (Approval.isFor planId planVersion)).length ≤ 1 := by
  obtain ⟨c, hr, htest⟩ := Machine.reaches_of_exec approvalMachine (Config.idle pendingDb)
    ([.start 0 { username := "alice", incidentId := 1, decision := .approve,
                 expectedIncidentVersion := 5, planVersion := 1 },
      .start 1 { username := "bob", incidentId := 1, decision := .reject,
                 expectedIncidentVersion := 5, planVersion := 1,
                 rejectionReason := some "too risky" }] ++
      List.replicate 5 (.run 0 {}) ++ List.replicate 5 (.run 1 {}) ++
      List.replicate 9 (.run 0 {}) ++ List.replicate 5 (.run 1 {}))
    (fun db => decide (db.approvals.map Approval.decision = [.approve] ∧
      (db.incident 1).map Incident.state = some .approved)) (by decide +kernel)
  simp only [decide_eq_true_eq] at htest
  exact ⟨c, hr, htest.1, htest.2, ((single_decision pendingDb awaiting_pendingDb).1 c hr).1⟩

end SelfHealing
