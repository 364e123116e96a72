/-
No restart without leave.

A restart that the execution node has issued is traced back through the steps of its own
call: the Docker call is made in `dispatch` only, which the lock transaction has let pass,
which comes after a precheck that has returned.  What each of these read is in the record
of the call; the others may have run in between, but nobody here writes bindings or
decisions, and the clock does not go back, so that what the precheck read in several
statements holds together in one state.

The invariant is small, and most of the work is on the record: for each part of the program there is
a lemma about what its steps have been, read from the end of the part to its beginning.
-/
import SelfHealing.Proofs.Transactions
import SelfHealing.Proofs.WorkerSteps

namespace SelfHealing

open Interleaving Interleaving.Prog ReadCommitted

/-! ### What every step keeps

Nobody in the system writes bindings or decisions, no row is deleted, and the clock does not go
back.  What a check has read is therefore still so, or at least still to be found, in every later
state, and the reads of several statements can be put together in one.
-/

/-- No open transaction is adding what a precheck reads. -/
def Plain (db : Db) : Prop := ∀ t, ∀ row ∈ db.added t, row.escalation?.isSome = true

/-- Bindings and decisions stay as they are, and the clock does not go back. -/
structure Steady (s s' : Db) : Prop where
  kept : Plain s → Plain s' ∧ s'.resources = s.resources ∧ s'.decisions = s.decisions
  clock : s.now ≤ s'.now

/-- No restart is issued. -/
def Unissued (s s' : Db) : Prop := ∀ p intent, s'.log ≠ .restartIssued p intent :: s.log

/-- What every step but the Docker call is. -/
structure Still (s s' : Db) : Prop where
  steady : Steady s s'
  unissued : Unissued s s'

theorem Steady.refl (s : Db) : Steady s s := ⟨fun h => ⟨h, rfl, rfl⟩, Int.le_refl _⟩

theorem Steady.trans {s t u : Db} (h : Steady s t) (h' : Steady t u) : Steady s u where
  kept := by
    intro hplain
    obtain ⟨hp, hres, hdec⟩ := h.kept hplain
    obtain ⟨hp', hres', hdec'⟩ := h'.kept hp
    exact ⟨hp', hres'.trans hres, hdec'.trans hdec⟩
  clock := Int.le_trans h.clock h'.clock

theorem steady_of_same {s s' : Db} (hadded : s'.added = s.added)
    (hresources : s'.resources = s.resources) (hdecisions : s'.decisions = s.decisions)
    (hnow : s'.now = s.now) : Steady s s' := by
  refine ⟨?_, by omega⟩
  intro hplain
  refine ⟨?_, hresources, hdecisions⟩
  unfold Plain
  rw [hadded]
  exact hplain

theorem unissued_of_log {s s' : Db} (h : s'.log = s.log) : Unissued s s' := by
  intro p intent heq
  rw [h] at heq
  exact absurd heq.symm (List.cons_ne_self _ _)

theorem still_of_same {s s' : Db} (hadded : s'.added = s.added)
    (hresources : s'.resources = s.resources) (hdecisions : s'.decisions = s.decisions)
    (hnow : s'.now = s.now) (hlog : s'.log = s.log) : Still s s' :=
  ⟨steady_of_same hadded hresources hdecisions hnow, unissued_of_log hlog⟩

theorem Still.refl (s : Db) : Still s s := still_of_same rfl rfl rfl rfl rfl

theorem Plain.update {db : Db} (h : Plain db) (t : TxId) {rows : List NewRow}
    (hrows : ∀ row ∈ rows, row.escalation?.isSome = true) :
    ∀ u, ∀ row ∈ Function.update db.added t rows u, row.escalation?.isSome = true := by
  intro u
  by_cases hu : u = t
  · subst hu
    rw [Function.update_self]
    exact hrows
  · rw [Function.update_of_ne hu]
    exact h u

/-- Escalation records are no bindings and no decisions. -/
theorem plain_rows {rows : List NewRow} (h : ∀ row ∈ rows, row.escalation?.isSome = true)
    (resources : Nat → Option Resource) :
    rows.foldr (fun row resources => row.bind resources) resources = resources ∧
      rows.filterMap NewRow.decision? = [] := by
  induction rows with
  | nil => exact ⟨rfl, rfl⟩
  | cons row rest ih =>
      obtain ⟨h1, h2⟩ := ih (fun row hrow => h row (List.mem_cons_of_mem _ hrow))
      have hrow := h row List.mem_cons_self
      cases row with
      | escalation e =>
          refine ⟨?_, by rw [List.filterMap_cons]; exact h2⟩
          rw [List.foldr_cons, h1]
          rfl
      | _ => simp [NewRow.escalation?] at hrow

theorem steady_commit (t : TxId) (evs : List Event) (s : Db) :
    Steady s ((s.commit t).record evs) := by
  refine ⟨?_, Int.le_refl _⟩
  intro hplain
  obtain ⟨hres, hdec⟩ := plain_rows (hplain t) s.resources
  refine ⟨hplain.update t (by simp), hres, ?_⟩
  show (s.added t).filterMap NewRow.decision? ++ s.decisions = s.decisions
  rw [hdec, List.nil_append]

theorem steady_rollback (t : TxId) (s : Db) : Steady s (s.rollback t) :=
  ⟨fun hplain => ⟨hplain.update t (by simp), rfl, rfl⟩, Int.le_refl _⟩

theorem Harmless.unissued {evs : List Event} (h : Harmless evs) {s s' : Db}
    (hlog : s'.log = evs ++ s.log) : Unissued s s' := by
  intro p intent heq
  cases evs with
  | nil => exact unissued_of_log hlog p intent heq
  | cons e rest =>
      rw [hlog, List.cons_append] at heq
      have he := h e List.mem_cons_self
      rw [(List.cons.inj heq).1] at he
      cases he

/-! ### The programs that issue nothing -/

section Still

variable {α : Type}

/-- A part of the node outside the adapter is seen by nobody, and adds escalation records only. -/
theorem WorkerStep.still {p : Nat} {s s' : Db}
    (h : WorkerStep p (fun _ => True) (fun _ => False)
      (fun row => row.escalation?.isSome = true) s s') :
    Still s s' := by
  have hnil : ∀ {evs : List Event}, (∀ e ∈ evs, False) → evs = [] :=
    fun h => List.eq_nil_iff_forall_not_mem.mpr h
  cases h with
  | commit l evs hk hevs =>
      rw [hnil hevs]
      exact ⟨steady_commit ⟨p, l⟩ [] s, unissued_of_log rfl⟩
  | rollback l hk => exact ⟨steady_rollback ⟨p, l⟩ s, unissued_of_log rfl⟩
  | seen evs hevs =>
      rw [hnil hevs]
      exact still_of_same rfl rfl rfl rfl rfl
  | added l row hrow =>
      refine ⟨⟨?_, Int.le_refl _⟩, unissued_of_log rfl⟩
      intro hplain
      refine ⟨hplain.update ⟨p, l⟩ ?_, rfl, rfl⟩
      intro row' hrow'
      rcases List.mem_cons.mp hrow' with rfl | hmem
      · exact hrow
      · exact hplain ⟨p, l⟩ row' hmem
  | _ => exact still_of_same rfl rfl rfl rfl rfl

theorem within_outside {p : Nat} {x : Prog α}
    (h : Within (WorkerStep p (fun _ => True) (fun _ => False)
      (fun row => row.escalation?.isSome = true)) x) :
    Within Still x :=
  h.mono (fun _ _ hs => hs.still)

/-! #### The adapter -/

theorem AdapterStep.still {p : Nat} {s s' : Db} (h : AdapterStep p s s') : Still s s' := by
  cases h with
  | outside h => exact still_of_same h.added h.resources h.decisions h.now h.log
  | observed evs hevs h =>
      exact ⟨steady_of_same h.added h.resources h.decisions h.now, hevs.unissued h.log⟩
  | commit t ht evs hevs => exact ⟨steady_commit t evs s, hevs.unissued rfl⟩
  | rollback t ht => exact ⟨steady_rollback t s, unissued_of_log rfl⟩

/-- A part of the adapter issues nothing. -/
theorem within_part {p : Nat} {x : Prog α} (h : Within (AdapterStep p) x) : Within Still x :=
  h.mono (fun _ _ hs => hs.still)

/-! #### The whole node

Every step of it keeps bindings and decisions.
-/

theorem steady_record (evs : List Event) (s : Db) : Steady s (s.record evs) :=
  steady_of_same rfl rfl rfl rfl

theorem Within.steady {x : Prog α} (h : Within Still x) : Within Steady x :=
  h.mono (fun _ _ hs => hs.steady)

theorem within_execute (p : Nat) (ad : DockerExecutionAdapter) (intent : ExecutionIntent) :
    Within Steady (execute p ad intent) :=
  execute_within (fun _ _ hs => hs.still.steady) (fun s _ => steady_record _ s) ad intent

theorem within_executeNode (p : Nat) (ad : DockerExecutionAdapter) (state : IncidentGraphState) :
    Within Steady (executeNode p ad.actor (ad.provider p) state) := by
  refine Within.bind (Within.steady (within_outside (workerStep_retrieveIntent permits_all _)))
    (fun intent =>
    Within.bind (Within.handle (Within.bind
      (Within.steady (within_part (adapterStep_precheck _ _ _)))
      (fun _ => within_pure _)) (fun e => within_pure _)) (fun prechecked => ?_))
  cases prechecked with
  | some reason =>
      exact Within.steady (within_outside
        (workerStep_escalatePrecheck permits_all (fun _ => rfl) _ _))
  | none =>
      refine Within.bind (Within.steady (within_outside (workerStep_unitOfWork_unseen trivial
        (workerStep_advanceIncident trivial _ _ _)))) (fun _ => Within.bind (within_execute _ _ _)
          (fun outcome => ?_))
      split
      · exact Within.steady (within_outside (workerStep_recordSuccess permits_all _ _ _))
      · exact Within.steady (within_outside
          (workerStep_recordFailure permits_all (fun _ => rfl) _ _))

end Still

/-! ### What the checks let pass -/

section Checks

variable {intent : ExecutionIntent}

theorem checkBinding_ok {found : Option Resource} (h : checkBinding intent found = .ok ()) :
    ∃ resource, found = some resource ∧ resource.boundContainer = some intent.containerId ∧
      resource.generation = intent.bindingGeneration := by
  unfold checkBinding at h
  cases found with
  | none => simp [throw, throwThe, MonadExceptOf.throw] at h
  | some resource =>
      simp only at h
      split at h
      · simp [throw, throwThe, MonadExceptOf.throw] at h
      · split at h
        · simp [throw, throwThe, MonadExceptOf.throw] at h
        · rename_i bound hbound
          split at h
          · simp [throw, throwThe, MonadExceptOf.throw] at h
          · rename_i hsame
            split at h
            · simp [throw, throwThe, MonadExceptOf.throw] at h
            · rename_i hgen
              simp only [ne_eq, not_not] at hsame hgen
              exact ⟨resource, rfl, by rw [hbound, hsame], hgen⟩

theorem checkDecision_ok {found : Option PolicyDecision} {decision : PolicyDecision}
    (h : checkDecision found = .ok decision) :
    found = some decision ∧ decision.decision ≠ .deny ∧ decision.decision ≠ .defer := by
  unfold checkDecision at h
  cases found with
  | none => simp [throw, throwThe, MonadExceptOf.throw] at h
  | some d =>
      simp only at h
      split at h
      · simp [throw, throwThe, MonadExceptOf.throw] at h
      · simp [throw, throwThe, MonadExceptOf.throw] at h
      · rename_i hdeny hdefer
        simp only [pure, Except.pure, Except.ok.injEq] at h
        subst h
        exact ⟨rfl, hdeny, hdefer⟩

theorem checkGrant_ok {found : Option Approval} {now : Int} (h : checkGrant found now = .ok ()) :
    ∃ grant, found = some grant ∧ now < grant.expiresAt := by
  unfold checkGrant at h
  cases found with
  | none => simp [throw, throwThe, MonadExceptOf.throw] at h
  | some grant =>
      simp only at h
      split at h
      · simp [throw, throwThe, MonadExceptOf.throw] at h
      · rename_i hexp
        exact ⟨grant, rfl, by omega⟩

theorem controlSafety_ok {r : Nat} {found : Option AutomationControl}
    (h : AutomationControl.checkSafety r found = .ok ()) :
    ∀ control, found = some control →
      control.mode ≠ .disabled ∧ toString r ∉ control.emergencyStoppedResources := by
  intro control hc
  subst hc
  unfold AutomationControl.checkSafety at h
  simp only at h
  split at h
  · simp [throw, throwThe, MonadExceptOf.throw] at h
  · rename_i hmode
    split at h
    · simp [throw, throwThe, MonadExceptOf.throw] at h
    · rename_i hstop
      exact ⟨hmode, hstop⟩

theorem lockSafety_ok {r : Nat} {found : Option ResourceLock}
    (h : ResourceLock.checkSafety r found = .ok ()) :
    ∀ lock, found = some lock → lock.quarantined = false := by
  intro lock hl
  subst hl
  unfold ResourceLock.checkSafety at h
  simp only at h
  split at h
  · simp [throw, throwThe, MonadExceptOf.throw] at h
  · rename_i hq
    simpa using hq

end Checks

/-! ### What a precheck has seen

The reads of the precheck are several statements.  What they saw is moved forward to the state at
its end, by what every step keeps.
-/

section Precheck

variable {p : Nat} {ad : DockerExecutionAdapter} {intent : ExecutionIntent}
  {steps : List (Db × Db)}

/-- The controls that are returned are in sight of the transaction. -/
theorem took_getAutomationControls {t : TxId} {actor : String} {control : AutomationControl}
    (h : (getAutomationControls t actor).Took steps (.ok control)) :
    ∃ q ∈ steps, q.2.control.visible t = some control := by
  obtain ⟨found, l, l', rfl, hread, hrest⟩ := took_bind_ok h
  obtain ⟨s, rfl, rfl⟩ := took_select_ok hread
  cases hvis : s.control.visible t with
  | some c =>
      rw [hvis] at hrest
      obtain ⟨-, heq⟩ := took_pure.mp hrest
      simp only [Except.ok.injEq] at heq
      subst heq
      exact ⟨(s, s), by simp, hvis⟩
  | none =>
      rw [hvis] at hrest
      obtain ⟨now, l₁, l₂, rfl, -, hrest⟩ := took_bind_ok hrest
      obtain ⟨_u, l₃, l₄, rfl, hinsert, hpure⟩ := took_bind_ok hrest
      obtain ⟨-, heq⟩ := took_pure.mp hpure
      simp only [Except.ok.injEq] at heq
      obtain ⟨u, u', rfl, ⟨hbad, -⟩ | hf⟩ := took_sql hinsert
      · simp at hbad
      · simp only at hf
        split at hf
        · split at hf
          · simp at hf
          · simp only [Option.some.injEq, Prod.mk.injEq] at hf
            refine ⟨(u, u'), by simp, ?_⟩
            rw [← hf.2, heq]
            exact Cell.visible_write _
        · simp at hf

/-- **A precheck that passes has seen the intent authorised**, if nothing that it reads but the
controls and the approvals has changed meanwhile. -/
theorem authorises_of_took (h : (precheckRecords p ad intent).Took steps (.ok ()))
    {resources : Nat → Option Resource} {decisions : List PolicyDecision}
    (hsame : ∀ q ∈ steps, q.2.resources = resources ∧ q.2.decisions = decisions)
    (hclock : steps.Pairwise fun q q' => q.2.now ≤ q'.1.now) :
    ∃ q ∈ steps, Authorises p intent q.2 := by
  unfold precheckRecords at h
  obtain ⟨found, l₁, r₁, rfl, hread, h₁⟩ := took_bind_ok h
  obtain ⟨s₁, rfl, rfl⟩ := took_select_ok hread
  obtain ⟨_u, l₂, r₂, rfl, hcheck, h₂⟩ := took_bind_ok h₁
  obtain ⟨rfl, hbinding⟩ := took_check_ok hcheck
  obtain ⟨latest, l₃, r₃, rfl, hread', h₃⟩ := took_bind_ok h₂
  obtain ⟨s₂, rfl, rfl⟩ := took_select_ok hread'
  obtain ⟨decision, l₄, r₄, rfl, hcheck', h₄⟩ := took_bind_ok h₃
  obtain ⟨rfl, hdecision⟩ := took_check_ok hcheck'
  obtain ⟨control, l₅, r₅, rfl, hcontrols, h₅⟩ := took_bind_ok h₄
  obtain ⟨_u, l₆, r₆, rfl, happroval, -⟩ := took_bind_ok h₅
  obtain ⟨resource, hres, hbound, hgen⟩ := checkBinding_ok hbinding
  obtain ⟨hdec, hdeny, hdefer⟩ := checkDecision_ok hdecision
  -- what was read at the beginning is still there in every later state
  have hat : ∀ q ∈ ([(s₁, s₁)] ++ ([] ++ ([(s₂, s₂)] ++ ([] ++ (l₅ ++ (l₆ ++ r₆)))))),
      (decision.decision = .requireApproval ∨
        (q.2.control.visible ⟨p, 0⟩).map AutomationControl.mode = some .approvalRequired →
        ∃ grant ∈ q.2.grants intent.planId intent.planVersion, q.2.now < grant.expiresAt) →
      Authorises p intent q.2 := by
    intro q hq hgrant
    have hres₁ := (hsame (s₁, s₁) (by simp)).1
    have hdec₂ := (hsame (s₂, s₂) (by simp)).2
    obtain ⟨hresq, hdecq⟩ := hsame q hq
    refine ⟨⟨resource, ?_, hbound, hgen⟩, decision, ?_, hdeny, hdefer, hgrant⟩
    · rw [hresq, ← hres₁]
      exact hres
    · unfold Db.latestPolicyDecision at hdec ⊢
      rw [hdecq, ← hdec₂]
      exact hdec
  unfold checkApproval at happroval
  by_cases hneeded : decision.decision = .requireApproval ∨ control.mode = .approvalRequired
  · rw [if_pos hneeded] at happroval
    obtain ⟨grant, l₇, r₇, rfl, hread, hrest⟩ := took_bind_ok happroval
    obtain ⟨s₄, rfl, rfl⟩ := took_select_ok hread
    obtain ⟨now, l₈, r₈, rfl, hnow, hcheck⟩ := took_bind_ok hrest
    obtain ⟨s₅, rfl, heq⟩ := took_datetimeNow hnow
    simp only [Except.ok.injEq] at heq
    subst heq
    obtain ⟨rfl, hgrant⟩ := took_check_ok hcheck
    obtain ⟨grant, hhead, hlater⟩ := checkGrant_ok hgrant
    have hsub : [(s₄, s₄), (s₅, s₅)].Sublist ([(s₁, s₁)] ++ ([] ++ ([(s₂, s₂)] ++ ([] ++
        (l₅ ++ ([(s₄, s₄)] ++ ([(s₅, s₅)] ++ []) ++ r₆)))))) :=
      (((List.sublist_append_left [(s₄, s₄), (s₅, s₅)] r₆).trans
        (List.sublist_append_right l₅ _)).cons (s₂, s₂)).cons (s₁, s₁)
    have hle : s₄.now ≤ s₅.now := by
      have hpair := List.Pairwise.sublist hsub hclock
      rw [List.pairwise_pair] at hpair
      exact hpair
    refine ⟨(s₄, s₄), by simp, hat (s₄, s₄) (by simp) (fun _ => ⟨grant, ?_,
      Int.lt_of_le_of_lt hle hlater⟩)⟩
    exact List.mem_of_head? hhead
  · rw [if_neg hneeded] at happroval
    obtain ⟨q, hq, hvis⟩ := took_getAutomationControls hcontrols
    refine ⟨q, by simp [hq], hat q (by simp [hq]) ?_⟩
    intro hor
    rw [hvis, Option.map_some, Option.some.injEq] at hor
    exact absurd hor hneeded

/-- The steps of a precheck that has passed hold those of its transaction. -/
theorem took_precheck {snapshot : ContainerSnapshot}
    (h : (precheck p ad intent).Took steps (.ok snapshot)) :
    ∃ before l after, steps = before ++ l ++ after ∧
      (precheckRecords p ad intent).Took l (.ok ()) := by
  have hrest : ∀ {l : List (Db × Db)}, (do
      let attrs ← tryCatch (inspectContainer none intent.containerId) fun e =>
        let text := e.message
        if e.exc = .containerNotFoundError then
          throw (targetRecreated
            s!"Target container {intent.containerId} not found in Docker daemon: {text}")
        else throw (precheckFailed s!"Docker inspection precheck failed: {text}")
      check (checkLabels intent attrs)
      unitOfWork ⟨p, 0⟩ ad.actor (precheckRecords p ad intent)
      takeSnapshot none intent.containerId : Prog ContainerSnapshot).Took l (.ok snapshot) →
      ∃ before tx after, l = before ++ tx ++ after ∧
        (precheckRecords p ad intent).Took tx (.ok ()) := by
    intro l hl
    obtain ⟨attrs, l₁, r₁, rfl, -, h₁⟩ := took_bind_ok hl
    obtain ⟨_u, l₂, r₂, rfl, -, h₂⟩ := took_bind_ok h₁
    obtain ⟨_u, l₃, r₃, rfl, hwork, -⟩ := took_bind_ok h₂
    obtain ⟨before, tx, after, rfl, htx⟩ := took_unitOfWork hwork
    exact ⟨l₁ ++ l₂ ++ before, tx, after ++ r₃, by simp, htx⟩
  unfold precheck at h
  by_cases hservice : intent.serviceName ≠ "demo-api"
  · simp only [if_pos hservice] at h
    obtain ⟨_u, l, r, -, hbad, -⟩ := took_bind_ok h
    obtain ⟨-, hbad⟩ := took_throw.mp hbad
    simp at hbad
  · simp only [if_neg hservice] at h
    exact hrest h

end Precheck

/-! ### What the lock transaction has seen -/

section Lock

variable {p : Nat} {ad : DockerExecutionAdapter} {intent : ExecutionIntent}
  {steps : List (Db × Db)}

theorem took_checkSafety {t : TxId} {r : Nat} (h : (checkSafety t r none).Took steps (.ok ())) :
    (∃ q ∈ steps, ∀ control, q.1.control.visible t = some control →
        control.mode ≠ .disabled ∧ toString r ∉ control.emergencyStoppedResources) ∧
      ∃ q ∈ steps, ∀ lock, (q.1.locks r).visible t = some lock → lock.quarantined = false := by
  obtain ⟨control, l₁, r₁, rfl, hread, h₁⟩ := took_bind_ok h
  obtain ⟨s₁, rfl, rfl⟩ := took_select_ok hread
  obtain ⟨_u, l₂, r₂, rfl, hcheck, h₂⟩ := took_bind_ok h₁
  obtain ⟨rfl, hcontrol⟩ := took_check_ok hcheck
  obtain ⟨lock, l₃, r₃, rfl, hread', h₃⟩ := took_bind_ok h₂
  obtain ⟨s₂, rfl, rfl⟩ := took_select_ok hread'
  obtain ⟨rfl, hlock⟩ := took_check_ok h₃
  exact ⟨⟨(s₁, s₁), by simp, controlSafety_ok hcontrol⟩, (s₂, s₂), by simp, lockSafety_ok hlock⟩

/-- **A lock transaction that goes on has seen** automation enabled and the resource neither
stopped nor quarantined. -/
theorem took_claim {claim : Claim}
    (h : (unitOfWork ⟨p, 0⟩ ad.actor (claimExecution p ad intent)
      (Claim.seen p ad intent)).Took steps (.ok claim)) :
    (∃ q ∈ steps, SeesEnabled p intent.resourceId q.1) ∧
      ∃ q ∈ steps, SeesUnquarantined p intent.resourceId q.1 := by
  obtain ⟨before, l, after, rfl, hclaim⟩ := took_unitOfWork h
  obtain ⟨token, l₁, r₁, rfl, hacquire, -⟩ := took_bind_ok hclaim
  have hduration : ¬ ((120 : Int) < 1 ∨ (3600 : Int) < 120) := by omega
  unfold acquireLock at hacquire
  simp only [if_neg hduration] at hacquire
  obtain ⟨_u, l₂, r₂, rfl, hsafe, -⟩ := took_bind_ok hacquire
  obtain ⟨⟨q, hq, hcontrol⟩, q', hq', hlock⟩ := took_checkSafety hsafe
  exact ⟨⟨q, by simp [hq], hcontrol⟩, q', by simp [hq'], hlock⟩

end Lock

/-! ### The way to the Docker call -/

section Issue

variable {p : Nat} {ad : DockerExecutionAdapter} {intent issued : ExecutionIntent}
  {earlier : List (Db × Db)} {s s' : Db} (hlog : s'.log = .restartIssued p issued :: s.log)

include hlog

theorem not_still : ¬ Still s s' := fun h => h.unissued p issued hlog

theorem began_restartContainer (h : Began (restartContainer p intent) (earlier ++ [(s, s')])) :
    issued = intent := by
  have hobserve := h.first (not_still hlog) (fun _ => within_part (adapterStep_endRestart p intent))
  rcases began_stmt hobserve with hbad | ⟨w, u, r, u', heq, hf⟩
  · simp at hbad
  · obtain ⟨-, hlast⟩ := List.append_inj' (show earlier ++ [(s, s')] = [] ++ [(u, u')] from heq) rfl
    simp only [List.cons.injEq, Prod.mk.injEq, and_true] at hlast
    obtain ⟨rfl, rfl⟩ := hlast
    simp only [Option.some.injEq, Prod.mk.injEq] at hf
    rw [← hf.2] at hlog
    have hhead := (List.cons.inj hlog).1
    simp only [Event.restartIssued.injEq, true_and] at hhead
    exact hhead.symm

/-- Before the restart, the lock transaction has given leave to dispatch. -/
theorem began_executeLocked {pre : ContainerSnapshot}
    (h : Began (executeLocked p ad intent pre) (earlier ++ [(s, s')])) :
    issued = intent ∧ ∃ lock after token id version, earlier = lock ++ after ∧
      (unitOfWork ⟨p, 0⟩ ad.actor (claimExecution p ad intent) (Claim.seen p ad intent)).Took
        lock (.ok (.dispatch token id version)) := by
  have hnot := not_still hlog
  obtain ⟨claim, lock, after, rfl, hclaim, hrest⟩ := h.skip hnot
    (within_part (adapterStep_claimed p ad intent))
  cases claim with
  | settled outcome =>
      have hbad := began_pure hrest
      simp at hbad
  | dispatch token id version =>
      have hdispatch := hrest.tried hnot (fun e => within_part (adapterStep_returned p intent))
      obtain ⟨time, l, l', rfl, -, hcall⟩ := hdispatch.skip hnot
        (within_part (adapterStep_dispatchNow p intent))
      have hrestart := hcall.first hnot
        (fun answer => within_part (adapterStep_concludeDispatch _ _ _ _ _ _ _ _ _))
      exact ⟨began_restartContainer hlog hrestart, lock, l ++ l', token, id, version, rfl, hclaim⟩

theorem began_execute (h : Began (execute p ad intent) (earlier ++ [(s, s')])) :
    (∃ pre, issued = { intent with preState := some pre }) ∧
      ∃ before lock after token id version, earlier = before ++ lock ++ after ∧
        (unitOfWork ⟨p, 0⟩ ad.actor (claimExecution p ad issued) (Claim.seen p ad issued)).Took
          lock (.ok (.dispatch token id version)) := by
  have hnot := not_still hlog
  obtain ⟨_u, l₁, r₁, rfl, -, h₁⟩ := h.skip hnot
    (within_part (p := p) (adapterStep_observe (harmless_singleton rfl)))
  obtain ⟨early, l₂, r₂, rfl, -, h₂⟩ :=
    h₁.skip hnot
      (within_part (adapterStep_unitOfWork_unseen (adapterStep_earlyCheck p ad intent)))
  cases early with
  | some outcome =>
      have hbad := began_pure h₂
      simp at hbad
  | none =>
      obtain ⟨pre, l₃, r₃, rfl, -, h₃⟩ := h₂.skip hnot
        (within_part (p := p) (adapterStep_takeSnapshot _ _))
      obtain ⟨_u, l₄, r₄, rfl, -, h₄⟩ := h₃.skip hnot
        (within_part (adapterStep_enterDispatch _ _ _))
      have hbody := h₄.first hnot
        (fun outcome => Within.bind (within_part (p := p) (adapterStep_leaveDispatch _ _))
        (fun _ => within_pure _))
      have hlocked := hbody.tried hnot
        (fun e => Within.bind (within_part (p := p) (adapterStep_leaveDispatch _ _))
        (fun _ => within_throw e))
      obtain ⟨heq, lock, after, token, id, version, rfl, hclaim⟩ :=
        began_executeLocked hlog hlocked
      subst heq
      exact ⟨⟨pre, rfl⟩, l₁ ++ l₂ ++ l₃ ++ l₄, lock, after, token, id, version, by simp, hclaim⟩

/-- **Before the restart of an execution node**, it has got its intent from the plan, its precheck
has passed, and then its lock transaction has given leave to dispatch. -/
theorem began_executeNode {state : IncidentGraphState}
    (h : Began (executeNode p ad.actor (ad.provider p) state) (earlier ++ [(s, s')])) :
    ∃ retrieved prechecked between lock after,
      earlier = retrieved ++ prechecked ++ between ++ lock ++ after ∧
      (∃ intent pre snapshot, issued = { intent with preState := some pre } ∧
        (retrieveIntent p ad.actor state).Took retrieved (.ok intent) ∧
        (precheck p ad intent).Took prechecked (.ok snapshot)) ∧
      ∃ token id version, (unitOfWork ⟨p, 0⟩ ad.actor (claimExecution p ad issued)
        (Claim.seen p ad issued)).Took lock (.ok (.dispatch token id version)) := by
  have hnot := not_still hlog
  obtain ⟨intent, l₁, r₁, rfl, hintent, h₁⟩ :=
    h.skip hnot (within_outside (workerStep_retrieveIntent permits_all _))
  obtain ⟨result, l₂, r₂, rfl, hpre, h₂⟩ := h₁.skip hnot (Within.handle (Within.bind
    (within_part (adapterStep_precheck p ad intent)) (fun _ => within_pure _))
      (fun e => within_pure _))
  cases result with
  | some reason =>
      exact absurd h₂ ((within_outside
        (workerStep_escalatePrecheck permits_all (fun _ => rfl) _ _)).not_began hnot)
  | none =>
      obtain ⟨_u, l₃, r₃, rfl, -, h₃⟩ :=
        h₂.skip hnot
          (within_outside (workerStep_unitOfWork_unseen trivial
            (workerStep_advanceIncident trivial _ _ _)))
      have hexecute := h₃.first hnot (fun outcome => by
        split
        · exact within_outside (workerStep_recordSuccess permits_all _ _ _)
        · exact within_outside (workerStep_recordFailure permits_all (fun _ => rfl) _ _))
      obtain ⟨⟨pre, hissued⟩, before, lock, after, token, id, version, rfl, hclaim⟩ :=
        began_execute hlog hexecute
      rcases took_tryCatch hpre with ⟨a, htry, ha⟩ | ⟨e, l, l', -, -, hcatch⟩
      · simp only [Except.ok.injEq] at ha
        subst ha
        obtain ⟨snapshot, l, l', rfl, hpass, hpure⟩ := took_bind_ok htry
        obtain ⟨rfl, -⟩ := took_pure.mp hpure
        exact ⟨l₁, l, l₃ ++ before, lock, after, by simp,
          ⟨intent, pre, snapshot, hissued, hintent, hpass⟩, token, id, version, hclaim⟩
      · obtain ⟨-, hbad⟩ := took_pure.mp hcatch
        simp at hbad

end Issue

/-! ### Every restart -/

theorem Plain.of_none {db : Db} (h : ∀ t, db.added t = []) : Plain db := by
  intro t row hrow
  rw [h t] at hrow
  simp at hrow

theorem steady_env (e : OperatorEnv) (s s' : Db) (h : e.apply s = some s') : Steady s s' := by
  cases e with
  | tick elapsed =>
      simp only [OperatorEnv.apply, Option.some.injEq] at h
      rw [← h]
      refine ⟨fun hplain => ⟨hplain, rfl, rfl⟩, ?_⟩
      show s.now ≤ s.now + elapsed
      omega
  | control c =>
      simp only [OperatorEnv.apply, Option.some.injEq] at h
      rw [← h]
      exact steady_of_same rfl rfl rfl rfl
  | decided approval incidentId incident =>
      simp only [OperatorEnv.apply, Option.some.injEq] at h
      rw [← h]
      exact steady_of_same rfl rfl rfl rfl

theorem steady_crash (p : Nat) (s : Db) : Steady s (s.crash p) :=
  ((steady_rollback ⟨p, 0⟩ s).trans (steady_rollback ⟨p, 1⟩ _)).trans
    (steady_of_same rfl rfl rfl rfl)

theorem within_nodeMachine (p : Nat) (call : NodeCall) :
    (nodeMachine.prog p call).Within Steady :=
  Proc.Within.bind (within_executeNode p call.adapter call.state).run (fun _ => trivial)

/-- What a call of the node has done is what the node has done. -/
theorem began_of_went {p : Nat} {call : NodeCall} {l : List (Db × Db)} {y : Proc World Db Unit}
    (h : Proc.Went (nodeMachine.prog p call) l y) :
    Began (executeNode p call.adapter.actor (call.adapter.provider p) call.state) l :=
  began_of_run h

/-- **No restart without leave.**  For every restart that an execution node has issued, in any
interleaving with other nodes and with operators: earlier in the same call, a precheck has passed
that has been in a state which authorises the intent; and after it, the transaction that gave
leave to dispatch has seen automation enabled, the resource not stopped, and not quarantined. -/
theorem restart_authorised {db₀ : Db} (hadded : ∀ t, db₀.added t = []) {c : Config World Db}
    {steps : Nat → List (Db × Db)} (h : Recorded nodeMachine db₀ c steps) {p : Nat}
    {earlier later : List (Db × Db)} {s s' : Db} {intent : ExecutionIntent}
    (hsteps : steps p = earlier ++ (s, s') :: later)
    (hissued : s'.log = .restartIssued p intent :: s.log) :
    ∃ ad before prechecked between lock after,
      earlier = before ++ prechecked ++ between ++ lock ++ after ∧
      (∃ proposed pre snapshot, intent = { proposed with preState := some pre } ∧
        (precheck p ad proposed).Took prechecked (.ok snapshot)) ∧
      (∃ q ∈ prechecked, Authorises p intent q.2) ∧
      (∃ token id version, (unitOfWork ⟨p, 0⟩ ad.actor (claimExecution p ad intent)
        (Claim.seen p ad intent)).Took lock (.ok (.dispatch token id version))) ∧
      (∃ q ∈ lock, SeesEnabled p intent.resourceId q.1) ∧
      ∃ q ∈ lock, SeesUnquarantined p intent.resourceId q.1 := by
  -- every step keeps bindings, decisions and the direction of time
  have hordered := (h.ordered (R := Steady) (fun _ _ _ => Steady.trans) Steady.refl
    within_nodeMachine steady_crash steady_env).2 p
  rw [hsteps] at hordered
  obtain ⟨call, y, hwent⟩ := h.went_upto hsteps
  obtain ⟨before, prechecked, between, lock, after, rfl,
    ⟨proposed, pre, snapshot, hintent, -, hpass⟩, token, id, version, hclaim⟩ :=
    began_executeNode hissued (began_of_went hwent)
  refine ⟨call.adapter, before, prechecked, between, lock, after, rfl,
    ⟨proposed, pre, snapshot, hintent, hpass⟩, ?_, ⟨token, id, version, hclaim⟩,
    took_claim hclaim⟩
  obtain ⟨b, tx, a, rfl, htx⟩ := took_precheck hpass
  have hkept := hordered.mem (fun _ _ _ h₁ h₂ => h₁.trans h₂)
  have hclock := hordered.pairwise (fun _ _ _ h₁ h₂ => h₁.trans h₂)
  have hsub : tx.Sublist ((before ++ b) ++ (tx ++ (a ++ between ++ lock ++ after ++
      (s, s') :: later))) :=
    (List.sublist_append_left tx _).trans (List.sublist_append_right _ _)
  simp only [List.append_assoc] at hsub hclock
  obtain ⟨q, hq, hauth⟩ := authorises_of_took htx
    (fun q hq => ((hkept q (by simp [hq])).2.kept (Plain.of_none hadded)).2)
    (List.Pairwise.sublist hsub (hclock.imp (fun hs => hs.clock)))
  subst hintent
  exact ⟨q, by simp [hq], hauth⟩

def approvedIncident : Incident :=
  { id := 1, resourceId := 4, correlationKey := "k", state := .approved, approvalRequired := true,
    updatedAt := 0 }

/-- An incident with a plan that has been approved. -/
def approvedDemo : Db :=
  { Db.init 0 with
    incidents := Function.update (fun _ => Cell.empty) 1 (Cell.ofRow approvedIncident)
    resources := Function.update (fun _ => none) 4
      (some ⟨4, "demo-api", "local", some "0123456789ab", none, some 1, none⟩)
    plans := [⟨2, 1, 0, 1, "LOW", true, "", some "0123456789ab", some 1, none⟩]
    steps := [⟨3, 2, 4, 1, "restart_container", some "0123456789ab", some 1, none, none⟩]
    decisions := [⟨5, 1, 2, 1, .requireApproval, []⟩]
    approvals := [⟨6, 2, 1, "operator:a", .approve, none, 0, seconds 3600⟩] }

def managedLabels : List (String × String) :=
  [("self-healing.managed", "true"), ("com.docker.compose.service", "demo-api")]

def managedContainer : World :=
  { inspect := .answered
      { id := "0123456789ab", status := "running", labels := managedLabels } }

/-- What the node makes of that plan. -/
def approvedRestart : ExecutionIntent :=
  { incidentId := 1, planId := 2, planVersion := 1, stepId := 3, attemptNumber := 1,
    resourceId := 4, containerId := "0123456789ab", bindingGeneration := 1,
    idempotencyKey := "exec:1:1:3:1",
    preState := some
      { containerId := "0123456789ab", status := "running", labels := managedLabels } }

/-- A node restarts the container after an approval, while time passes. -/
theorem restart_authorised_by_approval :
    ∃ c steps, Recorded nodeMachine approvedDemo c steps ∧
      ∃ earlier s s' later, steps 0 = earlier ++ (s, s') :: later ∧
        s'.log = .restartIssued 0 approvedRestart :: s.log ∧
        (∃ q ∈ earlier, Authorises 0 approvedRestart q.2) ∧
        (∃ q ∈ earlier, SeesEnabled 0 4 q.1) ∧ ∃ q ∈ earlier, SeesUnquarantined 0 4 q.1 := by
  obtain ⟨c, steps, hr, htest⟩ := Machine.recorded_of_exec nodeMachine approvedDemo
    (.start 0 ⟨⟨0, "worker:a"⟩, { incidentId := 1, resourceId := 4, currentPlanId := some 2 }⟩ ::
      List.replicate 5 (.run 0 managedContainer) ++ [.env (.tick 5)] ++
      List.replicate 39 (.run 0 managedContainer))
    (fun _ steps => (steps 0).any fun q =>
      decide (q.2.log = .restartIssued 0 approvedRestart :: q.1.log)) (by decide +kernel)
  obtain ⟨q, hq, hlog⟩ := List.any_eq_true.mp htest
  obtain ⟨earlier, later, hsteps⟩ := List.append_of_mem hq
  simp only [decide_eq_true_eq] at hlog
  obtain ⟨ad, before, prechecked, between, lock, after, rfl, -, ⟨q₁, h₁, hauth⟩, -,
    ⟨q₂, h₂, henabled⟩, q₃, h₃, hfree⟩ :=
    restart_authorised (show ∀ t, approvedDemo.added t = [] from fun _ => rfl) hr hsteps hlog
  exact ⟨c, steps, hr, _, q.1, q.2, later, hsteps, hlog, ⟨q₁, by simp [h₁], hauth⟩,
    ⟨q₂, by simp [h₂], henabled⟩, q₃, by simp [h₃], hfree⟩

end SelfHealing
