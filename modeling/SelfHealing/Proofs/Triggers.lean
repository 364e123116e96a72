/-
The repository and the triggers of the database agree.

The state machine of incidents is written twice, once in the repository and once in a trigger.
Whatever the repository writes, in whatever order its callers come, the trigger lets pass as it
is; and whatever change of state the trigger lets pass, `transition` makes.  The trigger on
executions lets pass whatever is recorded there.

A trigger is shown the row that is written over, while the repository has decided on a row that
it read before.  They are the same row because the versions of a row rise.

Agreement is said in both directions: nothing that the repository writes is refused, and nothing is
let through that the repository would not do.
-/
import SelfHealing.Proofs.Repository
import SelfHealing.Proofs.AdapterProtocol
import SelfHealing.Triggers

namespace SelfHealing

open Interleaving Interleaving.Protocol Interleaving.Prog ReadCommitted

/-! ### One write to an incident

The guard of the trigger and the checks of the repository are two tables of the same state machine,
and they are compared entry by entry.  Beyond the states, the trigger looks at the version, at the
approval and at the attempts, and the repository has seen to these by itself.
-/

/-- The two tables of transitions are the same. -/
theorem guardAllows_eq (state : IncidentState) : state.guardAllows = state.transitions := by
  cases state <;> rfl

/-- A row leaves `PLANNED` the right way exactly if `transition` would route it so. -/
theorem misrouted_eq_false {old new : Incident} :
    old.misrouted new = false ↔ (old.state = .planned → new.state ≠ .escalated →
      new.state = if old.approvalRequired then .pendingApproval else .executing) := by
  unfold Incident.misrouted
  by_cases hp : old.state = .planned
  · by_cases he : new.state = .escalated
    · simp [hp, he]
    · cases ha : old.approvalRequired <;> simp [hp, he]
  · simp [hp]

/-- What the trigger asks of an update. -/
structure GuardPasses (old new : Incident) : Prop where
  version : new.version = old.version + 1
  edge : new.state ≠ old.state → new.state ∈ old.state.guardAllows
  routed : new.state ≠ old.state → old.misrouted new = false
  retry : old.retries new.state = true →
    old.attempts < old.retryLimit ∧ new.attempts = old.attempts + 1
  steady : old.retries new.state = false → new.attempts = old.attempts

/-- The row as the trigger stores it. -/
def stored (now : Int) (new : Incident) : Incident :=
  { new with
    resolvedAt := if new.state = .resolved then some now else new.resolvedAt
    updatedAt := now }

theorem guardIncident_of_passes {old new : Incident} (now : Int) (h : GuardPasses old new) :
    guardIncident now (some old) new = .ok (stored now new) := by
  have hedge : ¬ (new.state ≠ old.state ∧ new.state ∉ old.state.guardAllows) :=
    fun hc => hc.2 (h.edge hc.1)
  have hrouted : ¬ (new.state ≠ old.state ∧ old.misrouted new = true) := by
    intro hc
    rw [h.routed hc.1] at hc
    exact absurd hc.2 (by simp)
  have hretry : ¬ (old.retries new.state = true ∧
      (old.retryLimit ≤ old.attempts ∨ new.attempts ≠ old.attempts + 1)) := by
    intro hc
    obtain ⟨hlt, heq⟩ := h.retry hc.1
    rcases hc.2 with hle | hne
    · omega
    · exact hne heq
  have hsteady : ¬ (old.retries new.state = false ∧ new.attempts ≠ old.attempts) :=
    fun hc => hc.2 (h.steady hc.1)
  have hversion : ¬ new.version ≠ old.version + 1 := fun hc => hc h.version
  show (if new.version ≠ old.version + 1 then _ else _) = _
  rw [if_neg hversion, if_neg hedge, if_neg hrouted, if_neg hretry, if_neg hsteady]
  rfl

theorem passes_of_guardIncident {old new row : Incident} {now : Int}
    (h : guardIncident now (some old) new = .ok row) : GuardPasses old new := by
  unfold guardIncident at h
  simp only at h
  split at h
  · simp [throw, throwThe, MonadExceptOf.throw] at h
  rename_i hversion
  split at h
  · simp [throw, throwThe, MonadExceptOf.throw] at h
  rename_i hedge
  split at h
  · simp [throw, throwThe, MonadExceptOf.throw] at h
  rename_i hrouted
  split at h
  · simp [throw, throwThe, MonadExceptOf.throw] at h
  rename_i hretry
  split at h
  · simp [throw, throwThe, MonadExceptOf.throw] at h
  rename_i hsteady
  refine ⟨?_, ?_, ?_, ?_, ?_⟩
  · by_contra hc
    exact hversion hc
  · intro hne
    by_contra hc
    exact hedge ⟨hne, hc⟩
  · intro hne
    by_contra hc
    exact hrouted ⟨hne, by simpa using hc⟩
  · intro hr
    refine ⟨?_, ?_⟩
    · by_contra hc
      exact hretry ⟨hr, Or.inl (by omega)⟩
    · by_contra hc
      exact hretry ⟨hr, Or.inr hc⟩
  · intro hr
    by_contra hc
    exact hsteady ⟨hr, hc⟩

/-- **The trigger accepts** every write of the repository, and stores it as it is. -/
theorem guardIncident_of_write {v : Option Incident} {r : Incident}
    (h : IncidentWrite v (some r)) : ∃ now, guardIncident now v r = .ok r := by
  cases h with
  | create _ hstate hversion hattempts =>
      refine ⟨0, ?_⟩
      simp only [guardIncident, hstate, hversion, hattempts, ne_eq, not_true_eq_false, or_self,
        if_false]
      rfl
  | approval q now hstate =>
      have hretries : q.retries q.state = false := by
        simp [Incident.retries, hstate]
      have hpasses : GuardPasses q { q with
          approvalRequired := true, version := q.version + 1, updatedAt := now } := by
        refine ⟨rfl, ?_, ?_, ?_, fun _ => rfl⟩
        · exact fun hne => absurd rfl hne
        · exact fun hne => absurd rfl hne
        · intro hr
          rw [show q.retries q.state = true from hr] at hretries
          simp at hretries
      refine ⟨now, ?_⟩
      rw [guardIncident_of_passes now hpasses]
      simp [stored, hstate]
  | move q now target hadm =>
      refine ⟨now, ?_⟩
      rw [guardIncident_of_passes now ⟨version_transitioned q now target, ?_, ?_, ?_, ?_⟩]
      · by_cases hres : target = .resolved
        · simp [stored, Incident.transitioned, hres]
        · simp [stored, Incident.transitioned, hres]
      · intro _
        rw [guardAllows_eq]
        exact hadm.edge
      · exact fun _ => misrouted_eq_false.mpr hadm.routed
      · intro hr
        exact ⟨hadm.budget hr,
          by simp [Incident.transitioned, show q.retries target = true from hr]⟩
      · intro hr
        simp [Incident.transitioned, show q.retries target = false from hr]

/-- **What the trigger accepts, `transition` admits**, if the row changes its state. -/
theorem admitsTransition_of_guard {old new row : Incident} {now : Int}
    (h : guardIncident now (some old) new = .ok row) (hne : new.state ≠ old.state) :
    old.admitsTransition old.version new.state = .ok () := by
  have hp := passes_of_guardIncident h
  have hedge : new.state ∈ old.state.transitions := by
    rw [← guardAllows_eq]
    exact hp.edge hne
  have hrouted := misrouted_eq_false.mp (hp.routed hne)
  unfold Incident.admitsTransition validateTransition
  simp only [ne_eq, not_true_eq_false, if_false, hedge, if_true, pure_bind]
  have hbudget : ¬ (old.retries new.state = true ∧ old.retryLimit ≤ old.attempts) := by
    intro hc
    have := (hp.retry hc.1).1
    omega
  rw [if_neg hbudget]
  by_cases hplanned : old.state = .planned ∧ new.state ≠ .escalated
  · rw [if_pos hplanned, ← hrouted hplanned.1 hplanned.2]
    simp
    rfl
  · rw [if_neg hplanned]
    rfl

/-- What comes after the update may depend on the row that it returns. -/
theorem transition_updated {t : TxId} {db s : Db} {i : Nat} {old : Incident}
    {target : IncidentState} (hread : (getIncident t i).Ends db (.ok (some old)) db)
    (hcheck : (check (old.admitsTransition old.version target)).Ends db (.ok ()) db)
    (hupdate : (updateIncident t i fun now row =>
      if (row.version : Int) = old.version then
        some (old.transitioned now old.version target row)
      else none).Ends db (.ok (some (old.transitioned (db.txTime t) old.version target old))) s)
    {g : Option Incident → Prog Incident} {r : Except Err Incident}
    (hg : ∃ db', (g (some (old.transitioned (db.txTime t) old.version target old))).Ends s r db') :
    ∃ db', ((do
      let found ← getIncident t i
      match found with
      | none => throw ⟨.lookupError, "Incident not found"⟩
      | some incident =>
          check (incident.admitsTransition old.version target)
          let result ← updateIncident t i fun now row =>
            if (row.version : Int) = old.version then
              some (incident.transitioned now old.version target row)
            else none
          g result) : Prog Incident).Ends db r db' := by
  obtain ⟨db', hg⟩ := hg
  refine ⟨db', ?_⟩
  rw [ends_bind]
  refine Or.inl ⟨some old, db, hread, ?_⟩
  simp only
  rw [ends_bind]
  refine Or.inl ⟨(), db, hcheck, ?_⟩
  rw [ends_bind]
  exact Or.inl ⟨_, _, hupdate, hg⟩

/-- `transition` can return whenever it admits the move and nobody else has the row. -/
theorem transition_returns {t : TxId} {db : Db} {actor : String} {i : Nat} {old : Incident}
    {target : IncidentState} (hvis : (db.incidents i).visible t = some old)
    (hfree : (db.incidents i).free t = true)
    (hadm : old.admitsTransition old.version target = .ok ()) :
    ∃ db', (transition t actor i old.version target).Ends db
      (.ok (old.transitioned (db.txTime t) old.version target old)) db' := by
  have hread : (getIncident t i).Ends db (.ok (some old)) db :=
    ends_select.mpr ⟨rfl, Or.inr (by rw [hvis])⟩
  have hcheck : (check (old.admitsTransition old.version target)).Ends db (.ok ()) db := by
    rw [hadm]
    exact ends_pure.mpr ⟨rfl, rfl⟩
  have hupdate : (updateIncident t i fun now row =>
      if (row.version : Int) = old.version then
        some (old.transitioned now old.version target row)
      else none).Ends db
      (.ok (some (old.transitioned (db.txTime t) old.version target old)))
      (db.setIncident i ((db.incidents i).write t
        (some (old.transitioned (db.txTime t) old.version target old)))) := by
    refine ends_sql.mpr (Or.inr ?_)
    simp [hvis, hfree]
  unfold transition
  refine transition_updated hread hcheck hupdate ?_
  by_cases htarget : target = .approved
  · simp only [if_pos htarget]
    exact ⟨_, ends_bind.mpr (Or.inl ⟨_, _, ends_uuid4.mpr ⟨rfl, rfl⟩,
      ends_bind.mpr (Or.inl ⟨(), _, ends_sql.mpr (Or.inr rfl), ends_pure.mpr ⟨rfl, rfl⟩⟩)⟩)⟩
  · simp only [if_neg htarget]
    exact ⟨_, ends_pure.mpr ⟨rfl, rfl⟩⟩

/-! ### Whatever is written -/

/-- A cell is never what a write to it would make of it. -/
theorem write_ne {V : Type} {t : TxId} {v : Option V} {c d : Cell TxId V}
    (hd : d.pending = none ∨ d.pending = c.pending) : d ≠ c.write t v := by
  intro heq
  have hpend : d.pending = some ⟨t, v :: c.own t⟩ := by
    rw [heq]
    rfl
  rcases hd with hd | hd
  · rw [hd] at hpend
    simp at hpend
  · rw [hd] at hpend
    have hown := Cell.own_of_locked hpend
    have := congrArg List.length hown
    simp at this

theorem commit_pending {V : Type} (t : TxId) (c : Cell TxId V) :
    (c.commit t).pending = none ∨ (c.commit t).pending = c.pending := by
  unfold Cell.commit
  split
  · split
    · exact Or.inl rfl
    · exact Or.inr rfl
  · exact Or.inr rfl

theorem rollback_pending {V : Type} (t : TxId) (c : Cell TxId V) :
    (c.rollback t).pending = none ∨ (c.rollback t).pending = c.pending := by
  unfold Cell.rollback
  split
  · split
    · exact Or.inl rfl
    · exact Or.inr rfl
  · exact Or.inr rfl

/-- If a step leaves a row written over, it was a permitted write. -/
theorem step_write {V : Type} {W : Option V → Option V → Prop} {t u : TxId} {c c' : Cell TxId V}
    {v : Option V} (h : Cell.Step W u c c') (hc : c' = c.write t v) : W (c.visible t) v := by
  cases h with
  | same => exact absurd hc (write_ne (Or.inr rfl))
  | lock hfree =>
      have hpend := congrArg Cell.pending hc
      simp only [Cell.lock, Cell.write, Option.some.injEq, Pending.mk.injEq] at hpend
      obtain ⟨rfl, hvalues⟩ := hpend
      have := congrArg List.length hvalues
      simp at this
  | write w hfree hw =>
      have hpend := congrArg Cell.pending hc
      simp only [Cell.write, Option.some.injEq, Pending.mk.injEq, List.cons.injEq] at hpend
      obtain ⟨rfl, rfl, -⟩ := hpend
      exact hw
  | commit => exact absurd hc (write_ne (commit_pending u c))
  | rollback => exact absurd hc (write_ne (rollback_pending u c))

/-! ### Any number of transactions on incidents -/

/-- Nothing has to be in order before a transaction commits. -/
def nothingDue (_ : Nat) (_ : Db) : Prop := True

/-- Any number of callers, from any rows. -/
def repositoryProtocol : Protocol World IncidentTx Nat Db where
  machine := incidentMachine
  guar := RepoStep nothingDue
  inv := RepoInv
  inv_guar := fun _ _ _ hinv hstep _ => hinv.step hstep
  inv_crash := fun p _ hinv => hinv.crash p
  inv_env := by
    intro elapsed s s' hinv henv _
    simp only [incidentMachine, Option.some.injEq] at henv
    rw [← henv]
    exact ⟨hinv.drawn, hinv.fresh, hinv.rising⟩

theorem isRepoProtocol_repository : IsRepoProtocol nothingDue repositoryProtocol where
  guar := fun _ _ _ h => h
  inv := fun _ h => h
  others := by
    intro p s s' hinv hother
    cases hother with
    | proc q hq hact hadm => exact RepoStep.aside hq hinv hact
    | crash q _ hq => exact aside_crash hq s
    | env elapsed henv hadm =>
        simp only [repositoryProtocol, incidentMachine, Option.some.injEq] at henv
        rw [← henv]
        exact Idle.aside (q := p) hinv ⟨⟨rfl, rfl, rfl, rfl, rfl, rfl⟩, Or.inl ⟨rfl, rfl⟩⟩

theorem repository_call (p : Nat) (actor : String) (call : IncidentCall) :
    repositoryProtocol.Triple p (fun _ => True) (call.prog ⟨p, 0⟩ actor) (fun _ _ => True)
      (fun _ _ => True) := by
  have hP := isRepoProtocol_repository
  have htrue : repositoryProtocol.Stable p (fun _ => True) := stable_const True
  have hrows : OnRows (fun _ => True) := fun _ _ _ _ => trivial
  cases call with
  | create resourceId key severity approvalRequired retryLimit =>
      exact createIncident_triple hP resourceId key severity approvalRequired retryLimit htrue hrows
        (fun _ _ _ _ _ _ _ _ => trivial)
  | getOrCreate resourceId key severity approvalRequired =>
      have hget := getOrCreateIncident_triple hP (Q := fun _ _ => True) resourceId key severity
        approvalRequired htrue hrows (fun _ _ _ _ _ _ _ _ => trivial)
      exact Triple.bind (hget.conseq (fun _ _ h => h) (fun _ _ _ _ => trivial) (fun _ _ _ h => h))
        (fun _ => triple_pure _ (fun _ _ h => h))
  | requireApproval incidentId expectedVersion =>
      exact requireIncidentApproval_lasts hP lasting_true incidentId expectedVersion
  | transition incidentId expectedVersion target =>
      exact transition_lasts hP lasting_true actor incidentId expectedVersion target

theorem repository_calls (p : Nat) (actor : String) (calls : List (IncidentCall × Bool)) :
    repositoryProtocol.Triple p (fun _ => True) (runCalls ⟨p, 0⟩ actor calls) (fun _ _ => True)
      (fun _ _ => True) := by
  induction calls with
  | nil => exact triple_pure () (fun _ _ h => h)
  | cons head rest ih =>
      obtain ⟨call, caught⟩ := head
      unfold runCalls
      refine Triple.bind (Triple.handle (M := fun _ _ => True) ?_ ?_) (fun _ => ih)
      · exact Triple.bind (repository_call p actor call) (fun _ => triple_pure () (fun _ _ h => h))
      · intro e
        cases caught with
        | true => exact triple_pure () (fun _ _ h => h)
        | false => exact triple_throw e (fun _ _ h => h)

theorem repositoryProtocol_verified : repositoryProtocol.Verified := by
  intro p tx s hinv _
  have htx : repositoryProtocol.Triple p (fun _ => True) (tx.prog p) (fun _ _ => True)
      (fun _ _ => True) := by
    refine repo_unitOfWork isRepoProtocol_repository (stable_const True) (fun _ _ _ _ => trivial)
      (stable_const True) (fun _ _ _ => trivial) ?_ (fun _ _ _ _ => trivial)
      (fun _ _ => trivial) (fun _ _ _ => trivial)
    refine Triple.bind (repository_calls p tx.actor tx.calls) (fun _ => ?_)
    cases tx.raises with
    | some e => exact triple_throw e (fun _ _ h => h)
    | none => exact triple_pure () (fun _ _ h => h)
  exact triple_ignore htx hinv trivial

/-- A crash leaves nothing of a row pending, or leaves it alone. -/
theorem crash_pending {V : Type} (p : Nat) (c : Cell TxId V) :
    ((c.rollback ⟨p, 0⟩).rollback ⟨p, 1⟩).pending = none ∨
      ((c.rollback ⟨p, 0⟩).rollback ⟨p, 1⟩).pending = c.pending := by
  rcases rollback_pending ⟨p, 1⟩ (c.rollback ⟨p, 0⟩) with h | h
  · exact Or.inl h
  · rw [h]
    exact rollback_pending ⟨p, 0⟩ c

theorem accepted_of_act {s s' : Db} (h : repositoryProtocol.Act s s') {t : TxId} {i : Nat}
    {row : Incident} (hw : s'.incidents i = (s.incidents i).write t (some row)) :
    ∃ now, guardIncident now ((s.incidents i).visible t) row = .ok row := by
  cases h with
  | proc p hguar hadm => exact guardIncident_of_write (step_write (RepoStep.incident hguar i) hw)
  | crash p => exact absurd hw (write_ne (crash_pending p _))
  | env elapsed henv hadm =>
      simp only [repositoryProtocol, incidentMachine, Option.some.injEq] at henv
      rw [← henv] at hw
      exact absurd hw (write_ne (Or.inr rfl))

/-- **Every write to an incident** is accepted by the trigger as it is. -/
theorem incident_writes_accepted {db₀ : Db} (h₀ : RepoInv db₀) {c c' : Config World Db}
    (hr : Reaches incidentMachine (Config.idle db₀) c)
    (hstep : Interleaving.Step incidentMachine c c')
    {t : TxId} {i : Nat} {row : Incident}
    (hw : c'.state.incidents i = (c.state.incidents i).write t (some row)) :
    ∃ now, guardIncident now ((c.state.incidents i).visible t) row = .ok row := by
  have hsound : repositoryProtocol.Sound c :=
    (sound_idle (P := repositoryProtocol) h₀).reaches repositoryProtocol_verified hr
  obtain ⟨-, heq | hact⟩ := hsound.step repositoryProtocol_verified hstep
  · rw [heq] at hw
    exact absurd hw (write_ne (Or.inr rfl))
  · exact accepted_of_act hact hw

/-! ### Executions -/

/-- No record comes before all of them, and then they come by version. -/
def recordRank : Option Execution → Nat
  | none => 0
  | some r => r.version + 1

def RecordRises (v w : Option Execution) : Prop := recordRank v < recordRank w

/-- A write that the trigger accepts as it is, with the plans there are. -/
def GuardAccepts (steps : List RemediationStep) (plans : List RemediationPlan) (key : String)
    (v w : Option Execution) : Prop :=
  ∃ row, w = some row ∧ guardExecution steps plans (v.map fun old => (key, old)) key row = .ok row

/-- Every record is for a step of a plan, and its versions rise. -/
structure RecordsInv (s : Db) : Prop where
  rising : ∀ k, Linked RecordRises (s.executions k).chain
  planned : ∀ k row, some row ∈ (s.executions k).chain → row.planned s.steps s.plans = true

/-- One step of a transaction on records: a write that the trigger accepts, or none. -/
structure RecordStep (p : Nat) (s s' : Db) : Prop where
  executions : ∀ k, Cell.Step (GuardAccepts s.steps s.plans k) ⟨p, 0⟩ (s.executions k)
    (s'.executions k)
  steps : s.steps ⊆ s'.steps
  plans : s.plans ⊆ s'.plans

theorem planned_mono {steps steps' : List RemediationStep} {plans plans' : List RemediationPlan}
    {row : Execution} (hs : steps ⊆ steps') (hp : plans ⊆ plans')
    (h : row.planned steps plans = true) : row.planned steps' plans' = true := by
  unfold Execution.planned at h ⊢
  simp only [List.any_eq_true] at h ⊢
  obtain ⟨step, hstep, plan, hplan, hmatch⟩ := h
  exact ⟨step, hs hstep, plan, hp hplan, hmatch⟩

/-- What the trigger has let pass is planned, and its version is higher. -/
theorem guardAccepts_spec {steps : List RemediationStep} {plans : List RemediationPlan}
    {key : String} {v w : Option Execution} (h : GuardAccepts steps plans key v w) :
    RecordRises v w ∧ ∀ row, w = some row → row.planned steps plans = true := by
  obtain ⟨row, rfl, h⟩ := h
  unfold guardExecution at h
  split at h
  · simp [throw, throwThe, MonadExceptOf.throw] at h
  rename_i hplanned
  refine ⟨?_, ?_⟩
  · cases v with
    | none => simp [RecordRises, recordRank]
    | some old =>
        simp only [Option.map_some] at h
        split at h
        · simp [throw, throwThe, MonadExceptOf.throw] at h
        rename_i hversion
        simp only [RecordRises, recordRank]
        omega
  · intro row' hrow'
    simp only [Option.some.injEq] at hrow'
    rw [← hrow']
    simpa using hplanned

theorem guardExecution_insert {steps : List RemediationStep} {plans : List RemediationPlan}
    {key : String} {row : Execution} (hplanned : row.planned steps plans = true)
    (hstatus : row.status = .pending) (hversion : row.version = 1) :
    guardExecution steps plans none key row = .ok row := by
  simp only [guardExecution, hplanned, hstatus, hversion, Bool.true_eq_false, if_false, ne_eq,
    not_true_eq_false, or_self]
  rfl

theorem guardAllows_of_allowed {old new : ExecutionStatus} (h : new ∈ old.allowed) :
    old.guardAllows new = true := by
  cases old <;> cases new <;> simp [ExecutionStatus.allowed] at h <;> rfl

/-- A record keeps its identity when it is finished, so that it is for the same step. -/
theorem guardExecution_finish {steps : List RemediationStep} {plans : List RemediationPlan}
    {key : String} {row : Execution} (hplanned : row.planned steps plans = true)
    {status : ExecutionStatus} (hallowed : status ∈ row.status.allowed) (now : Int)
    (result : ExecutionResult) (reason : Option String) :
    guardExecution steps plans (some (key, row)) key
      (row.finished now row.version status result reason) =
        .ok (row.finished now row.version status result reason) := by
  have hsame : (row.finished now row.version status result reason).planned steps plans = true :=
    hplanned
  have hstatus : ¬ ((row.finished now row.version status result reason).status ≠ row.status ∧
      row.status.guardAllows (row.finished now row.version status result reason).status =
        false) := by
    intro hc
    have hguard : row.status.guardAllows status = false := hc.2
    rw [guardAllows_of_allowed hallowed] at hguard
    exact absurd hguard (by simp)
  unfold guardExecution
  simp only [hsame, Bool.true_eq_false, if_false]
  rw [if_neg (by simp [Execution.finished]), if_neg (by simp [Execution.finished]), if_neg hstatus]
  rfl

theorem RecordsInv.step {p : Nat} {s s' : Db} (hinv : RecordsInv s) (h : RecordStep p s s') :
    RecordsInv s' := by
  refine ⟨?_, ?_⟩
  · intro k
    exact ((h.executions k).mono (fun _ _ hw => (guardAccepts_spec hw).1)).linked (hinv.rising k)
  · intro k row hrow
    refine planned_mono h.steps h.plans ?_
    rcases (h.executions k).mem_chain hrow with hold | hw
    · exact hinv.planned k row hold
    · exact (guardAccepts_spec hw).2 row rfl

theorem RecordsInv.crash {s : Db} (hinv : RecordsInv s) (p : Nat) : RecordsInv (s.crash p) := by
  have hroll : ∀ {l : Nat} (c : Cell TxId Execution),
      Cell.Step (fun _ _ => False) ⟨p, l⟩ c (c.rollback ⟨p, l⟩) := fun c => Cell.Step.rollback c
  refine ⟨?_, ?_⟩
  · intro k
    have h0 := ((hroll (l := 0) (s.executions k)).mono (fun _ _ h => h.elim)).linked (hinv.rising k)
    exact ((hroll (l := 1) _).mono (fun _ _ h => h.elim)).linked h0
  · intro k row hrow
    rcases (hroll (l := 1) _).mem_chain hrow with hold | hw
    · rcases (hroll (l := 0) _).mem_chain hold with hold | hw
      · exact hinv.planned k row hold
      · exact hw.elim
    · exact hw.elim

theorem RecordsInv.env {e : ExecutionEnv} {s s' : Db} (hinv : RecordsInv s)
    (h : executionMachine.env e s = some s') :
    RecordsInv s' ∧ s'.executions = s.executions ∧ s.steps ⊆ s'.steps ∧ s.plans ⊆ s'.plans := by
  cases e with
  | elapse elapsed =>
      simp only [executionMachine, Option.some.injEq] at h
      rw [← h]
      exact ⟨⟨hinv.rising, hinv.planned⟩, rfl, List.Subset.refl _, List.Subset.refl _⟩
  | planned plan steps =>
      simp only [executionMachine, Option.some.injEq] at h
      have hsteps : s.steps ⊆ steps ++ s.steps := List.subset_append_right _ _
      have hplans : s.plans ⊆ plan :: s.plans := List.subset_cons_self _ _
      rw [← h]
      exact ⟨⟨hinv.rising, fun k row hrow =>
        planned_mono hsteps hplans (hinv.planned k row hrow)⟩, rfl, hsteps, hplans⟩

/-- Any number of callers, from any records. -/
def recordsProtocol : Protocol World ExecutionTx ExecutionEnv Db where
  machine := executionMachine
  guar := RecordStep
  inv := RecordsInv
  inv_guar := fun _ _ _ hinv hstep _ => hinv.step hstep
  inv_crash := fun p _ hinv => hinv.crash p
  inv_env := fun _ _ _ hinv henv _ => (hinv.env henv).1

theorem recordStep_idle {p : Nat} {s s' : Db} (hexec : s'.executions = s.executions)
    (hsteps : s'.steps = s.steps) (hplans : s'.plans = s.plans) : RecordStep p s s' := by
  refine ⟨?_, ?_, ?_⟩
  · intro k
    rw [hexec]
    exact Cell.Step.same _
  · rw [hsteps]
    exact List.Subset.refl _
  · rw [hplans]
    exact List.Subset.refl _

theorem recordStep_write {p : Nat} {s : Db} {k : String} {row : Execution}
    (hfree : (s.executions k).free ⟨p, 0⟩ = true)
    (hw : GuardAccepts s.steps s.plans k ((s.executions k).visible ⟨p, 0⟩) (some row)) :
    RecordStep p s (s.setExecution k ((s.executions k).write ⟨p, 0⟩ (some row))) := by
  refine ⟨?_, List.Subset.refl _, List.Subset.refl _⟩
  intro k'
  by_cases hk : k' = k
  · subst hk
    simp only [Db.setExecution, Function.update_self]
    exact Cell.Step.write _ _ hfree hw
  · simp only [Db.setExecution, Function.update_of_ne hk]
    exact Cell.Step.same _

/-- What the others do to the records: steps of their own, and the plans stay. -/
theorem records_other {p : Nat} {s s' : Db} (hinv : RecordsInv s)
    (h : recordsProtocol.Other p s s') :
    (∀ k, Cell.Others (fun _ _ => True) (fun t => t.pid = p) (s.executions k) (s'.executions k)) ∧
      s.steps ⊆ s'.steps ∧ s.plans ⊆ s'.plans := by
  cases h with
  | proc q hq hact hadm =>
      have hstep : RecordStep q s s' := hact
      exact ⟨fun k => ((hstep.executions k).mono (fun _ _ _ => trivial)).others hq, hstep.steps,
        hstep.plans⟩
  | crash q _ hq =>
      have hnot : ∀ l : Nat, ¬ (⟨q, l⟩ : TxId).pid = p := fun _ h => hq h
      refine ⟨?_, List.Subset.refl _, List.Subset.refl _⟩
      intro k
      have h0 : Cell.Others (fun _ _ => True) (fun t => t.pid = p) (s.executions k)
          ((s.executions k).rollback ⟨q, 0⟩) := Cell.others_rollback (hnot 0)
      exact h0.trans (Cell.others_rollback (hnot 1))
  | env e henv hadm =>
      obtain ⟨-, hexec, hsteps, hplans⟩ := hinv.env henv
      refine ⟨?_, hsteps, hplans⟩
      intro k
      rw [hexec]
      exact Relation.ReflTransGen.refl

section Records

variable {p : Nat}

theorem records_true : recordsProtocol.Stable p (fun _ => True) := stable_const True

theorem records_select {α : Type} {f : Db → α} {R : Db → Prop} (hst : recordsProtocol.Stable p R) :
    recordsProtocol.Triple p R (select f) (fun a s => R s ∧ a = f s) (fun _ _ => True) :=
  triple_select hst (fun _ _ _ => recordStep_idle rfl rfl rfl) (fun _ _ _ => trivial)
    (fun _ _ h => ⟨h, rfl⟩)

theorem records_finishExecution (key : String) (id v : Nat) (status : ExecutionStatus)
    (result : ExecutionResult) (reason : Option String) :
    recordsProtocol.Triple p (fun _ => True) (finishExecution ⟨p, 0⟩ key id v status result reason)
      (fun _ _ => True) (fun _ _ => True) := by
  have hsaw : ∀ row, recordsProtocol.Stable p (SawExecution ⟨p, 0⟩ key row) := by
    intro row s s' hinv h hother
    exact ((records_other hinv hother).1 key).mem_view rfl h
  unfold finishExecution
  have hread : recordsProtocol.Triple p (fun _ => True)
      (select fun db => Execution.withId id ((db.executions key).visible ⟨p, 0⟩))
      (fun found s => ∀ row, found = some row → SawExecution ⟨p, 0⟩ key row s)
      (fun _ _ => True) := by
    refine (records_select records_true).conseq (fun _ _ h => h) ?_ (fun _ _ _ h => h)
    intro found s _ h row hrow
    rw [hrow] at h
    exact Cell.visible_mem (withId_some h.2.symm)
  refine hread.bind (fun found => ?_)
  have hcheck : recordsProtocol.Triple p
      (fun s => ∀ row, found = some row → SawExecution ⟨p, 0⟩ key row s)
      (check (Execution.admitsFinish v status found))
      (fun _ s => ∃ row, SawExecution ⟨p, 0⟩ key row s ∧
        (row.version = v ∧ status ∈ row.status.allowed)) (fun _ _ => True) := by
    refine triple_check ?_ (fun _ _ _ _ _ => trivial)
    intro _ s hok _ h
    obtain ⟨row, hrow, hv, hs⟩ := admitsFinish_ok hok
    exact ⟨row, h row hrow, hv, hs⟩
  refine hcheck.bind (fun _ => ?_)
  refine Triple.bind (M := fun _ _ => True) ?_ (fun updated => ?_)
  swap
  · cases updated with
    | some execution => exact triple_pure _ (fun _ _ h => h)
    | none => exact triple_throw _ (fun _ _ h => h)
  refine triple_sql (Stable.exists fun row => (hsaw row).and (stable_const _))
    (fun _ _ _ => recordStep_idle rfl rfl rfl) (fun _ _ _ => trivial) ?_
  intro s r s' hinv hR hf _
  have htrivial : post (fun _ _ => True) (fun _ _ => True) r s' := by
    cases r <;> exact trivial
  refine ⟨?_, htrivial⟩
  simp only at hf
  split at hf
  · simp only [Option.some.injEq, Prod.mk.injEq] at hf
    obtain ⟨-, rfl⟩ := hf
    exact recordStep_idle rfl rfl rfl
  rename_i row hrow
  obtain ⟨hwith, hver⟩ := Option.filter_eq_some_iff.mp hrow
  have hvis := withId_some hwith
  simp only [decide_eq_true_eq] at hver
  split at hf
  swap
  · simp at hf
  rename_i hfree
  simp only [Option.some.injEq, Prod.mk.injEq] at hf
  obtain ⟨-, rfl⟩ := hf
  obtain ⟨seen, hseen, hseenv, hallowed⟩ := hR
  have hsame : seen = row :=
    Cell.eq_of_seen recordRank (fun _ _ h => h) (hinv.rising key) hseen hvis
      (by simp only [recordRank]; omega)
  subst hsame
  have hplanned := hinv.planned key seen (Cell.mem_chain_of_view (Cell.visible_mem hvis))
  refine recordStep_write hfree ⟨_, rfl, ?_⟩
  rw [hvis, ← hver]
  exact guardExecution_finish hplanned hallowed _ result reason

/-- The step and the plan that were found are still there. -/
theorem records_known (step : RemediationStep) (plan : RemediationPlan) :
    recordsProtocol.Stable p (fun s => step ∈ s.steps ∧ plan ∈ s.plans) := by
  intro s s' hinv h hother
  obtain ⟨-, hsteps, hplans⟩ := records_other hinv hother
  exact ⟨hsteps h.1, hplans h.2⟩

theorem records_insertExecution {key : String} {row : Execution} {step : RemediationStep}
    {plan : RemediationPlan} (hstatus : row.status = .pending) (hversion : row.version = 1)
    (hplan : plan.id = step.planId) (hstep : step.id = row.stepId)
    (hresource : step.resourceId = row.resourceId) (hincident : plan.incidentId = row.incidentId) :
    recordsProtocol.Triple p (fun s => step ∈ s.steps ∧ plan ∈ s.plans)
      (insertExecution ⟨p, 0⟩ key row) (fun _ _ => True) (fun _ _ => True) := by
  refine triple_sql (records_known step plan) (fun _ _ _ => recordStep_idle rfl rfl rfl)
    (fun _ _ _ => trivial) ?_
  intro s r s' hinv hR hf _
  have htrivial : post (fun _ _ => True) (fun _ _ => True) r s' := by
    cases r <;> exact trivial
  refine ⟨?_, htrivial⟩
  simp only at hf
  split at hf
  swap
  · simp at hf
  rename_i hfree
  split at hf
  · simp only [Option.some.injEq, Prod.mk.injEq] at hf
    obtain ⟨-, rfl⟩ := hf
    exact recordStep_idle rfl rfl rfl
  rename_i hnone
  simp only [Option.some.injEq, Prod.mk.injEq] at hf
  obtain ⟨-, rfl⟩ := hf
  refine recordStep_write hfree ⟨row, rfl, ?_⟩
  rw [hnone]
  refine guardExecution_insert ?_ hstatus hversion
  unfold Execution.planned
  simp only [List.any_eq_true]
  exact ⟨step, hR.1, plan, hR.2, by simp [hplan, hstep, hresource, hincident]⟩

theorem records_recordExecution (actor : String) (intent : ExecutionIntent) (token : Option Nat) :
    recordsProtocol.Triple p (fun _ => True) (recordExecution ⟨p, 0⟩ actor intent token)
      (fun _ _ => True) (fun _ _ => True) := by
  unfold recordExecution
  have hfail : ∀ e : Err, recordsProtocol.Triple p (fun _ => True) (throw e : Prog Execution)
      (fun _ _ => True) (fun _ _ => True) := fun e => triple_throw e (fun _ _ h => h)
  have hfinal : ∀ found : Option Execution, recordsProtocol.Triple p (fun _ => True)
      (match found with
        | none =>
            throw ⟨.runtimeError, s!"Execution with idempotency key '{intent.idempotencyKey}' " ++
              "conflicted on insert but could not be located in the database."⟩
        | some execution =>
            if execution.belongsTo intent.incidentId intent.stepId intent.resourceId
                (some intent.containerId) then
              pure execution
            else throw foreignKeyError : Prog Execution) (fun _ _ => True) (fun _ _ => True) := by
    intro found
    cases found with
    | none => exact hfail _
    | some execution =>
        simp only
        split
        · exact triple_pure _ (fun _ _ h => h)
        · exact hfail _
  -- what the first read has found, and then the second
  refine Triple.bind (M := fun step s => ∀ x, step = some x → x.id = intent.stepId ∧ x ∈ s.steps)
    ?_ (fun step => ?_)
  · refine (records_select records_true).conseq (fun _ _ h => h) ?_ (fun _ _ _ h => h)
    intro step s _ h x hx
    rw [hx] at h
    have hfind := h.2.symm
    exact ⟨by simpa using List.find?_some hfind, List.mem_of_find?_eq_some hfind⟩
  cases step with
  | none =>
      refine Triple.bind (M := fun _ _ => True) ?_ (fun plan => ?_)
      · exact (records_select records_true).conseq (fun _ _ _ => trivial) (fun _ _ _ _ => trivial)
          (fun _ _ _ h => h)
      · exact hfail _
  | some step =>
      have hstep : recordsProtocol.Stable p
          (fun s => ∀ x, some step = some x → x.id = intent.stepId ∧ x ∈ s.steps) := by
        intro s s' hinv h hother x hx
        exact ⟨(h x hx).1, (records_other hinv hother).2.1 (h x hx).2⟩
      refine Triple.bind (M := fun plan s => ∀ y, plan = some y →
        (y.id = step.planId ∧ step.id = intent.stepId) ∧ step ∈ s.steps ∧ y ∈ s.plans)
        ?_ (fun plan => ?_)
      · refine (records_select hstep).conseq (fun _ _ h => h) ?_ (fun _ _ _ h => h)
        intro plan s _ h y hy
        rw [hy] at h
        have hfind := h.2.symm
        simp only [Option.bind_some] at hfind
        obtain ⟨hid, hmem⟩ := h.1 step rfl
        exact ⟨⟨by simpa using List.find?_some hfind, hid⟩, hmem,
          List.mem_of_find?_eq_some hfind⟩
      cases plan with
      | none => exact (hfail _).pre (fun _ _ _ => trivial)
      | some plan =>
          simp only
          by_cases hmatch : plan.incidentId ≠ intent.incidentId
            ∨ step.resourceId ≠ intent.resourceId
          · simp only [if_pos hmatch]
            exact triple_throw_bind (fun _ _ _ => trivial)
          · simp only [if_neg hmatch]
            simp only [ne_eq, not_or, not_not] at hmatch
            refine Triple.bind (M := fun _ s => (plan.id = step.planId ∧ step.id = intent.stepId) ∧
              step ∈ s.steps ∧ plan ∈ s.plans) ?_ (fun id => ?_)
            · refine Triple.pre (R := fun s => (plan.id = step.planId ∧ step.id = intent.stepId) ∧
                step ∈ s.steps ∧ plan ∈ s.plans) ?_ (fun s _ h => h plan rfl)
              refine triple_uuid4 ((stable_const _).and (records_known step plan)) ?_
              intro s _ h _
              exact ⟨recordStep_idle rfl rfl rfl, h⟩
            · refine Triple.bind (M := fun _ _ => True) ?_ (fun inserted => ?_)
              · intro s hinv h
                exact records_insertExecution rfl rfl h.1.1 h.1.2 hmatch.2 hmatch.1 s hinv h.2
              · cases inserted with
                | some execution =>
                    exact Triple.bind (triple_pure (some execution) (fun _ _ h => h)) hfinal
                | none =>
                    refine Triple.bind (M := fun _ _ => True) ?_ hfinal
                    exact (records_select records_true).conseq (fun _ _ h => h)
                      (fun _ _ _ _ => trivial) (fun _ _ _ h => h)

theorem records_calls (actor : String) (calls : List (ExecutionCall × Bool)) :
    recordsProtocol.Triple p (fun _ => True) (runExecutionCalls ⟨p, 0⟩ actor calls)
      (fun _ _ => True) (fun _ _ => True) := by
  induction calls with
  | nil => exact triple_pure () (fun _ _ h => h)
  | cons head rest ih =>
      obtain ⟨call, caught⟩ := head
      have hcall : recordsProtocol.Triple p (fun _ => True) (call.prog ⟨p, 0⟩ actor)
          (fun _ _ => True) (fun _ _ => True) := by
        cases call with
        | record intent token => exact records_recordExecution actor intent token
        | finish key id v status result reason =>
            exact records_finishExecution key id v status result reason
      unfold runExecutionCalls
      refine Triple.bind (Triple.handle (M := fun _ _ => True) ?_ ?_) (fun _ => ih)
      · exact Triple.bind hcall (fun _ => triple_pure () (fun _ _ h => h))
      · intro e
        cases caught with
        | true => exact triple_pure () (fun _ _ h => h)
        | false => exact triple_throw e (fun _ _ h => h)

end Records

theorem recordsProtocol_verified : recordsProtocol.Verified := by
  intro p tx s hinv _
  have hroll : ∀ s : Db, RecordStep p s (s.rollback ⟨p, 0⟩) := fun s =>
    ⟨fun k => Cell.Step.rollback _, List.Subset.refl _, List.Subset.refl _⟩
  have htx : recordsProtocol.Triple p (fun _ => True) (tx.prog p) (fun _ _ => True)
      (fun _ _ => True) := by
    refine triple_unitOfWork (B := fun _ => True) (F := fun _ => True) (G := fun _ => True)
      (M := fun _ _ => True) ?_ ?_ (fun a => ?_) ?_ (fun _ _ _ => trivial)
    · exact triple_beginTx records_true (fun _ _ _ => recordStep_idle rfl rfl rfl)
        (fun _ _ _ => trivial) (fun _ _ _ _ => ⟨recordStep_idle rfl rfl rfl, trivial⟩)
    · refine Triple.bind (records_calls tx.actor tx.calls) (fun _ => ?_)
      cases tx.raises with
      | some e => exact triple_throw e (fun _ _ h => h)
      | none => exact triple_pure () (fun _ _ h => h)
    · refine triple_commitTx records_true (fun s _ _ _ => ⟨hroll s, trivial⟩) ?_
      intro s _ _ _
      exact ⟨⟨fun k => Cell.Step.commit _, List.subset_append_right _ _,
        List.subset_append_right _ _⟩, trivial⟩
    · exact triple_rollbackTx records_true (fun s _ _ _ => ⟨hroll s, trivial⟩)
  exact triple_ignore htx hinv trivial

theorem record_accepted_of_act {s s' : Db} (hinv : RecordsInv s) (h : recordsProtocol.Act s s')
    {t : TxId} {k : String} {row : Execution}
    (hw : s'.executions k = (s.executions k).write t (some row)) :
    guardExecution s.steps s.plans (((s.executions k).visible t).map fun old => (k, old)) k row =
      .ok row := by
  cases h with
  | proc p hguar hadm =>
      have hstep : RecordStep p s s' := hguar
      obtain ⟨row', heq, hok⟩ := step_write (hstep.executions k) hw
      simp only [Option.some.injEq] at heq
      rw [heq]
      exact hok
  | crash p => exact absurd hw (write_ne (crash_pending p _))
  | env e henv hadm =>
      rw [(hinv.env henv).2.1] at hw
      exact absurd hw (write_ne (Or.inr rfl))

/-! ### They agree -/

/-- Any incidents, and any execution records that were let in by the trigger, with nothing under
way; identifiers that are still to be drawn are not in use. -/
structure Db.AtRest (db : Db) : Prop where
  incidents : ∀ i, db.incidents i = Cell.empty ∨ ∃ row, db.incidents i = Cell.ofRow row
  executions : ∀ k, db.executions k = Cell.empty ∨
    ∃ row, db.executions k = Cell.ofRow row ∧ row.planned db.steps db.plans = true
  outbox : ∀ id, db.nextId ≤ id → db.outbox id = Cell.empty
  fresh : ∀ id, db.nextId ≤ id → db.incidents id = Cell.empty
  drawn : ∀ id q, db.drawnBy id = some q → id < db.nextId

theorem Db.AtRest.repoInv {db : Db} (h : db.AtRest) : RepoInv db := by
  refine ⟨h.drawn, fun id hid => ⟨h.fresh id hid, h.outbox id hid⟩, ?_⟩
  intro i
  rcases h.incidents i with heq | ⟨row, heq⟩
  · rw [heq]
    trivial
  · rw [heq]
    exact ⟨by simp [Rises, rowRank], trivial⟩

theorem Db.AtRest.recordsInv {db : Db} (h : db.AtRest) : RecordsInv db := by
  refine ⟨?_, ?_⟩
  · intro k
    rcases h.executions k with heq | ⟨row, heq, -⟩
    · rw [heq]
      trivial
    · rw [heq]
      exact ⟨by simp [RecordRises, recordRank], trivial⟩
  · intro k r hr
    rcases h.executions k with heq | ⟨row, heq, hplanned⟩
    · rw [heq] at hr
      exact absurd hr List.not_mem_nil
    · rw [heq] at hr
      simp only [Cell.ofRow, Cell.chain, List.mem_singleton, Option.some.injEq] at hr
      rw [hr]
      exact hplanned

/-- **The repository and the triggers agree.**  From any rows, whatever transactions on incidents
or on executions run at the same time, every row that is written is accepted by the trigger as it
is; and a change of state that `guard_incident` accepts, with the version and the attempts that
`transition` sets, is one that `transition` makes. -/
theorem guards_agree (db₀ : Db) (h₀ : db₀.AtRest) :
    (∀ c c', Reaches incidentMachine (Config.idle db₀) c → Interleaving.Step incidentMachine c c' →
      ∀ t i row, c'.state.incidents i = (c.state.incidents i).write t (some row) →
        ∃ now, guardIncident now ((c.state.incidents i).visible t) row = .ok row) ∧
    (∀ (db : Db) (t : TxId) (i : Nat) (old new row : Incident) (now : Int) (actor : String),
      (db.incidents i).visible t = some old → (db.incidents i).free t = true →
      guardIncident now (some old) new = .ok row → new.state ≠ old.state →
      new.version = old.version + 1 →
      new.attempts = (if old.retries new.state then old.attempts + 1 else old.attempts) →
      ∃ updated db', (transition t actor i old.version new.state).Ends db (.ok updated) db' ∧
        updated.state = new.state ∧ updated.version = new.version ∧
        updated.attempts = new.attempts) ∧
    (∀ c c', Reaches executionMachine (Config.idle db₀) c →
      Interleaving.Step executionMachine c c' →
      ∀ t k row, c'.state.executions k = (c.state.executions k).write t (some row) →
        guardExecution c.state.steps c.state.plans
          (((c.state.executions k).visible t).map fun old => (k, old)) k row = .ok row) := by
  refine ⟨?_, ?_, ?_⟩
  · intro c c' hr hstep t i row hw
    exact incident_writes_accepted h₀.repoInv hr hstep hw
  · intro db t i old new row now actor hvis hfree hguard hne hversion hattempts
    have hadm : old.admitsTransition old.version new.state = .ok () :=
      admitsTransition_of_guard hguard hne
    obtain ⟨db', hend⟩ : ∃ db', (transition t actor i old.version new.state).Ends db _ db' :=
      transition_returns hvis hfree hadm
    refine ⟨_, db', hend, rfl, ?_, ?_⟩
    · rw [version_transitioned, hversion]
    · rw [hattempts]
      rfl
  · intro c c' hr hstep t k row hw
    have hsound : recordsProtocol.Sound c :=
      (sound_idle (P := recordsProtocol) h₀.recordsInv).reaches recordsProtocol_verified hr
    obtain ⟨-, heq | hact⟩ := hsound.step recordsProtocol_verified hstep
    · rw [heq] at hw
      exact absurd hw (write_ne (Or.inr rfl))
    · exact record_accepted_of_act hsound.inv hact hw

/-- A planned incident, and the record of an execution of its plan. -/
def plannedDb : Db :=
  { Db.init 0 with
    nextId := 5
    incidents := Function.update (fun _ => Cell.empty) 1 (Cell.ofRow
      { id := 1, resourceId := 7, correlationKey := "demo", state := .planned, version := 4,
        updatedAt := 0 })
    executions := Function.update (fun _ => Cell.empty) "key" (Cell.ofRow
      { id := 2, incidentId := 1, planId := some 3, stepId := 4, resourceId := 7,
        attemptNumber := 0, containerId := none, bindingGeneration := none, lockToken := none,
        actor := "worker", preState := none, status := .pending, version := 1, result := .empty,
        uncertaintyReason := none, startedAt := none, finishedAt := none })
    plans := [
      { id := 3, incidentId := 1, diagnosisId := 0, version := 1, risk := "LOW",
        approved := false, contentHash := "", containerId := none, bindingGeneration := none,
        verificationProfile := none }]
    steps := [
      { id := 4, planId := 3, resourceId := 7, position := 0, action := "restart",
        containerId := none, bindingGeneration := none, serviceName := none,
        timeoutSeconds := none }] }

theorem atRest_plannedDb : plannedDb.AtRest := by
  refine ⟨?_, ?_, fun _ _ => rfl, ?_, ?_⟩
  · intro i
    by_cases hi : i = 1
    · subst hi
      exact Or.inr ⟨_, rfl⟩
    · refine Or.inl ?_
      simp only [plannedDb, Function.update_of_ne hi]
  · intro k
    by_cases hk : k = "key"
    · subst hk
      exact Or.inr ⟨_, rfl, by decide⟩
    · refine Or.inl ?_
      simp only [plannedDb, Function.update_of_ne hk]
  · intro id hid
    have hne : id ≠ 1 := by
      have : 5 ≤ id := hid
      omega
    simp only [plannedDb, Function.update_of_ne hne]
  · intro id q hdrawn
    exact absurd hdrawn (by simp [plannedDb, Db.init])

/-- The trigger lets the incident move to `EXECUTING`, and so `transition` moves it there. -/
theorem guards_agree_planned :
    plannedDb.AtRest ∧ ∃ updated db',
      (transition ⟨0, 0⟩ "worker" 1 4 .executing).Ends plannedDb (.ok updated) db' ∧
      updated.state = .executing ∧ updated.version = 5 ∧ updated.attempts = 0 :=
  ⟨atRest_plannedDb, (guards_agree plannedDb atRest_plannedDb).2.1 plannedDb ⟨0, 0⟩ 1
    { id := 1, resourceId := 7, correlationKey := "demo", state := .planned, version := 4,
      updatedAt := 0 }
    { id := 1, resourceId := 7, correlationKey := "demo", state := .executing, version := 5,
      updatedAt := 0 }
    { id := 1, resourceId := 7, correlationKey := "demo", state := .executing, version := 5,
      updatedAt := 9 }
    9 "worker" rfl rfl rfl (by decide) rfl rfl⟩

end SelfHealing
