/-
The life of an incident.

The workers know nothing of each other, and each decides on what it has read.  Still the committed
rows of an incident are a run of the state machine, since every row is written by a call that names
the version it was decided on.  And the run is not long: no state is come back to but by a retry,
each of which is paid for by an attempt, and an approval that is required stays required.

`LifeWrite` is one write over the row that it was decided on, and what a worker does to the table
is a step of that kind on each row.  The protocol at the end keeps every row a chain of such
writes, whoever else is at work; a chain is a run whose neighbours are joined by a transition, or
by an approval that is asked for (`LegalRun`).

The bound comes from a potential.  A state has a place on the way from `DETECTED` to the ends, an
edge leads to a higher place, and the one that leads back costs an attempt: so the version of a
row, which counts the rows up to it, is at most its place and what its attempts have paid for.
-/
import SelfHealing.Proofs.IncidentHistory
import SelfHealing.Proofs.WorkerCalls

namespace SelfHealing

open Interleaving Interleaving.Protocol ReadCommitted

/-! ### What is written over what -/

/-- A write to an incident; an approval is asked for where none is required yet. -/
inductive LifeWrite : Option Incident → Option Incident → Prop
  | create (r : Incident) (hstate : r.state = .detected) (hversion : r.version = 1)
      (hattempts : r.attempts = 0) : LifeWrite none (some r)
  | approval (q : Incident) (now : Int) (hstate : q.state = .planned)
      (hnot : q.approvalRequired = false) :
      LifeWrite (some q) (some { q with
        approvalRequired := true, version := q.version + 1, updatedAt := now })
  | move (q : Incident) (now : Int) (target : IncidentState) (hadm : Admitted q target) :
      LifeWrite (some q) (some (q.transitioned now q.version target q))

theorem LifeWrite.write {v w : Option Incident} (h : LifeWrite v w) : IncidentWrite v w := by
  cases h with
  | create r hstate hversion hattempts => exact .create r hstate hversion hattempts
  | approval q now hstate hnot => exact .approval q now hstate
  | move q now target hadm => exact .move q now target hadm

theorem linked_incidentWrite {l : List (Option Incident)} (h : Linked LifeWrite l) :
    Linked IncidentWrite l := by
  induction l with
  | nil => trivial
  | cons v rest ih => exact ⟨h.1.write, ih h.2⟩

/-- Each row follows the one before it by a transition of the state machine, or asks for an approval
while the incident stays planned; and no row follows one at an end. -/
structure LegalRun (h : List Incident) : Prop where
  legal : ∀ r q rest, r :: q :: rest <:+ h → r.state ∈ q.state.transitions ∨
    q.state = .planned ∧ r.state = .planned ∧ q.approvalRequired = false ∧
      r.approvalRequired = true
  ended : ∀ r q rest, r :: q :: rest <:+ h → q.state.terminal = false

theorem LifeWrite.legal {q r : Incident} (h : LifeWrite (some q) (some r)) :
    r.state ∈ q.state.transitions ∨ q.state = .planned ∧ r.state = .planned ∧
      q.approvalRequired = false ∧ r.approvalRequired = true := by
  cases h with
  | approval _ now hstate hnot => exact Or.inr ⟨hstate, hstate, hnot, rfl⟩
  | move _ now target hadm => exact Or.inl hadm.edge

theorem LifeWrite.not_ended {q r : Incident} (h : LifeWrite (some q) (some r)) :
    q.state.terminal = false := by
  rcases h.legal with hedge | ⟨hplanned, -⟩
  · revert hedge
    cases q.state <;> simp [IncidentState.transitions, IncidentState.terminal]
  · rw [hplanned]
    rfl

/-- Rows that are written one over the other are a legal run. -/
theorem legalRun_of_linked {h : List Incident} (hlinked : Linked LifeWrite (h.map some)) :
    LegalRun h := by
  have hwrite : ∀ r q rest, r :: q :: rest <:+ h → LifeWrite (some q) (some r) := by
    intro r q rest hsuffix
    exact (hlinked.suffix (hsuffix.map some)).1
  exact ⟨fun r q rest hs => (hwrite r q rest hs).legal,
    fun r q rest hs => (hwrite r q rest hs).not_ended⟩

/-! ### How many rows there can be

The place of a state is the number of rows that lead to it without a retry.  A retry goes back by
five places and takes one row itself, which an attempt has to pay for; and the row that asks for
an approval is written once, because the request is never withdrawn.
-/

/-- How many rows there are at most until the incident is in this state, without a retry. -/
def IncidentState.place : IncidentState → Nat
  | .detected => 1
  | .triaged => 2
  | .diagnosed => 3
  | .planned => 4
  | .pendingApproval => 5
  | .approved => 6
  | .executing => 7
  | .verifying | .failed => 8
  | .resolved | .rolledback | .escalated => 9

theorem IncidentState.place_le (state : IncidentState) : state.place ≤ 9 := by
  cases state with
  | _ => decide

/-- A move leads on, and a retry back by five places. -/
theorem IncidentState.place_edge {a b : IncidentState} (h : b ∈ a.transitions) :
    a.place + 1 ≤ b.place + if a = .verifying ∧ b = .diagnosed then 6 else 0 := by
  revert h
  cases a <;> cases b <;> decide

/-- The number of rows that are accounted for. -/
def Incident.bound (r : Incident) : Nat :=
  r.state.place + 6 * r.attempts + if r.approvalRequired then 1 else 0

theorem bound_approval {q : Incident} (now : Int) (hstate : q.state = .planned)
    (hnot : q.approvalRequired = false) :
    ({ q with approvalRequired := true, version := q.version + 1, updatedAt := now } :
      Incident).bound = q.bound + 1 := by
  simp [Incident.bound, hstate, hnot]

theorem bound_move {q : Incident} (now : Int) {target : IncidentState}
    (hadm : Admitted q target) : q.bound + 1 ≤ (q.transitioned now q.version target q).bound := by
  have hplace := IncidentState.place_edge hadm.edge
  simp only [Incident.bound, Incident.transitioned, Incident.retries, Bool.and_eq_true,
    decide_eq_true_eq]
  split at hplace
  · rename_i hretry
    rw [if_pos hretry]
    omega
  · rename_i hretry
    rw [if_neg hretry]
    omega

/-- **Every row is accounted for.** -/
theorem version_le_bound {l : List (Option Incident)} (h : Linked LifeWrite l) {r : Incident}
    (hr : l.head?.join = some r) : r.version ≤ r.bound := by
  induction l generalizing r with
  | nil => cases hr
  | cons v rest ih =>
      have hw := h.1
      have hv : v = some r := hr
      subst hv
      generalize hnewest : rest.head?.join = newest at hw
      cases hw with
      | create r hstate hversion hattempts =>
          rw [hversion]
          simp only [Incident.bound, hstate, IncidentState.place]
          omega
      | approval q now hstate hnot =>
          have hq := ih h.2 hnewest
          rw [bound_approval now hstate hnot]
          show q.version + 1 ≤ q.bound + 1
          omega
      | move q now target hadm =>
          have hq := ih h.2 hnewest
          have hbound := bound_move now hadm
          rw [version_transitioned]
          omega

/-! ### What the workers do to the table

The tasks are taken apart in `Proofs/WorkerCalls`: whatever a worker runs is made of transactions
that leave the incidents alone, of `transition` and of `require_incident_approval`.  Operators and
incoming incidents are beside them, and keep to the same kind of write.
-/

/-- What one step of a worker can do to each incident. -/
def LifeAct (p : Nat) (s s' : Db) : Prop :=
  ∀ i, ∃ l, Cell.Step LifeWrite ⟨p, l⟩ (s.incidents i) (s'.incidents i)

def Living (s : Db) : Prop := ∀ i, Linked LifeWrite (s.incidents i).chain

/-- Incidents come in as `create_incident` writes them. -/
def OpenedAsCreated (s s' : Db) : Prop :=
  ((s'.incidents s.nextId).committed.all fun row =>
    !(s.incidents s.nextId).versions.isEmpty || decide (row.version = 1 ∧ row.attempts = 0)) = true

instance (s s' : Db) : Decidable (OpenedAsCreated s s') :=
  inferInstanceAs (Decidable (_ = true))

section Acts

variable {p : Nat} {s s' : Db}

theorem LifeAct.same (h : s'.incidents = s.incidents) : LifeAct p s s' := by
  intro i
  rw [h]
  exact ⟨0, Cell.Step.same _⟩

theorem UnmovedStep.life (h : UnmovedStep p s s') : LifeAct p s s' := by
  intro i
  cases h with
  | same heq =>
      rw [heq]
      exact ⟨0, Cell.Step.same _⟩
  | commit l heq =>
      rw [heq]
      exact ⟨l, Cell.Step.commit _⟩
  | rollback l heq =>
      rw [heq]
      exact ⟨l, Cell.Step.rollback _⟩

theorem Living.act (h : Living s) (hact : LifeAct p s s') : Living s' := by
  intro i
  obtain ⟨l, hstep⟩ := hact i
  exact hstep.linked (h i)

theorem Living.crash (h : Living s) (p : Nat) : Living (s.crash p) := by
  intro i
  have h₀ : Linked LifeWrite ((s.incidents i).rollback ⟨p, 0⟩).chain :=
    (Cell.Step.rollback (s.incidents i)).linked (h i)
  exact (Cell.Step.rollback (W := LifeWrite) (t := (⟨p, 1⟩ : TxId)) _).linked h₀

/-- What happens beside the workers: the rows stay, or an operator decides on one that nobody is
writing, or one is added. -/
inductive Beside (s s' : Db) : Prop
  | same (h : s'.incidents = s.incidents)
  | decided (i : Nat) (inc : Incident) (target : IncidentState)
      (hidle : (s.incidents i).pending = none) (hrow : (s.incidents i).committed = some inc)
      (hadm : Admitted inc target)
      (h : s'.incidents = Function.update s.incidents i (((s.incidents i).write ⟨0, 0⟩
        (some (inc.transitioned s.now inc.version target inc))).commit ⟨0, 0⟩))
  | opened (incident : Incident) (hidle : (s.incidents s.nextId).pending = none)
      (hnone : (s.incidents s.nextId).versions = []) (hstate : incident.state = .detected)
      (h : s'.incidents = Function.update s.incidents s.nextId (Cell.ofRow incident))

theorem beside_of_env {e : WorkerEnv} (henv : e.apply s = some s') : Beside s s' := by
  cases e with
  | tick elapsed =>
      cases henv
      exact .same rfl
  | control c =>
      cases henv
      exact .same rfl
  | bound resource =>
      cases henv
      exact .same rfl
  | decided i approval =>
      simp only [WorkerEnv.apply, Db.decide] at henv
      split at henv
      · cases henv
      · rename_i inc hrow
        split at henv
        · rename_i hc
          cases henv
          refine .decided i inc _ (Option.isNone_iff_eq_none.mp hc.1) hrow ?_ rfl
          refine ⟨?_, fun hplanned => ?_, fun hretry => ?_⟩
          · rw [hc.2.1]
            split
            · decide
            · decide
          · rw [hc.2.1] at hplanned
            cases hplanned
          · rw [Incident.retries, hc.2.1] at hretry
            cases hretry
        · cases henv
  | opened incident =>
      simp only [WorkerEnv.apply] at henv
      split at henv
      · rename_i hc
        cases henv
        exact .opened incident (Option.isNone_iff_eq_none.mp hc.2.1) hc.1 hc.2.2 rfl
      · cases henv

theorem Beside.life (h : Beside s s') (hadm : OpenedAsCreated s s') (hs : Living s) :
    Living s' := by
  intro i
  cases h with
  | same heq =>
      rw [heq]
      exact hs i
  | decided j inc target hidle hrow hadmitted heq =>
      rw [heq]
      by_cases hi : i = j
      · subst hi
        rw [Function.update_self]
        have hvisible : (s.incidents i).visible ⟨0, 0⟩ = some inc := by
          rw [Cell.visible_eq_committed (Cell.own_eq_nil_of_not_locked
            (Cell.not_locked_of_pending hidle _))]
          exact hrow
        have hwritten : Cell.Step LifeWrite (⟨0, 0⟩ : TxId) (s.incidents i)
            ((s.incidents i).write ⟨0, 0⟩
              (some (inc.transitioned s.now inc.version target inc))) :=
          Cell.Step.write _ _ (by simp [Cell.free, hidle])
            (by rw [hvisible]; exact .move inc _ target hadmitted)
        have hcommitted : Cell.Step LifeWrite (⟨0, 0⟩ : TxId) _ _ := Cell.Step.commit
          ((s.incidents i).write ⟨0, 0⟩ (some (inc.transitioned s.now inc.version target inc)))
        exact hcommitted.linked (hwritten.linked (hs i))
      · rw [Function.update_of_ne hi]
        exact hs i
  | opened incident hidle hnone hstate heq =>
      rw [heq]
      by_cases hi : i = s.nextId
      · subst hi
        rw [Function.update_self]
        unfold OpenedAsCreated at hadm
        rw [heq, Function.update_self, hnone] at hadm
        have hnew : incident.version = 1 ∧ incident.attempts = 0 := by
          simpa [Cell.ofRow, Cell.committed] using hadm
        exact ⟨.create incident hstate hnew.1 hnew.2, trivial⟩
      · rw [Function.update_of_ne hi]
        exact hs i

/-- Whoever has seen a row sees it still. -/
theorem Beside.saw (h : Beside s s') {i : Nat} {r : Incident} (hsaw : Saw p i r s) :
    Saw p i r s' := by
  unfold Saw at hsaw ⊢
  cases h with
  | same heq =>
      rw [heq]
      exact hsaw
  | decided j inc target hidle hrow hadmitted heq =>
      rw [heq]
      by_cases hi : i = j
      · subst hi
        rw [Function.update_self]
        have hold : some r ∈ (s.incidents i).versions := by
          have hown : (s.incidents i).own ⟨p, 0⟩ = [] :=
            Cell.own_eq_nil_of_not_locked (Cell.not_locked_of_pending hidle _)
          unfold Cell.view at hsaw
          rw [hown] at hsaw
          exact hsaw
        refine List.mem_append_right _ ?_
        rw [Cell.commit_versions]
        exact List.mem_append_right _ hold
      · rw [Function.update_of_ne hi]
        exact hsaw
  | opened incident hidle hnone hstate heq =>
      rw [heq]
      by_cases hi : i = s.nextId
      · subst hi
        have hview : (s.incidents s.nextId).view ⟨p, 0⟩ = [] := by
          unfold Cell.view
          rw [Cell.own_eq_nil_of_not_locked (Cell.not_locked_of_pending hidle _), hnone]
          rfl
        rw [hview] at hsaw
        cases hsaw
      · rw [Function.update_of_ne hi]
        exact hsaw

end Acts

/-- The workers, each of which keeps to its transactions. -/
def lifeProtocol : Protocol World WorkerTask WorkerEnv Db where
  machine := workerMachine OpenedAsCreated
  guar := LifeAct
  inv := Living
  inv_guar := fun _ _ _ hinv hact _ => hinv.act hact
  inv_crash := fun p _ hinv => hinv.crash p
  inv_env := fun _ _ _ hinv henv hadm => (beside_of_env henv).life hadm hinv

section Calls

variable {α : Type} {p : Nat}

theorem stable_lifeSaw {i : Nat} {r : Incident} : lifeProtocol.Stable p (Saw p i r) := by
  intro s s' _ hsaw hother
  have hne : ∀ {q l : Nat}, q ≠ p → (⟨q, l⟩ : TxId) ≠ ⟨p, 0⟩ :=
    fun hq heq => hq (congrArg TxId.pid heq)
  cases hother with
  | proc q hq hact hadm =>
      obtain ⟨l, hstep⟩ := hact i
      exact hstep.mem_view (hne hq) hsaw
  | crash q _ hq =>
      have hback : some r ∈ ((s.incidents i).rollback ⟨q, 0⟩).view ⟨p, 0⟩ :=
        (Cell.Step.rollback (W := LifeWrite) (s.incidents i)).mem_view (hne hq) hsaw
      exact (Cell.Step.rollback (W := LifeWrite) (t := (⟨q, 1⟩ : TxId)) _).mem_view (hne hq) hback
  | env e henv hadm => exact (beside_of_env henv).saw hsaw

/-- The programs that keep to the protocol, from a state of which `R` is known. -/
def Lives (p : Nat) (R : Db → Prop) (x : Prog α) : Prop :=
  lifeProtocol.Triple p R x (fun _ _ => True) (fun _ _ => True)

theorem lives_quiet {x : Prog α} (h : Interleaving.Prog.Within (UnmovedStep p) x) :
    Lives p (fun _ => True) x :=
  triple_of_steps h (stable_const True) fun _ _ _ _ hstep => ⟨hstep.life, trivial⟩

/-- An `UPDATE` keeps to the protocol if every row it sets may be written over the one in sight. -/
theorem lives_updateIncident {R : Db → Prop} {i : Nat} {set : Int → Incident → Option Incident}
    (hst : lifeProtocol.Stable p R)
    (hset : ∀ s now row row', Living s → R s → (s.incidents i).visible ⟨p, 0⟩ = some row →
      set now row = some row' → LifeWrite (some row) (some row')) :
    Lives p R (updateIncident ⟨p, 0⟩ i set) := by
  refine triple_sql hst (fun _ _ _ => LifeAct.same rfl) (fun _ _ _ => trivial) ?_
  intro s r s' hinv hR hf _
  have htrivial : post (fun _ _ => True) (fun _ _ => True) r s' := by
    cases r <;> trivial
  refine ⟨?_, htrivial⟩
  simp only at hf
  split at hf
  swap
  · simp only [Option.some.injEq, Prod.mk.injEq] at hf
    obtain ⟨-, rfl⟩ := hf
    exact LifeAct.same rfl
  rename_i row' hrow'
  split at hf
  swap
  · cases hf
  rename_i hfree
  simp only [Option.some.injEq, Prod.mk.injEq] at hf
  obtain ⟨-, rfl⟩ := hf
  obtain ⟨row, hrow, hwritten⟩ := Option.bind_eq_some_iff.mp hrow'
  intro j
  show ∃ l, Cell.Step LifeWrite ⟨p, l⟩ (s.incidents j) (Function.update s.incidents i _ j)
  by_cases hj : j = i
  · subst hj
    rw [Function.update_self]
    refine ⟨0, Cell.Step.write _ _ hfree ?_⟩
    rw [hrow]
    exact hset s _ row row' hinv hR hrow hwritten
  · rw [Function.update_of_ne hj]
    exact ⟨0, Cell.Step.same _⟩

theorem lives_requireIncidentApproval (i : Nat) (v : Int) :
    Lives p (fun _ => True) (requireIncidentApproval ⟨p, 0⟩ i v) := by
  refine Triple.bind (M := fun _ _ => True) (lives_updateIncident (stable_const True) ?_)
    (fun result => ?_)
  · intro s now row row' _ _ _ hset
    split at hset
    · rename_i hc
      simp only [Option.some.injEq] at hset
      rw [← hset, ← hc.1]
      exact LifeWrite.approval row now hc.2.1 hc.2.2
    · cases hset
  · cases result with
    | some incident => exact triple_pure _ fun _ _ _ => trivial
    | none => exact triple_throw _ fun _ _ _ => trivial

/-- The row that `transition` writes over is the one that it has checked: it has its version. -/
theorem lives_transition (actor : String) (i : Nat) (v : Int) (target : IncidentState) :
    Lives p (fun _ => True) (transition ⟨p, 0⟩ actor i v target) := by
  have hread : lifeProtocol.Triple p (fun _ => True) (getIncident ⟨p, 0⟩ i)
      (fun found s => ∀ r, found = some r → Saw p i r s) (fun _ _ => True) :=
    triple_select (stable_const True) (fun _ _ _ => LifeAct.same rfl) (fun _ _ _ => trivial)
      (fun s _ _ r hr => Cell.visible_mem hr)
  refine hread.bind (fun found => ?_)
  cases found with
  | none => exact triple_throw _ fun _ _ _ => trivial
  | some incident =>
      have hcheck : lifeProtocol.Triple p (fun s => ∀ r, some incident = some r → Saw p i r s)
          (check (incident.admitsTransition v target))
          (fun _ s => Saw p i incident s ∧ (incident.version : Int) = v ∧
            Admitted incident target) (fun _ _ => True) :=
        triple_check (fun _ s hok _ h => ⟨h incident rfl, admitted_of_ok hok⟩)
          (fun _ _ _ _ _ => trivial)
      refine hcheck.bind (fun _ => ?_)
      refine Triple.bind (M := fun _ _ => True)
        (lives_updateIncident (stable_lifeSaw.and (stable_const _)) ?_) (fun result => ?_)
      · intro s now row row' hinv hR hrow hset
        obtain ⟨hsaw, hversion, hadm⟩ := hR
        split at hset
        · rename_i hc
          simp only [Option.some.injEq] at hset
          have hrank : versionRank (some incident) = versionRank (some row) := by
            simp only [versionRank]
            omega
          have hsame : incident = row := Cell.eq_of_seen versionRank
            (fun _ _ h => versionRank_lt h.write) (hinv i) hsaw hrow hrank
          subst hsame
          rw [← hset, ← hversion]
          exact LifeWrite.move incident now target hadm
        · cases hset
      · cases result with
        | none => exact triple_throw _ fun _ _ _ => trivial
        | some updated =>
            by_cases htarget : target = .approved
            · simp only [if_pos htarget]
              refine lives_quiet (Interleaving.Prog.Within.bind
                (Interleaving.Prog.within_stmt ?_) (fun id => Interleaving.Prog.Within.bind
                  (sql_within (fun _ => .same rfl) ?_) (fun _ =>
                    Interleaving.Prog.within_pure _)))
              · intro w s r s' hf
                simp only [Option.some.injEq, Prod.mk.injEq] at hf
                rw [← hf.2]
                exact .same rfl
              · intro s r s' hf
                simp only [Option.some.injEq, Prod.mk.injEq] at hf
                rw [← hf.2]
                exact .same rfl
            · simp only [if_neg htarget]
              exact triple_pure _ fun _ _ _ => trivial

/-- **What a task does to the incidents keeps to the protocol.** -/
theorem lives_task (task : WorkerTask) : Lives p (fun _ => True) (task.prog p) := by
  refine MadeOf.triple (C := MovingCall p) ?_ (moves_task task)
  intro α x hx
  cases hx with
  | quiet _ h => exact lives_quiet h
  | approval i v => exact lives_requireIncidentApproval i v
  | transition actor i v target => exact lives_transition actor i v target

theorem lifeProtocol_verified : lifeProtocol.Verified :=
  fun _ task _ hinv _ => (lives_task task).ends hinv trivial

end Calls

/-! ### Every run -/

/-- Where a run begins: nobody is writing an incident, and each has come to where it is by the
writes of a worker. -/
def Db.IncidentsAtRest (s : Db) : Prop :=
  ∀ i, (s.incidents i).pending = none ∧ Linked LifeWrite (s.incidents i).versions

/-- **The life of an incident is a run of the state machine, and a short one.**  Take any number of
workers and recovery services over one database, with operators who decide and incidents that come
in.  In every state that they reach the committed rows of each incident are a run: it begins at
`DETECTED` and moves along the transitions, each row is of the next version, attempts count the
retries and keep to their limit, and no row follows an end.  With `retryLimit` retries it has at
most `10 + 6 * retryLimit` rows. -/
theorem incident_life_bounded (s₀ : Db) (h₀ : s₀.IncidentsAtRest) (c : Config World Db)
    (hr : Reaches (workerMachine OpenedAsCreated) (Config.idle s₀) c) (i : Nat) :
    (c.state.incidents i).versions = (c.state.history i).map some ∧
      WellRun (c.state.history i) ∧ LegalRun (c.state.history i) ∧
      ∀ r ∈ c.state.history i, (c.state.history i).length ≤ 10 + 6 * r.retryLimit := by
  have hinit : Living s₀ := by
    intro j
    obtain ⟨hidle, hlinked⟩ := h₀ j
    rw [Cell.chain_eq_view (t := (⟨0, 0⟩ : TxId)) (by simp [Cell.free, hidle])]
    unfold Cell.view
    rw [Cell.own_eq_nil_of_not_locked (Cell.not_locked_of_pending hidle _)]
    exact hlinked
  have hliving : Living c.state := inv_of_reaches lifeProtocol_verified hinit hr
  have hlinked : Linked LifeWrite (c.state.incidents i).versions :=
    (hliving i).suffix (Cell.versions_suffix_chain _)
  obtain ⟨heq, hhistory⟩ := history_of_linked (linked_incidentWrite hlinked)
  have hrun : WellRun (c.state.history i) := hhistory.wellRun
  have hlegal : LegalRun (c.state.history i) :=
    legalRun_of_linked ((show _ = (c.state.history i).map some from heq) ▸ hlinked)
  refine ⟨heq, hrun, hlegal, fun r hr => ?_⟩
  cases hl : c.state.history i with
  | nil => exact Nat.zero_le _
  | cons newest older =>
      rw [hl] at hrun hr
      have hhead : (c.state.incidents i).versions.head?.join = some newest := by
        have hmap : (c.state.incidents i).versions = (c.state.history i).map some := heq
        rw [hmap, hl]
        rfl
      have hcount : newest.version = 1 + older.length :=
        hrun.version newest older List.suffix_rfl
      have hbound : newest.version ≤ newest.bound := version_le_bound hlinked hhead
      have hbudget : newest.attempts ≤ newest.retryLimit :=
        hrun.budget newest List.mem_cons_self
      have hlimit : r.retryLimit = newest.retryLimit :=
        hrun.limit r hr newest List.mem_cons_self
      have hplace := newest.state.place_le
      have happroval : (if newest.approvalRequired then 1 else 0) ≤ 1 := by
        split <;> omega
      unfold Incident.bound at hbound
      rw [List.length_cons]
      omega

/-- An incident as `create_incident` writes it. -/
def createdIncident : Incident :=
  { id := 0, resourceId := 4, correlationKey := "k", state := .detected, updatedAt := 0 }

/-- An incident comes in, and a worker takes it up. -/
theorem incident_life_bounded_triaged :
    ∃ c, Reaches (workerMachine OpenedAsCreated) (Config.idle (Db.init 0)) c ∧
      (c.state.history 0).map (fun r => (r.state, r.version)) = [(.triaged, 2), (.detected, 1)] ∧
      WellRun (c.state.history 0) ∧ LegalRun (c.state.history 0) := by
  obtain ⟨c, hr, htest⟩ := Machine.reaches_of_exec (workerMachine OpenedAsCreated)
    (Config.idle (Db.init 0))
    ([.env (.opened createdIncident), .start 1 (.message "worker:a" 0 none)] ++
      List.replicate 27 (.run 1 {}))
    (fun db => decide ((db.history 0).map (fun r => (r.state, r.version)) =
      [(.triaged, 2), (.detected, 1)])) (by decide +kernel)
  rw [decide_eq_true_eq] at htest
  obtain ⟨-, hrun, hlegal, -⟩ :=
    incident_life_bounded (Db.init 0) (fun _ => ⟨rfl, trivial⟩) c hr 0
  exact ⟨c, hr, htest, hrun, hlegal⟩

end SelfHealing
