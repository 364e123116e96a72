/-
At most one restart for an idempotency key.

Whoever calls Docker has committed, in one transaction of its own, the move of the
record to `RUNNING`.  Records only move forward, so that a record is `RUNNING` in one
of its versions at most, and the calls that may dispatch can be counted against
these versions.  A call that has leave to dispatch issues one restart: that is the
order of its events.

What is counted are events of the log and versions of a row, neither of which is ever taken back.
So the count is an invariant of single steps, and no step needs to know who else is at work: a
crash takes away a call's leave to go on, and leaves what it has done.
-/
import SelfHealing.Proofs.AdapterProtocol

namespace SelfHealing

open Interleaving Interleaving.Protocol ReadCommitted

/-! ### What a trail allows

The order of a call's events bounds its restarts, and puts the lock transaction before each of
them.
-/

section Trails

variable {p : Nat} {l : List Event}

/-- Every event of a trail is about its process. -/
theorem Trail.proc (h : Trail p l) : ∀ e ∈ l, e.proc = p := by
  induction h with
  | crashed l _ ih =>
      intro e he
      rcases List.mem_cons.mp he with heq | hmem
      · rw [heq]; rfl
      · exact ih e hmem
  | _ => simp [Event.proc]

/-- A restart is issued by a call that has leave to dispatch. -/
theorem Trail.acquired_of_restart (h : Trail p l) {i : ExecutionIntent}
    (hr : .restartIssued p i ∈ l) : ∃ w, .acquired p i w ∈ l := by
  induction h with
  | crashed l _ ih =>
      simp only [List.mem_cons, reduceCtorEq, false_or] at hr
      obtain ⟨w, hw⟩ := ih hr
      exact ⟨w, List.mem_cons_of_mem _ hw⟩
  | issued _ j w | ended _ j w | returned _ j w =>
      simp only [List.mem_cons, reduceCtorEq, Event.restartIssued.injEq, true_and, or_false,
        false_or, List.not_mem_nil] at hr
      exact ⟨w, by simp [hr]⟩
  | _ => simp at hr

/-- And by a call that has issued none before. -/
theorem Trail.restart_once (h : Trail p l) (k : String) : l.countP (Event.isRestartOf k) ≤ 1 := by
  induction h with
  | crashed l _ ih => simpa [List.countP_cons, Event.isRestartOf] using ih
  | issued _ j w | ended _ j w | returned _ j w =>
      by_cases hk : j.idempotencyKey = k
      · simp [Event.isRestartOf, hk]
      · simp [Event.isRestartOf, hk]
  | _ => simp [Event.isRestartOf]

/-- A call that has returned has made its Docker call. -/
theorem Trail.ended_of_returned (h : Trail p l) {i j : ExecutionIntent} {w : String}
    (hret : .returned p i ∈ l) (hacq : .acquired p j w ∈ l) : .restartEnded p j ∈ l := by
  induction h with
  | crashed l _ ih =>
      simp only [List.mem_cons, reduceCtorEq, false_or] at hret hacq
      exact List.mem_cons_of_mem _ (ih hret hacq)
  | returned _ j' w' =>
      simp only [List.mem_cons, reduceCtorEq, Event.acquired.injEq, true_and, or_false,
        false_or, List.not_mem_nil] at hacq
      simp [hacq.1]
  | _ => simp at hret

end Trails

/-! ### The invariant

The calls that have come to dispatch for a key are counted against the versions in which its record
is `RUNNING`.  There is one such version at most, as the status only moves forward; and a call
comes to dispatch only by writing it.  Both counts only grow, so that crashes do not disturb them.
-/

/-- The leave to dispatch for an idempotency key. -/
def Event.isAcquiredFor (key : String) : Event → Bool
  | .acquired _ intent _ => decide (intent.idempotencyKey = key)
  | _ => false

/-- How far a record has come; no record comes before all of them. -/
def statusRank : Option Execution → Nat
  | none => 0
  | some row =>
      match row.status with
      | .pending => 1
      | .running => 2
      | .succeeded | .failed => 3
      | .rolledback => 4

theorem statusRank_lt {v w : Option Execution} (h : ExecWrite v w) :
    statusRank v < statusRank w := by
  cases h with
  | insert r hstatus hversion => simp [statusRank, hstatus]
  | finish q r hversion hallowed =>
      cases hq : q.status <;> simp [hq, ExecutionStatus.allowed] at hallowed
      · simp [statusRank, hq, hallowed]
      · rcases hallowed with hr | hr <;> simp [statusRank, hq, hr]
      · simp [statusRank, hq, hallowed]

structure Dispatched (s : Db) : Prop where
  chained : ∀ k, Linked ExecWrite (s.executions k).chain
  trails : ∀ p, Trail p (mine p s.log)
  /-- Every leave to dispatch has its version of the record. -/
  counted : ∀ k, s.log.countP (Event.isAcquiredFor k) ≤
    (s.executions k).versions.countP (fun v => decide (statusRank v = 2))

namespace Dispatched

variable {s s' : Db} {p : Nat}

theorem acquired_le_one (h : Dispatched s) (k : String) :
    s.log.countP (Event.isAcquiredFor k) ≤ 1 := by
  have h1 := h.counted k
  have h2 : (s.executions k).versions.countP (fun v => decide (statusRank v = 2)) ≤ 1 :=
    ((h.chained k).suffix (Cell.versions_suffix_chain _)).countP_le_one
      (fun _ _ hw => statusRank_lt hw) 2
  omega

/-- Two leaves to dispatch for one key are the same. -/
theorem acquired_unique (h : Dispatched s) {p q : Nat} {i j : ExecutionIntent} {w v : String}
    (hp : .acquired p i w ∈ s.log) (hq : .acquired q j v ∈ s.log)
    (hkey : i.idempotencyKey = j.idempotencyKey) : p = q ∧ i = j := by
  have hone := h.acquired_le_one j.idempotencyKey
  generalize s.log = log at hp hq hone
  induction log with
  | nil => simp at hp
  | cons e rest ih =>
      rw [List.countP_cons] at hone
      rcases List.mem_cons.mp hp with hpe | hp
      · rcases List.mem_cons.mp hq with hqe | hq
        · rw [← hpe] at hqe
          simp only [Event.acquired.injEq] at hqe
          exact ⟨hqe.1.symm, hqe.2.1.symm⟩
        · have hpos : 0 < rest.countP (Event.isAcquiredFor j.idempotencyKey) :=
            List.countP_pos_iff.mpr ⟨_, hq, by simp [Event.isAcquiredFor]⟩
          rw [← hpe] at hone
          simp only [Event.isAcquiredFor, hkey, decide_true, if_true] at hone
          omega
      · rcases List.mem_cons.mp hq with hqe | hq
        · have hpos : 0 < rest.countP (Event.isAcquiredFor j.idempotencyKey) :=
            List.countP_pos_iff.mpr ⟨_, hp, by simp [Event.isAcquiredFor, hkey]⟩
          rw [← hqe] at hone
          simp only [Event.isAcquiredFor, decide_true, if_true] at hone
          omega
        · exact ih hp hq (by omega)

/-- **At most one restart** for a key, in a state that satisfies the invariant. -/
theorem restarts_le_one (h : Dispatched s) (k : String) : restartsIssued k s.log ≤ 1 := by
  by_cases hnone : ∃ e ∈ s.log, Event.isRestartOf k e = true
  · obtain ⟨e, he, hkey⟩ := hnone
    have hshape : ∃ p i, e = .restartIssued p i ∧ i.idempotencyKey = k := by
      cases e with
      | restartIssued p i => exact ⟨p, i, rfl, by simpa [Event.isRestartOf] using hkey⟩
      | _ => simp [Event.isRestartOf] at hkey
    obtain ⟨p, i, rfl, hi⟩ := hshape
    have hleave : ∀ {q : Nat} {j : ExecutionIntent}, .restartIssued q j ∈ s.log →
        ∃ w, .acquired q j w ∈ s.log := by
      intro q j hq
      obtain ⟨w, hw⟩ := (h.trails q).acquired_of_restart ((mem_mine rfl).mpr hq)
      exact ⟨w, (mem_mine rfl).mp hw⟩
    obtain ⟨w, hw⟩ := hleave he
    -- every restart for the key is one of process `p`, and these can be counted on its trail
    have hmine : restartsIssued k s.log = (mine p s.log).countP (Event.isRestartOf k) := by
      unfold restartsIssued mine
      rw [List.countP_filter]
      refine List.countP_congr ?_
      intro e' he'
      simp only [Bool.and_eq_true, decide_eq_true_eq, iff_self_and]
      intro hkey'
      cases e' with
      | restartIssued q j =>
          obtain ⟨v, hv⟩ := hleave he'
          have hj : j.idempotencyKey = k := by simpa [Event.isRestartOf] using hkey'
          exact (h.acquired_unique hv hw (hj.trans hi.symm)).1
      | _ => simp [Event.isRestartOf] at hkey'
    rw [hmine]
    exact (h.trails p).restart_once k
  · have hzero : restartsIssued k s.log = 0 := by
      unfold restartsIssued
      rw [List.countP_eq_zero]
      intro e he hkey
      exact hnone ⟨e, he, hkey⟩
    omega

/-! #### Each step keeps it -/

/-- The versions of a record stay, and so do those that are `RUNNING`. -/
theorem countP_le_of_suffix {V : Type} {l l' : List V} (h : l <:+ l') (f : V → Bool) :
    l.countP f ≤ l'.countP f := by
  obtain ⟨front, rfl⟩ := h
  rw [List.countP_append]
  omega

/-- A step that logs nothing new about a leave to dispatch. -/
theorem of_steps (h : Dispatched s)
    (hcell : ∀ k, ∃ t, Cell.Step ExecWrite t (s.executions k) (s'.executions k))
    (htrails : ∀ q, Trail q (mine q s'.log))
    (hcount : ∀ k, s'.log.countP (Event.isAcquiredFor k) = s.log.countP (Event.isAcquiredFor k)) :
    Dispatched s' where
  chained := by
    intro k
    obtain ⟨t, hstep⟩ := hcell k
    exact hstep.linked (h.chained k)
  trails := htrails
  counted := by
    intro k
    obtain ⟨t, hstep⟩ := hcell k
    rw [hcount]
    exact (h.counted k).trans (countP_le_of_suffix hstep.versions_suffix _)

theorem trails_cons (h : Dispatched s) {e : Event} (hproc : e.proc = p)
    (hnext : Trail p (e :: mine p s.log)) : ∀ q, Trail q (mine q (e :: s.log)) := by
  intro q
  by_cases hq : q = p
  · subst hq
    rw [mine_cons_self hproc]
    exact hnext
  · rw [mine_cons_ne (fun heq => hq (heq.symm.trans hproc))]
    exact h.trails q

theorem same_cell (s : Db) (k : String) :
    ∃ t, Cell.Step ExecWrite t (s.executions k) (s.executions k) :=
  ⟨⟨0, 0⟩, Cell.Step.same _⟩

theorem act (h : Dispatched s) (hact : AdapterAct p s s') : Dispatched s' := by
  cases hact with
  | quiet hexec hlocks hlog hnow htx hdocker =>
      refine h.of_steps ?_ ?_ ?_
      · intro k
        rw [hexec]
        exact same_cell s k
      · rw [hlog]
        exact h.trails
      · intro k
        rw [hlog]
  | lock r hfree => exact h.of_steps (same_cell s) h.trails (fun _ => rfl)
  | writeLock r v hfree hw => exact h.of_steps (same_cell s) h.trails (fun _ => rfl)
  | writeExec t ht k v hfree hw hwhy =>
      refine h.of_steps ?_ h.trails (fun _ => rfl)
      intro k'
      by_cases hk : k' = k
      · subst hk
        simp only [Db.setExecution, Function.update_self]
        exact ⟨t, Cell.Step.write _ v hfree hw⟩
      · simp only [Db.setExecution, Function.update_of_ne hk]
        exact same_cell s k'
  | rollback t ht => exact h.of_steps (fun k => ⟨t, Cell.Step.rollback _⟩) h.trails (fun _ => rfl)
  | commit t ht hout =>
      exact h.of_steps (fun k => ⟨t, Cell.Step.commit _⟩) h.trails (fun _ => rfl)
  | finish intent hnext =>
      exact h.of_steps (fun k => ⟨⟨p, 0⟩, Cell.Step.commit _⟩) (h.trails_cons rfl hnext)
        (fun k => List.countP_cons_of_neg (by simp [Event.isAcquiredFor]))
  | event e docker hproc hacq hnext hdocker =>
      refine h.of_steps (same_cell s) (h.trails_cons hproc hnext) ?_
      intro k
      refine List.countP_cons_of_neg ?_
      cases e <;> simp [Event.isAcquiredFor, Event.isAcquired] at hacq ⊢
  | acquire intent w l rest row hnext hlock howner hrow hrunning =>
      refine ⟨?_, h.trails_cons rfl hnext, ?_⟩
      · intro k
        exact (Cell.Step.commit (t := (⟨p, 0⟩ : TxId)) (s.executions k)).linked (h.chained k)
      · intro k
        have hversions : ((s.commit ⟨p, 0⟩).executions k).versions =
            (s.executions k).own ⟨p, 0⟩ ++ (s.executions k).versions := Cell.commit_versions
        have hold := h.counted k
        show (Event.acquired p intent w :: s.log).countP (Event.isAcquiredFor k) ≤
          ((s.commit ⟨p, 0⟩).executions k).versions.countP _
        rw [hversions, List.countP_append, List.countP_cons]
        by_cases hk : intent.idempotencyKey = k
        · subst hk
          have hpos : 0 < ((s.executions intent.idempotencyKey).own ⟨p, 0⟩).countP
              (fun v => decide (statusRank v = 2)) :=
            List.countP_pos_iff.mpr ⟨some row, hrow, by simp [statusRank, hrunning]⟩
          simp only [Event.isAcquiredFor, decide_true, if_true]
          omega
        · simp only [Event.isAcquiredFor, hk, decide_false, Bool.false_eq_true, if_false]
          omega

theorem crash (h : Dispatched s) (p : Nat) : Dispatched (s.crash p) where
  chained := by
    intro k
    have h1 : Linked ExecWrite ((s.executions k).rollback ⟨p, 0⟩).chain :=
      (Cell.Step.rollback (s.executions k)).linked (h.chained k)
    exact (Cell.Step.rollback (W := ExecWrite) _).linked h1
  trails := h.trails_cons rfl (Trail.crashed _ (h.trails p))
  counted := by
    intro k
    show (Event.crashed p :: s.log).countP (Event.isAcquiredFor k) ≤
      (((s.executions k).rollback ⟨p, 0⟩).rollback ⟨p, 1⟩).versions.countP _
    rw [Cell.rollback_versions, Cell.rollback_versions,
      List.countP_cons_of_neg (by simp [Event.isAcquiredFor])]
    exact h.counted k

theorem env (h : Dispatched s) {e : AdapterEnv} (henv : e.apply s = some s') : Dispatched s' := by
  cases e with
  | tick elapsed | control c | planned plans steps =>
      simp only [AdapterEnv.apply, Option.some.injEq] at henv
      rw [← henv]
      exact h.of_steps (same_cell s) h.trails (fun _ => rfl)

end Dispatched

/-! ### Runs -/

theorem apart_env {p : Nat} {e : AdapterEnv} {s s' : Db} (henv : e.apply s = some s') :
    Apart p s s' := by
  cases e with
  | tick elapsed | control c | planned plans steps =>
      simp only [AdapterEnv.apply, Option.some.injEq] at henv
      rw [← henv]
      exact apart_of_same rfl rfl rfl List.suffix_rfl

/-- Calls of `execute`, among themselves. -/
def executeProtocol : Protocol World ExecuteCall AdapterEnv Db where
  machine := executeMachine (fun _ _ => True)
  guar := AdapterAct
  inv := Dispatched
  inv_guar := fun _ _ _ hinv hact _ => hinv.act hact
  inv_crash := fun p _ hinv => hinv.crash p
  inv_env := fun _ _ _ hinv henv _ => hinv.env henv

theorem isAdapterProtocol_execute : IsAdapterProtocol executeProtocol where
  guar := fun _ _ _ h => h
  others := by
    intro p s s' _ h
    cases h with
    | proc q hq hact hadm => exact hact.apart hq
    | crash q _ hq => exact apart_crash hq s
    | env e henv hadm => exact apart_env henv
  chained := fun _ hinv => hinv.chained

/-- Every call keeps to its steps, in any protocol about such calls. -/
theorem execute_safe {A E : Type} {P : Protocol World A E Db} (hP : IsAdapterProtocol P) {p : Nat}
    (call : ExecuteCall) {s : Db} (hinv : P.inv s) (hready : s.unseen p) :
    P.Safe p
      (do
        let _ ← (execute p call.adapter call.intent).run
        pure ())
      (fun _ _ => True) s :=
  triple_ignore (execute_triple hP call.intent call.adapter) hinv (mine_unseen hready)

theorem dispatched_initial {db : Db} (hlog : db.log = [])
    (hexec : ∀ k, db.executions k = Cell.empty) : Dispatched db where
  chained := by
    intro k
    rw [hexec k]
    exact trivial
  trails := by
    intro p
    rw [hlog]
    exact Trail.unseen
  counted := by
    intro k
    rw [hlog]
    exact Nat.zero_le _

/-- **At-most-once dispatch**: whatever the calls, their interleaving, their crashes and their
replays, at most one restart is ever issued for an idempotency key. -/
theorem restarts_at_most_once (db₀ : Db) (hlog : db₀.log = [])
    (hexec : ∀ k, db₀.executions k = Cell.empty) (c : Config World Db)
    (hr : Reaches (executeMachine (fun _ _ => True)) (Config.idle db₀) c) (key : String) :
    restartsIssued key c.state.log ≤ 1 := by
  have hverified : executeProtocol.Verified :=
    fun p call s hinv hready => execute_safe isAdapterProtocol_execute call hinv hready
  exact (inv_of_reaches hverified (dispatched_initial hlog hexec) hr).restarts_le_one key

/-- A container that runs, and the restart of its resource. -/
def runningContainer : World :=
  { inspect := .answered { id := "0123456789ab", status := "running" } }

def restartDemo : ExecutionIntent :=
  { incidentId := 1, planId := 2, planVersion := 1, stepId := 3, attemptNumber := 1,
    resourceId := 4, containerId := "0123456789ab", bindingGeneration := 1,
    idempotencyKey := "restart-1" }

/-- An intent as it is dispatched: with what the container looked like before. -/
def ExecutionIntent.dispatched (intent : ExecutionIntent) : ExecutionIntent :=
  { intent with preState := some { containerId := "0123456789ab", status := "running" } }

/-- The plan of that restart. -/
def demoPlanned : Db :=
  { Db.init 0 with
    plans := [⟨2, 1, 0, 1, "LOW", true, "", some "0123456789ab", some 1, none⟩]
    steps := [⟨3, 2, 4, 1, "restart_container", some "0123456789ab", some 1, none, none⟩] }

/-- A call crashes while Docker is restarting the container, and is made again. -/
theorem restarts_at_most_once_replayed :
    ∃ c, Reaches (executeMachine (fun _ _ => True)) (Config.idle demoPlanned) c ∧
      .crashed 0 ∈ c.state.log ∧ .called 1 restartDemo ∈ c.state.log ∧
      restartsIssued "restart-1" c.state.log = 1 := by
  obtain ⟨c, hr, htest⟩ := Machine.reaches_of_exec (executeMachine (fun _ _ => True))
    (Config.idle demoPlanned)
    (.start 0 ⟨⟨0, "worker:a"⟩, restartDemo⟩ ::
      List.replicate 20 (.run 0 runningContainer) ++
      [.crash 0, .start 1 ⟨⟨1, "worker:a"⟩, restartDemo⟩] ++
      List.replicate 9 (.run 1 runningContainer))
    (fun db => decide (.crashed 0 ∈ db.log) && decide (.called 1 restartDemo ∈ db.log) &&
      decide (0 < restartsIssued "restart-1" db.log)) (by decide)
  simp only [Bool.and_eq_true, decide_eq_true_eq] at htest
  have hone := restarts_at_most_once demoPlanned rfl (fun _ => rfl) c hr "restart-1"
  exact ⟨c, hr, htest.1.1, htest.1.2, by omega⟩

end SelfHealing
