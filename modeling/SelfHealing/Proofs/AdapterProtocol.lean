/-
What a call of `execute` does to the shared tables, step by step.

Each call has a number of its own, and the events about it come in a fixed order
(`Trail`), so that where a call stands can be read off the log and nobody else can
change it.  `AdapterAct` lists the steps a call can make together with what it knows
when it makes them; the triples below show, once and for every protocol that is
about such calls, that `execute` makes no other.

A protocol says which steps are allowed and keeps an invariant under them.  What an adapter's
protocol has to allow is asked for by `IsAdapterProtocol`, and the triple for `execute` is proved
from that alone: so it is proved once, and each result about calls brings its own protocol.
-/
import SelfHealing.Adapter
import SelfHealing.Proofs.Rules

namespace SelfHealing

open Interleaving Interleaving.Protocol ReadCommitted

/-! ### Where a call stands

The log holds the events of all calls, and those of one call make a trail of a fixed form.  What a
call may do next is read off the newest event of its own, which nobody else adds to; so where a
call stands needs no place in the state, and lasts for free while others make their steps.
-/

/-- The events about process `p`. -/
def mine (p : Nat) (log : List Event) : List Event := log.filter (fun e => e.proc = p)

/-- The events about a call, newest first, as far as it has come. -/
inductive Trail (p : Nat) : List Event → Prop
  | unseen : Trail p []
  | called (i : ExecutionIntent) : Trail p [.called p i]
  | acquired (i j : ExecutionIntent) (w : String) : Trail p [.acquired p j w, .called p i]
  | issued (i j : ExecutionIntent) (w : String) :
      Trail p [.restartIssued p j, .acquired p j w, .called p i]
  | ended (i j : ExecutionIntent) (w : String) :
      Trail p [.restartEnded p j, .restartIssued p j, .acquired p j w, .called p i]
  | returned (i j : ExecutionIntent) (w : String) :
      Trail p [.returned p j, .restartEnded p j, .restartIssued p j, .acquired p j w, .called p i]
  | crashed (l : List Event) (h : Trail p l) : Trail p (.crashed p :: l)

/-- The event of a lock transaction. -/
def Event.isAcquired : Event → Bool
  | .acquired _ _ _ => true
  | _ => false

section Mine

variable {p q : Nat} {e : Event} {log : List Event}

theorem mine_cons_self (h : e.proc = p) : mine p (e :: log) = e :: mine p log := by
  simp [mine, h]

theorem mine_cons_ne (h : e.proc ≠ p) : mine p (e :: log) = mine p log := by
  simp [mine, h]

theorem mem_mine (h : e.proc = p) : e ∈ mine p log ↔ e ∈ log := by
  simp [mine, h]

theorem mine_unseen (h : ∀ e ∈ log, e.proc ≠ p) : mine p log = [] := by
  simpa [mine, List.filter_eq_nil_iff] using h

/-- The call has leave to dispatch on resource `r`, and has not ended. -/
def Dispatching (p r : Nat) (w : String) (log : List Event) : Prop :=
  (∃ intent : ExecutionIntent, .acquired p intent w ∈ log ∧ intent.resourceId = r) ∧
  (∀ intent, .returned p intent ∉ log) ∧ .crashed p ∉ log

/-- What a call has logged decides whether it is dispatching. -/
theorem dispatching_iff_mine (p r : Nat) (w : String) (log : List Event) :
    Dispatching p r w log ↔ Dispatching p r w (mine p log) := by
  unfold Dispatching
  have hacq : ∀ i : ExecutionIntent, Event.acquired p i w ∈ mine p log ↔ .acquired p i w ∈ log :=
    fun i => mem_mine rfl
  have hret : ∀ i : ExecutionIntent, Event.returned p i ∈ mine p log ↔ .returned p i ∈ log :=
    fun i => mem_mine rfl
  have hcr : Event.crashed p ∈ mine p log ↔ .crashed p ∈ log := mem_mine rfl
  simp only [hacq, hret, hcr]

theorem dispatching_congr {log' : List Event} (h : mine p log' = mine p log) {r : Nat}
    {w : String} : Dispatching p r w log' ↔ Dispatching p r w log := by
  rw [dispatching_iff_mine, h, ← dispatching_iff_mine]

end Mine

/-- Only what a snapshot shows is a success. -/
theorem reconciled_success {time : Int} {pre post : ContainerSnapshot}
    (h : (reconciled (some time) (some pre) post).reconciledSuccess = true) :
    pre.restartCount < post.restartCount ∨
      ∃ started, fromIsoformat (replaceZulu (post.startedAt.getD "")) = some started ∧
        time - seconds 2 ≤ started := by
  unfold reconciled at h
  by_cases hcount : pre.restartCount < post.restartCount
  · exact Or.inl hcount
  · refine Or.inr ?_
    simp only [Option.map_some, Option.getD_some, gt_iff_lt, hcount, if_false] at h
    cases hparse : fromIsoformat (replaceZulu (post.startedAt.getD "")) with
    | none => simp [hparse] at h
    | some started =>
        by_cases htime : time - seconds 2 ≤ started
        · exact ⟨started, rfl, htime⟩
        · simp [hparse, htime] at h

/-! ### One step of a call

A step is listed with what the call knows when it makes it: the row that it has read, the answer
that it was given, the event that it adds.  Which of this a result needs is its own affair.
-/

/-- A write to the record of a key. -/
inductive ExecWrite : Option Execution → Option Execution → Prop
  | insert (r : Execution) (hstatus : r.status = .pending) (hversion : r.version = 1) :
      ExecWrite none (some r)
  | finish (q r : Execution) (hversion : r.version = q.version + 1)
      (hallowed : r.status ∈ q.status.allowed) : ExecWrite (some q) (some r)

/-- A write to the lock of resource `r`: it is taken, or whoever dispatches there gives it up. -/
inductive LockWrite (p r : Nat) (s : Db) : Option ResourceLock → Prop
  | acquire (l : ResourceLock) (hout : ∀ r' w, ¬ Dispatching p r' w s.log)
      (havail : ∀ cur, (s.locks r).visible ⟨p, 0⟩ = some cur →
        cur.available (s.txTime ⟨p, 0⟩) l.owner = true) : LockWrite p r s (some l)
  | settle (v : Option ResourceLock) (w : String) (hin : Dispatching p r w s.log) :
      LockWrite p r s v

/-- What a container looks like shows that it was restarted for this intent, dispatched at this
time. -/
def ContainerAttrs.ShowsRestart (attrs : ContainerAttrs) (intent : ExecutionIntent) (time : Int) :
    Prop :=
  (intent.preState.map ContainerSnapshot.restartCount).getD 0 < attrs.restartCount ∨
    ∃ started, fromIsoformat (replaceZulu (attrs.startedAt.getD "")) = some started ∧
      time - seconds 2 ≤ started

/-- A restart for key `k` is known to have been made: a call for it has returned normally, or a
look at the container after its dispatch shows it. -/
inductive Proven (k : String) (docker : List DockerEvent) : Prop
  | returned (p : Nat) (intent : ExecutionIntent) (hkey : intent.idempotencyKey = k)
      (hmem : .restarted p intent ∈ docker) : Proven k docker
  | shown (p : Nat) (intent : ExecutionIntent) (time : Int) (attrs : ContainerAttrs)
      (later earlier : List DockerEvent) (hkey : intent.idempotencyKey = k)
      (heq : docker = later ++ .dispatched p intent time :: earlier)
      (hlook : ∃ leftover, .inspected leftover intent.containerId attrs ∈ later)
      (hshows : attrs.ShowsRestart intent time) : Proven k docker

/-- What is known stays known. -/
theorem Proven.suffix {k : String} {docker docker' : List DockerEvent} (h : Proven k docker)
    (hs : docker <:+ docker') : Proven k docker' := by
  cases h with
  | returned p intent hkey hmem => exact .returned p intent hkey (hs.mem hmem)
  | shown p intent time attrs later earlier hkey heq hlook hshows =>
      obtain ⟨front, rfl⟩ := hs
      refine .shown p intent time attrs (front ++ later) earlier hkey ?_ ?_ hshows
      · rw [heq, List.append_assoc]
      · obtain ⟨leftover, hmem⟩ := hlook
        exact ⟨leftover, List.mem_append_right _ hmem⟩

/-- The record of key `k` was found `RUNNING`, and then its container running. -/
def FoundRunning (k : String) (docker : List DockerEvent) : Prop :=
  ∃ containerId attrs, .inspected (some k) containerId attrs ∈ docker ∧ attrs.status = "running"

theorem FoundRunning.suffix {k : String} {docker docker' : List DockerEvent}
    (h : FoundRunning k docker) (hs : docker <:+ docker') : FoundRunning k docker' := by
  obtain ⟨containerId, attrs, hmem, hrunning⟩ := h
  exact ⟨containerId, attrs, hs.mem hmem, hrunning⟩

/-- A record may be called a success when it and its container have been found running, or when it
is known to be one. -/
def Vouched (k : String) (docker : List DockerEvent) : Prop :=
  FoundRunning k docker ∨ Proven k docker

/-- A caller is told the outcome. -/
def DockerEvent.isTold : DockerEvent → Bool
  | .told _ _ _ => true
  | _ => false

/-- At most one thing more has been seen of Docker, and nobody has been told anything. -/
def Looked (docker docker' : List DockerEvent) : Prop :=
  docker' = docker ∨ ∃ e, docker' = e :: docker ∧ e.isTold = false

theorem Looked.refl (docker : List DockerEvent) : Looked docker docker := Or.inl rfl

theorem Looked.suffix {docker docker' : List DockerEvent} (h : Looked docker docker') :
    docker <:+ docker' := by
  rcases h with rfl | ⟨e, rfl, -⟩
  · exact List.suffix_rfl
  · exact List.suffix_cons _ _

/-- One step of a call. -/
inductive AdapterAct (p : Nat) : Db → Db → Prop
  | quiet {s s' : Db} (hexec : s'.executions = s.executions) (hlocks : s'.locks = s.locks)
      (hlog : s'.log = s.log) (hnow : s'.now = s.now)
      (htx : ∀ t, s'.txTime t = s.txTime t ∨ s'.txTime t = s.now)
      (hdocker : Looked s.docker s'.docker) : AdapterAct p s s'
  | lock (s : Db) (r : Nat) (hfree : (s.locks r).free ⟨p, 0⟩ = true) :
      AdapterAct p s (s.setLock r ((s.locks r).lock ⟨p, 0⟩))
  | writeLock (s : Db) (r : Nat) (v : Option ResourceLock)
      (hfree : (s.locks r).free ⟨p, 0⟩ = true) (hw : LockWrite p r s v) :
      AdapterAct p s (s.setLock r ((s.locks r).write ⟨p, 0⟩ v))
  | writeExec (s : Db) (t : TxId) (ht : t.pid = p) (k : String) (v : Option Execution)
      (hfree : (s.executions k).free t = true) (hw : ExecWrite ((s.executions k).visible t) v)
      (hwhy : ∀ row, v = some row → row.status = .succeeded → Vouched k s.docker) :
      AdapterAct p s (s.setExecution k ((s.executions k).write t v))
  | rollback (s : Db) (t : TxId) (ht : t.pid = p) : AdapterAct p s (s.rollback t)
  | commit (s : Db) (t : TxId) (ht : t.pid = p) (hout : ∀ r w, ¬ Dispatching p r w s.log) :
      AdapterAct p s ((s.commit t).record [])
  | acquire (s : Db) (intent : ExecutionIntent) (w : String) (l : ResourceLock)
      (rest : List (Option ResourceLock)) (row : Execution)
      (hnext : Trail p (.acquired p intent w :: mine p s.log))
      (hlock : (s.locks intent.resourceId).pending = some ⟨⟨p, 0⟩, some l :: rest⟩)
      (howner : l.owner = w)
      (hrow : some row ∈ (s.executions intent.idempotencyKey).own ⟨p, 0⟩)
      (hrunning : row.status = .running) :
      AdapterAct p s ((s.commit ⟨p, 0⟩).record [.acquired p intent w])
  | finish (s : Db) (intent : ExecutionIntent)
      (hnext : Trail p (.returned p intent :: mine p s.log)) :
      AdapterAct p s ((s.commit ⟨p, 0⟩).record [.returned p intent])
  | event (s : Db) (e : Event) (docker : List DockerEvent) (hproc : e.proc = p)
      (hacq : e.isAcquired = false) (hnext : Trail p (e :: mine p s.log))
      (hdocker : Looked s.docker docker) :
      AdapterAct p s { s.record [e] with docker := docker }

/-- What other calls find of a step of `p`: steps of its transactions on each row, and nothing
new about themselves. -/
structure Apart (p : Nat) (s s' : Db) : Prop where
  exec : ∀ k, Cell.Others ExecWrite (fun t => t.pid = p) (s.executions k) (s'.executions k)
  locks : ∀ r, Cell.Others (fun _ _ => True) (fun t => t.pid = p) (s.locks r) (s'.locks r)
  log : mine p s'.log = mine p s.log
  docker : s.docker <:+ s'.docker

theorem apart_of_same {p : Nat} {s s' : Db} (hexec : s'.executions = s.executions)
    (hlocks : s'.locks = s.locks) (hlog : s'.log = s.log) (hdocker : s.docker <:+ s'.docker) :
    Apart p s s' where
  exec := by
    intro k
    rw [hexec]
    exact Relation.ReflTransGen.refl
  locks := by
    intro r
    rw [hlocks]
    exact Relation.ReflTransGen.refl
  log := by rw [hlog]
  docker := hdocker

theorem AdapterAct.apart {p q : Nat} (hq : q ≠ p) {s s' : Db} (h : AdapterAct q s s') :
    Apart p s s' := by
  have hnot : ∀ {t : TxId}, t.pid = q → ¬ t.pid = p := by
    intro t ht htp
    exact hq (ht.symm.trans htp)
  have hmine : ∀ {e : Event}, e.proc = q → mine p (e :: s.log) = mine p s.log := by
    intro e he
    exact mine_cons_ne (fun hp => hq (he.symm.trans hp))
  cases h with
  | quiet hexec hlocks hlog hnow htx hdocker => exact apart_of_same hexec hlocks hlog hdocker.suffix
  | lock r hfree =>
      refine ⟨fun k => Relation.ReflTransGen.refl, ?_, rfl, List.suffix_rfl⟩
      intro r'
      by_cases hr : r' = r
      · subst hr
        simp only [Db.setLock, Function.update_self]
        exact (Cell.Step.lock _ hfree).others (hnot rfl)
      · simp only [Db.setLock, Function.update_of_ne hr]
        exact Relation.ReflTransGen.refl
  | writeLock r v hfree hw =>
      refine ⟨fun k => Relation.ReflTransGen.refl, ?_, rfl, List.suffix_rfl⟩
      intro r'
      by_cases hr : r' = r
      · subst hr
        simp only [Db.setLock, Function.update_self]
        exact (Cell.Step.write _ v hfree trivial).others (hnot rfl)
      · simp only [Db.setLock, Function.update_of_ne hr]
        exact Relation.ReflTransGen.refl
  | writeExec t ht k v hfree hw hwhy =>
      refine ⟨?_, fun r => Relation.ReflTransGen.refl, rfl, List.suffix_rfl⟩
      intro k'
      by_cases hk : k' = k
      · subst hk
        simp only [Db.setExecution, Function.update_self]
        exact (Cell.Step.write _ v hfree hw).others (hnot ht)
      · simp only [Db.setExecution, Function.update_of_ne hk]
        exact Relation.ReflTransGen.refl
  | rollback t ht =>
      exact ⟨fun k => (Cell.Step.rollback _).others (hnot ht),
        fun r => (Cell.Step.rollback _).others (hnot ht), rfl, List.suffix_rfl⟩
  | commit t ht hout =>
      exact ⟨fun k => (Cell.Step.commit _).others (hnot ht),
        fun r => (Cell.Step.commit _).others (hnot ht), rfl, List.suffix_rfl⟩
  | acquire intent w l rest row hnext hlock howner hrow hrunning =>
      exact ⟨fun k => (Cell.Step.commit _).others (hnot rfl),
        fun r => (Cell.Step.commit _).others (hnot rfl), hmine rfl, List.suffix_rfl⟩
  | finish intent hnext =>
      exact ⟨fun k => (Cell.Step.commit _).others (hnot rfl),
        fun r => (Cell.Step.commit _).others (hnot rfl), hmine rfl, List.suffix_rfl⟩
  | event e docker hproc hacq hnext hdocker =>
      exact ⟨fun k => Relation.ReflTransGen.refl, fun r => Relation.ReflTransGen.refl,
        hmine hproc, hdocker.suffix⟩

theorem apart_crash {p q : Nat} (hq : q ≠ p) (s : Db) : Apart p s (s.crash q) := by
  have hnot : ∀ l : Nat, ¬ (⟨q, l⟩ : TxId).pid = p := fun _ h => hq h
  refine ⟨?_, ?_, mine_cons_ne hq, List.suffix_rfl⟩
  · intro k
    have h0 : Cell.Others ExecWrite (fun t => t.pid = p) (s.executions k)
        ((s.executions k).rollback ⟨q, 0⟩) := Cell.others_rollback (hnot 0)
    exact h0.trans (Cell.others_rollback (hnot 1))
  · intro r
    have h0 : Cell.Others (fun _ _ => True) (fun t => t.pid = p) (s.locks r)
        ((s.locks r).rollback ⟨q, 0⟩) := Cell.others_rollback (hnot 0)
    exact h0.trans (Cell.others_rollback (hnot 1))

/-! ### The programs keep to it

The statements come first, then the parts of the adapter in the order in which they are called, and
`execute` at the end.  Assertions speak of the call's own trail, which no other call writes to, so
that they are stable.
-/

/-- A protocol about calls of `execute`. -/
structure IsAdapterProtocol {A E : Type} (P : Protocol World A E Db) : Prop where
  guar : ∀ p s s', AdapterAct p s s' → P.guar p s s'
  others : ∀ p s s', P.inv s → P.Other p s s' → Apart p s s'
  chained : ∀ s, P.inv s → ∀ k, Linked ExecWrite (s.executions k).chain

/-- What a caller is told is what the record says; of one that failed it may also be told that it
is in doubt, if that is not because the container was gone. -/
def ExecutionOutcome.Tells (outcome : ExecutionOutcome) (row : Execution) : Prop :=
  outcome.executionId = some row.id ∧
    (row.status = .succeeded ∧ outcome.status = .succeeded ∨
      row.status = .failed ∧ (outcome.status = .failed ∨
        outcome.status = .uncertain ∧ ∀ text, row.result ≠ .error text))

/-- The version of a record; no record comes before all of them. -/
def executionRank : Option Execution → Nat
  | none => 0
  | some r => r.version

theorem executionRank_lt {v w : Option Execution} (h : ExecWrite v w) :
    executionRank v < executionRank w := by
  cases h with
  | insert r hstatus hversion => simp [executionRank, hversion]
  | finish q r hversion hallowed => simp [executionRank, hversion]

section Programs

variable {A E : Type} {P : Protocol World A E Db} (hP : IsAdapterProtocol P) {p : Nat}

/-- Where the call stands. -/
def At (p : Nat) (l : List Event) (s : Db) : Prop := mine p s.log = l

/-- The call has taken the lock of resource `r` for `w`, and not committed. -/
def Owns (p r : Nat) (w : String) (s : Db) : Prop :=
  ∃ l rest, (s.locks r).pending = some ⟨⟨p, 0⟩, some l :: rest⟩ ∧ l.owner = w

/-- The call has written a record under key `k`, and not committed. -/
def Wrote (p : Nat) (k : String) (row : Execution) (s : Db) : Prop :=
  some row ∈ (s.executions k).own ⟨p, 0⟩

/-- The call has seen a record under key `k`, in transaction `t`. -/
def SawExecution (t : TxId) (k : String) (row : Execution) (s : Db) : Prop :=
  some row ∈ (s.executions k).view t

/-- The call has moved on. -/
theorem At.cons {l : List Event} {s s' : Db} {e : Event} (h : At p l s)
    (hlog : s'.log = e :: s.log) (hproc : e.proc = p) : At p (e :: l) s' := by
  unfold At
  rw [hlog, mine_cons_self hproc, show mine p s.log = l from h]

include hP

theorem stable_at (l : List Event) : P.Stable p (At p l) := by
  intro s s' hinv h hother
  unfold At
  rw [(hP.others p s s' hinv hother).log]
  exact h

theorem stable_owns (r : Nat) (w : String) : P.Stable p (Owns p r w) := by
  intro s s' hinv h hother
  obtain ⟨l, rest, hpend, howner⟩ := h
  have hsame := ((hP.others p s s' hinv hother).locks r).eq_of_locked (t := ⟨p, 0⟩) rfl ⟨_, hpend⟩
  refine ⟨l, rest, ?_, howner⟩
  rw [hsame]
  exact hpend

theorem stable_wrote (k : String) (row : Execution) : P.Stable p (Wrote p k row) := by
  intro s s' hinv h hother
  unfold Wrote
  rw [((hP.others p s s' hinv hother).exec k).own_eq (t := ⟨p, 0⟩) rfl]
  exact h

theorem stable_sawExecution {t : TxId} (ht : t.pid = p) (k : String) (row : Execution) :
    P.Stable p (SawExecution t k row) := by
  intro s s' hinv h hother
  exact ((hP.others p s s' hinv hother).exec k).mem_view ht h

/-- What has been seen of Docker stays seen. -/
theorem stable_seen {S : List DockerEvent → Prop}
    (hS : ∀ l l' : List DockerEvent, l <:+ l' → S l → S l') : P.Stable p (fun s => S s.docker) :=
  fun s s' hinv h hother => hS _ _ (hP.others p s s' hinv hother).docker h

omit hP

/-- An assertion that looks at the log, the locks and what has been seen of Docker only. -/
def OffRecords (R : Db → Prop) : Prop :=
  ∀ s s' : Db, s'.log = s.log → s'.locks = s.locks → s.docker <:+ s'.docker → R s → R s'

/-- An assertion that looks at the records besides. -/
def OnTables (R : Db → Prop) : Prop :=
  ∀ s s' : Db, s'.log = s.log → s'.locks = s.locks → s.docker <:+ s'.docker →
    s'.executions = s.executions → R s → R s'

theorem OffRecords.onTables {R : Db → Prop} (h : OffRecords R) : OnTables R :=
  fun s s' hlog hlocks hdocker _ hR => h s s' hlog hlocks hdocker hR

/-- An assertion that looks at anything but the locks. -/
def OffLocks (R : Db → Prop) : Prop :=
  ∀ s s' : Db, s'.log = s.log → s'.executions = s.executions → s.docker <:+ s'.docker → R s → R s'

theorem OffLocks.onTables {R : Db → Prop} (h : OffLocks R) : OnTables R :=
  fun s s' hlog _ hdocker hexec hR => h s s' hlog hexec hdocker hR

theorem offRecords_at (l : List Event) : OffRecords (At p l) := by
  intro s s' hlog _ _ h
  unfold At
  rw [hlog]
  exact h

theorem offRecords_owns (r : Nat) (w : String) : OffRecords (Owns p r w) := by
  intro s s' _ hlocks _ h
  unfold Owns
  rw [hlocks]
  exact h

theorem offRecords_seen {S : List DockerEvent → Prop}
    (hS : ∀ l l' : List DockerEvent, l <:+ l' → S l → S l') : OffRecords (fun s => S s.docker) :=
  fun _ _ _ _ hdocker h => hS _ _ hdocker h

/-- What a snapshot for a record that was found `RUNNING` has shown, it goes on to show. -/
theorem offRecords_found (k : String) (post : ContainerSnapshot) :
    OffRecords (fun s => post.status = "running" → FoundRunning k s.docker) :=
  offRecords_seen (S := fun docker => post.status = "running" → FoundRunning k docker)
    (fun _ _ hs h hrunning => (h hrunning).suffix hs)

theorem OffRecords.and {R R' : Db → Prop} (h : OffRecords R) (h' : OffRecords R') :
    OffRecords (fun s => R s ∧ R' s) :=
  fun s s' hlog hlocks hdocker hR =>
    ⟨h s s' hlog hlocks hdocker hR.1, h' s s' hlog hlocks hdocker hR.2⟩

theorem AdapterAct.idle (s : Db) : AdapterAct p s s :=
  AdapterAct.quiet rfl rfl rfl rfl (fun _ => Or.inl rfl) (Looked.refl _)

theorem AdapterAct.noted (s : Db) {e : DockerEvent} (he : e.isTold = false) :
    AdapterAct p s (s.note e) :=
  AdapterAct.quiet rfl rfl rfl rfl (fun _ => Or.inl rfl) (Or.inr ⟨e, rfl, he⟩)

include hP

theorem stable_found (k : String) (post : ContainerSnapshot) :
    P.Stable p (fun s => post.status = "running" → FoundRunning k s.docker) :=
  stable_seen hP (S := fun docker => post.status = "running" → FoundRunning k docker)
    (fun _ _ hs h hrunning => (h hrunning).suffix hs)

section Quiet

variable {R : Db → Prop} (hst : P.Stable p R)

include hst

theorem select_keeps {α : Type} {f : Db → α} :
    P.Triple p R (select f) (fun _ => R) (fun _ => R) :=
  triple_select hst (fun s _ _ => hP.guar _ _ _ (AdapterAct.idle s)) (fun _ _ h => h)
    (fun _ _ h => h)

theorem datetimeNow_keeps : P.Triple p R datetimeNow (fun _ => R) (fun _ => R) :=
  triple_datetimeNow hst (fun s _ _ => hP.guar _ _ _ (AdapterAct.idle s)) (fun _ _ h => h)

theorem uuid4_keeps (hloc : OnTables R) :
    P.Triple p R (uuid4 p) (fun _ => R) (fun _ => R) :=
  triple_uuid4 hst (fun s _ h _ =>
    ⟨hP.guar _ _ _ (AdapterAct.quiet rfl rfl rfl rfl (fun _ => Or.inl rfl) (Looked.refl _)),
      hloc s _ rfl rfl List.suffix_rfl rfl h⟩)

omit hP hst in
theorem check_keeps {α : Type} {x : Except Err α} :
    P.Triple p R (check x) (fun _ => R) (fun _ => R) :=
  triple_check (fun _ _ _ _ h => h) (fun _ _ _ _ h => h)

/-- Looking at a container: what is seen is noted. -/
theorem inspectContainer_triple (hloc : OnTables R) (leftover : Option String)
    (containerId : String) :
    P.Triple p R (inspectContainer leftover containerId)
      (fun attrs s => R s ∧
        ∃ s₀, R s₀ ∧ s.docker = .inspected leftover containerId attrs :: s₀.docker)
      (fun _ => R) := by
  unfold inspectContainer
  by_cases hhex : hexContainerId containerId = true
  · rw [if_pos hhex]
    refine triple_stmt hst ?_
    intro s w r s' _ hR hf _
    split at hf
    · simp only [Option.some.injEq, Prod.mk.injEq] at hf
      obtain ⟨rfl, rfl⟩ := hf
      exact ⟨hP.guar _ _ _ (AdapterAct.idle s), hR⟩
    · simp only [Option.some.injEq, Prod.mk.injEq] at hf
      obtain ⟨rfl, rfl⟩ := hf
      exact ⟨hP.guar _ _ _ (AdapterAct.idle s), hR⟩
    · simp only [Option.some.injEq, Prod.mk.injEq] at hf
      obtain ⟨rfl, rfl⟩ := hf
      refine ⟨hP.guar _ _ _ (AdapterAct.noted s rfl), ?_, s, hR, rfl⟩
      exact hloc s _ rfl rfl (List.suffix_cons _ _) rfl hR
  · rw [if_neg hhex]
    exact triple_throw _ (fun _ _ h => h)

theorem takeSnapshot_keeps (hloc : OnTables R) (leftover : Option String) (containerId : String) :
    P.Triple p R (takeSnapshot leftover containerId) (fun _ => R) (fun _ => R) :=
  Triple.bind (inspectContainer_triple hP hst hloc leftover containerId)
    (fun _ => triple_pure _ (fun _ _ h => h.1))

/-- A snapshot for a record that was found `RUNNING`: it is noted if the container is running. -/
theorem takeSnapshot_found (hloc : OnTables R) (k containerId : String) :
    P.Triple p R (takeSnapshot (some k) containerId)
      (fun post s => R s ∧ (post.status = "running" → FoundRunning k s.docker)) (fun _ => R) := by
  refine Triple.bind (inspectContainer_triple hP hst hloc (some k) containerId) (fun attrs => ?_)
  refine triple_pure _ (fun s _ h => ?_)
  obtain ⟨hR, s₀, -, hdocker⟩ := h
  refine ⟨hR, fun hrunning => ⟨containerId, attrs, ?_, hrunning⟩⟩
  rw [hdocker]
  exact List.mem_cons_self

/-- A success of `reconcile` is known to be one, of a restart that is on its way. -/
theorem reconcile_triple (hloc : OnTables R) {intent : ExecutionIntent} {time : Int}
    {pre : ContainerSnapshot} (hpre : intent.preState = some pre)
    (hseen : ∀ s, R s → .dispatched p intent time ∈ s.docker) :
    P.Triple p R (reconcile intent (some time) (some pre))
      (fun recon s => R s ∧ (recon.reconciledSuccess = true →
        Proven intent.idempotencyKey s.docker)) (fun _ => R) := by
  refine Triple.handle ?_ (fun e => triple_pure _ (fun _ _ h => ⟨h, fun hno => by simp at hno⟩))
  refine Triple.bind (M := fun post s => R s ∧ ∃ attrs : ContainerAttrs, ∃ s₀, R s₀ ∧
    s.docker = .inspected none intent.containerId attrs :: s₀.docker ∧
    post.restartCount = attrs.restartCount ∧ post.startedAt = attrs.startedAt) ?_ (fun post => ?_)
  · refine Triple.bind (inspectContainer_triple hP hst hloc none intent.containerId)
      (fun attrs => ?_)
    refine triple_pure _ (fun s _ h => ?_)
    obtain ⟨hR, s₀, hR₀, hdocker⟩ := h
    exact ⟨hR, attrs, s₀, hR₀, hdocker, rfl, rfl⟩
  · refine triple_pure _ (fun s _ h => ⟨h.1, fun hok => ?_⟩)
    obtain ⟨-, attrs, s₀, hR₀, hdocker, hcount, hstarted⟩ := h
    obtain ⟨later, earlier, hsplit⟩ := List.append_of_mem (hseen s₀ hR₀)
    refine .shown p intent time attrs (.inspected none intent.containerId attrs :: later) earlier
      rfl ?_ ⟨none, List.mem_cons_self⟩ ?_
    · rw [hdocker, hsplit]
      rfl
    · unfold ContainerAttrs.ShowsRestart
      rw [hpre, ← hcount, ← hstarted]
      exact reconciled_success hok

theorem checkSafety_keeps (t : TxId) (r : Nat) (held : Option AutomationControl) :
    P.Triple p R (checkSafety t r held) (fun _ => R) (fun _ => R) := by
  unfold checkSafety
  have hrest : ∀ control, P.Triple p R
      (do
        check (AutomationControl.checkSafety r control)
        let lock ← getLock t r
        check (ResourceLock.checkSafety r lock) : Prog Unit)
      (fun _ => R) (fun _ => R) :=
    fun _ => Triple.bind check_keeps
      (fun _ => Triple.bind (select_keeps hP hst) (fun _ => check_keeps))
  cases held with
  | some control => exact Triple.bind (triple_pure (some control) (fun _ _ h => h)) hrest
  | none => exact Triple.bind (select_keeps hP hst) hrest

end Quiet

/-! #### Records -/

omit hP in
theorem admitsFinish_ok {v : Nat} {status : ExecutionStatus} {found : Option Execution}
    (h : Execution.admitsFinish v status found = .ok ()) :
    ∃ row, found = some row ∧ row.version = v ∧ status ∈ row.status.allowed := by
  unfold Execution.admitsFinish at h
  cases found with
  | none => simp [throw, throwThe, MonadExceptOf.throw] at h
  | some row =>
      by_cases hv : row.version = v
      · by_cases hs : status ∈ row.status.allowed
        · exact ⟨row, rfl, hv, hs⟩
        · simp [hv, hs, throw, throwThe, MonadExceptOf.throw] at h
      · simp [hv, throw, throwThe, MonadExceptOf.throw] at h

omit hP in
theorem withId_some {id : Nat} {row : Execution} {v : Option Execution}
    (h : Execution.withId id v = some row) : v = some row := by
  unfold Execution.withId at h
  exact (Option.filter_eq_some_iff.mp h).1

omit hP in
theorem withId_id {id : Nat} {row : Execution} {v : Option Execution}
    (h : Execution.withId id v = some row) : row.id = id := by
  unfold Execution.withId at h
  exact of_decide_eq_true (Option.filter_eq_some_iff.mp h).2

/-- `finish_execution` writes over the record that it checked: it has its version. -/
theorem finishExecution_triple {R : Db → Prop} (hst : P.Stable p R) (hoff : OffRecords R)
    {t : TxId} (ht : t.pid = p) (k : String) (id v : Nat) (status : ExecutionStatus)
    (result : ExecutionResult) (reason : Option String)
    (hwhy : status = .succeeded → ∀ s, R s → Vouched k s.docker) :
    P.Triple p R (finishExecution t k id v status result reason)
      (fun row s => R s ∧ some row ∈ (s.executions k).own t ∧ row.status = status ∧ row.id = id ∧
        row.result = result)
      (fun _ => R) := by
  unfold finishExecution
  have hread : P.Triple p R
      (select fun db => Execution.withId id ((db.executions k).visible t))
      (fun found s => R s ∧ ∀ row, found = some row → SawExecution t k row s) (fun _ => R) :=
    triple_select hst (fun s _ _ => hP.guar _ _ _ (AdapterAct.idle s)) (fun _ _ h => h)
      (fun s _ h => ⟨h, fun row hrow => Cell.visible_mem (withId_some hrow)⟩)
  refine hread.bind (fun found => ?_)
  have hcheck : P.Triple p (fun s => R s ∧ ∀ row, found = some row → SawExecution t k row s)
      (check (Execution.admitsFinish v status found))
      (fun _ s => R s ∧ ∃ row, SawExecution t k row s ∧
        (row.version = v ∧ status ∈ row.status.allowed)) (fun _ => R) := by
    refine triple_check ?_ (fun _ _ _ _ h => h.1)
    intro _ s hok _ h
    obtain ⟨row, hrow, hv, hs⟩ := admitsFinish_ok hok
    exact ⟨h.1, row, h.2 row hrow, hv, hs⟩
  refine hcheck.bind (fun _ => ?_)
  have hstable : P.Stable p (fun s => R s ∧ ∃ row, SawExecution t k row s ∧
      (row.version = v ∧ status ∈ row.status.allowed)) :=
    hst.and (Stable.exists fun row => (stable_sawExecution hP ht k row).and (stable_const _))
  have hupdate : P.Triple p (fun s => R s ∧ ∃ row, SawExecution t k row s ∧
      (row.version = v ∧ status ∈ row.status.allowed))
      (sql fun db =>
        let c := db.executions k
        match (Execution.withId id (c.visible t)).filter (fun row => row.version = v) with
        | none => some (.ok none, db)
        | some row =>
            let row := row.finished (db.txTime t) v status result reason
            if c.free t then some (.ok (some row), db.setExecution k (c.write t (some row)))
            else none)
      (fun updated s => R s ∧ ∀ row, updated = some row →
        some row ∈ (s.executions k).own t ∧ row.status = status ∧ row.id = id ∧
          row.result = result) (fun _ => R) := by
    refine triple_sql hstable (fun s _ _ => hP.guar _ _ _ (AdapterAct.idle s))
      (fun _ _ h => h.1) ?_
    intro s r s' hinv hR hf _
    simp only at hf
    split at hf
    · simp only [Option.some.injEq, Prod.mk.injEq] at hf
      obtain ⟨rfl, rfl⟩ := hf
      exact ⟨hP.guar _ _ _ (AdapterAct.idle s), hR.1, fun row hrow => by simp at hrow⟩
    · rename_i row hrow
      obtain ⟨hwith, hver⟩ := Option.filter_eq_some_iff.mp hrow
      have hvis := withId_some hwith
      have hid := withId_id hwith
      simp only [decide_eq_true_eq] at hver
      split at hf
      · rename_i hfree
        simp only [Option.some.injEq, Prod.mk.injEq] at hf
        obtain ⟨rfl, rfl⟩ := hf
        obtain ⟨hR', seen, hsaw, hseenv, hallowed⟩ := hR
        have hsame : seen = row :=
          Cell.eq_of_seen executionRank (fun _ _ h => executionRank_lt h) (hP.chained s hinv k)
            hsaw hvis (by simp only [executionRank]; omega)
        subst hsame
        refine ⟨hP.guar _ _ _ (AdapterAct.writeExec s t ht k _ hfree ?_ ?_),
          hoff s _ rfl rfl List.suffix_rfl hR', ?_⟩
        · rw [hvis]
          exact ExecWrite.finish seen _ (by simp [Execution.finished, hseenv]) hallowed
        · intro row' hrow' hstatus
          simp only [Option.some.injEq] at hrow'
          subst hrow'
          exact hwhy hstatus s hR'
        · intro row' hrow'
          simp only [Option.some.injEq] at hrow'
          subst hrow'
          refine ⟨?_, rfl, hid, rfl⟩
          simp only [Db.setExecution, Function.update_self, Cell.own_write]
          exact List.mem_cons_self
      · simp at hf
  refine hupdate.bind (fun updated => ?_)
  cases updated with
  | none => exact triple_throw _ (fun _ _ h => h.1)
  | some row => exact triple_pure row (fun s _ h => ⟨h.1, h.2 row rfl⟩)

/-- `record_execution` returns a record that it has seen. -/
theorem recordExecution_triple {R : Db → Prop} (hst : P.Stable p R) (hoff : OffRecords R)
    (actor : String) (intent : ExecutionIntent) (token : Option Nat) :
    P.Triple p R (recordExecution ⟨p, 0⟩ actor intent token)
      (fun row s => R s ∧ SawExecution ⟨p, 0⟩ intent.idempotencyKey row s) (fun _ => R) := by
  unfold recordExecution
  refine Triple.bind (select_keeps hP hst) (fun step => Triple.bind (select_keeps hP hst)
    (fun plan => ?_))
  have hfail : ∀ (S : Db → Prop) (e : Err), P.Triple p (fun s => R s ∧ S s)
      (throw e : Prog Execution)
      (fun row s => R s ∧ SawExecution ⟨p, 0⟩ intent.idempotencyKey row s) (fun _ => R) :=
    fun _ e => triple_throw e (fun _ _ h => h.1)
  have hinsert : ∀ row : Execution, row.status = .pending → row.version = 1 →
      P.Triple p R (insertExecution ⟨p, 0⟩ intent.idempotencyKey row)
        (fun inserted s => R s ∧ ∀ row', inserted = some row' →
          SawExecution ⟨p, 0⟩ intent.idempotencyKey row' s) (fun _ => R) := by
    intro row hstatus hversion
    refine triple_sql hst (fun s _ _ => hP.guar _ _ _ (AdapterAct.idle s)) (fun _ _ h => h) ?_
    intro s r s' _ hR hf _
    simp only at hf
    split at hf
    · rename_i hfree
      split at hf
      · simp only [Option.some.injEq, Prod.mk.injEq] at hf
        obtain ⟨rfl, rfl⟩ := hf
        exact ⟨hP.guar _ _ _ (AdapterAct.idle s), hR, fun row' hrow' => by simp at hrow'⟩
      · rename_i hnone
        simp only [Option.some.injEq, Prod.mk.injEq] at hf
        obtain ⟨rfl, rfl⟩ := hf
        refine ⟨hP.guar _ _ _ (AdapterAct.writeExec s ⟨p, 0⟩ rfl _ _ hfree ?_ ?_),
          hoff s _ rfl rfl List.suffix_rfl hR, ?_⟩
        · rw [hnone]
          exact ExecWrite.insert row hstatus hversion
        · intro row' hrow' hsucceeded
          simp only [Option.some.injEq] at hrow'
          rw [← hrow', hstatus] at hsucceeded
          cases hsucceeded
        · intro row' hrow'
          simp only [Option.some.injEq] at hrow'
          subst hrow'
          unfold SawExecution Cell.view
          simp only [Db.setExecution, Function.update_self, Cell.own_write]
          exact List.mem_append_left _ List.mem_cons_self
    · simp at hf
  have hread : P.Triple p R (getExecution ⟨p, 0⟩ intent.idempotencyKey)
      (fun found s => R s ∧ ∀ row, found = some row →
        SawExecution ⟨p, 0⟩ intent.idempotencyKey row s) (fun _ => R) :=
    triple_select hst (fun s _ _ => hP.guar _ _ _ (AdapterAct.idle s)) (fun _ _ h => h)
      (fun s _ h => ⟨h, fun row hrow => Cell.visible_mem hrow⟩)
  have hfinal : ∀ found : Option Execution, P.Triple p
      (fun s => R s ∧ ∀ row, found = some row → SawExecution ⟨p, 0⟩ intent.idempotencyKey row s)
      (match found with
        | none =>
            throw ⟨.runtimeError, s!"Execution with idempotency key '{intent.idempotencyKey}' " ++
              "conflicted on insert but could not be located in the database."⟩
        | some execution =>
            if execution.belongsTo intent.incidentId intent.stepId intent.resourceId
                (some intent.containerId) then
              pure execution
            else throw foreignKeyError : Prog Execution)
      (fun row s => R s ∧ SawExecution ⟨p, 0⟩ intent.idempotencyKey row s) (fun _ => R) := by
    intro found
    cases found with
    | none => exact hfail _ _
    | some execution =>
        simp only
        split
        · exact triple_pure _ (fun _ _ h => ⟨h.1, h.2 execution rfl⟩)
        · exact hfail _ _
  cases step with
  | none => exact (hfail (fun _ => True) _).pre (fun _ _ h => ⟨h, trivial⟩)
  | some step =>
      cases plan with
      | none => exact (hfail (fun _ => True) _).pre (fun _ _ h => ⟨h, trivial⟩)
      | some plan =>
          simp only
          by_cases hmatch : plan.incidentId ≠ intent.incidentId
            ∨ step.resourceId ≠ intent.resourceId
          · simp only [if_pos hmatch]
            exact triple_throw_bind (fun _ _ h => h)
          · simp only [if_neg hmatch]
            refine Triple.bind (uuid4_keeps hP hst hoff.onTables) (fun id => ?_)
            refine Triple.bind (hinsert _ rfl rfl) (fun inserted => ?_)
            cases inserted with
            | some execution =>
                exact Triple.bind (triple_pure (some execution) (fun _ _ h => h)) hfinal
            | none => exact Triple.bind (hread.pre (fun _ _ h => h.1)) hfinal

/-! #### The lock -/

omit hP in
theorem not_dispatching_at {l : List Event} (hl : ∀ r w, ¬ Dispatching p r w l) {s : Db}
    (h : At p l s) (r : Nat) (w : String) : ¬ Dispatching p r w s.log := by
  rw [dispatching_iff_mine, h]
  exact hl r w

omit hP in
theorem acquire_lock_some {now : Int} {owner : String} {token : Nat} {duration : Int}
    {row : Option ResourceLock} {l : ResourceLock}
    (h : ResourceLock.acquire now owner token duration row = some l) :
    l.owner = owner ∧ ∀ cur, row = some cur → cur.available now owner = true := by
  unfold ResourceLock.acquire at h
  split at h
  · simp only [Option.some.injEq] at h
    subst h
    exact ⟨rfl, fun cur hcur => by simp at hcur⟩
  · rename_i current
    split at h
    · rename_i hav
      simp only [Option.some.injEq] at h
      subst h
      refine ⟨rfl, ?_⟩
      intro cur hcur
      simp only [Option.some.injEq] at hcur
      subst hcur
      exact hav
    · simp at h

theorem upsertLock_triple {l : List Event} (hl : ∀ r w, ¬ Dispatching p r w l) (actor : String)
    (r token : Nat) (duration : Int) :
    P.Triple p (At p l) (upsertLock ⟨p, 0⟩ actor r token duration)
      (fun result s => At p l s ∧ (result ≠ none → Owns p r actor s)) (fun _ => At p l) := by
  have hst := stable_at hP (p := p) l
  refine triple_sql hst (fun s _ _ => hP.guar _ _ _ (AdapterAct.idle s)) (fun _ _ h => h) ?_
  intro s q s' _ hR hf _
  simp only at hf
  split at hf
  · rename_i hfree
    split at hf
    · rename_i lock hlock
      obtain ⟨howner, havail⟩ := acquire_lock_some hlock
      simp only [Option.some.injEq, Prod.mk.injEq] at hf
      obtain ⟨rfl, rfl⟩ := hf
      refine ⟨hP.guar _ _ _ (AdapterAct.writeLock s r _ hfree (LockWrite.acquire lock
        (not_dispatching_at hl hR) ?_)), hR, ?_⟩
      · rw [howner]
        exact havail
      · intro _
        refine ⟨lock, (s.locks r).own ⟨p, 0⟩, ?_, howner⟩
        simp only [Db.setLock, Function.update_self]
        rfl
    · simp only [Option.some.injEq, Prod.mk.injEq] at hf
      obtain ⟨rfl, rfl⟩ := hf
      exact ⟨hP.guar _ _ _ (AdapterAct.lock s r hfree), hR, fun hne => absurd rfl hne⟩
  · simp at hf

/-- The lock, once the resource is not in quarantine. -/
theorem upsertedLock_triple {l : List Event} (hl : ∀ r w, ¬ Dispatching p r w l) (actor : String)
    (r : Nat) (duration : Int) :
    P.Triple p (At p l)
        (do
          checkSafety ⟨p, 0⟩ r none
          let token ← uuid4 p
          let result ← upsertLock ⟨p, 0⟩ actor r token duration
          match result with
          | some token => pure token
          | none =>
              let lock ← getLock ⟨p, 0⟩ r
              check (ResourceLock.checkSafety r lock)
              let owner := (lock.map ResourceLock.owner).getD "unknown"
              throw ⟨.resourceLockedError,
                s!"Resource {r} is currently locked by another worker ({owner})"⟩ : Prog Nat)
        (fun _ s => At p l s ∧ Owns p r actor s) (fun _ => At p l) := by
  have hst := stable_at hP (p := p) l
  have hoff := (offRecords_at (p := p) l).onTables
  refine Triple.bind (checkSafety_keeps hP hst _ _ _) (fun _ => ?_)
  refine Triple.bind (uuid4_keeps hP hst hoff) (fun token => ?_)
  refine Triple.bind (upsertLock_triple hP hl actor r token duration) (fun result => ?_)
  cases result with
  | some token => exact triple_pure token (fun s _ h => ⟨h.1, h.2 (by simp)⟩)
  | none =>
      refine Triple.pre ?_ (fun s _ h => h.1)
      refine Triple.bind (select_keeps hP hst) (fun lock => Triple.bind check_keeps (fun _ => ?_))
      exact triple_throw _ (fun _ _ h => h)

/-- `acquire_lock`, by a call that is not dispatching yet. -/
theorem acquireLock_triple {l : List Event} (hl : ∀ r w, ¬ Dispatching p r w l) (actor : String)
    (r : Nat) (duration : Int) :
    P.Triple p (At p l) (acquireLock ⟨p, 0⟩ actor r duration)
      (fun _ s => At p l s ∧ Owns p r actor s) (fun _ => At p l) := by
  have hrest := upsertedLock_triple hP hl actor r duration
  unfold acquireLock
  by_cases hd : duration < 1 ∨ 3600 < duration
  · simp only [if_pos hd]
    exact triple_throw_bind (fun _ _ h => h)
  · simp only [if_neg hd]
    exact hrest

section Unlock

variable {l : List Event} {r : Nat} {w : String} (hl : Dispatching p r w l) {R : Db → Prop}
  (hst : P.Stable p R) (hat : ∀ s, R s → At p l s) (hoff : OffLocks R)

include hl hst hat hoff

/-- A call that dispatches on a resource does with its lock what it likes. -/
theorem settle_keeps {f : Db → Option (Except Err Unit × Db)}
    (hf : ∀ s q s', f s = some (q, s') → s' = s ∨ ((s.locks r).free ⟨p, 0⟩ = true ∧
      ∃ v, s' = s.setLock r ((s.locks r).write ⟨p, 0⟩ v))) :
    P.Triple p R (sql f) (fun _ => R) (fun _ => R) := by
  refine triple_sql hst (fun s _ _ => hP.guar _ _ _ (AdapterAct.idle s)) (fun _ _ h => h) ?_
  intro s q s' _ hR hstep _
  have hin : Dispatching p r w s.log := by
    rw [dispatching_iff_mine, show mine p s.log = l from hat s hR]
    exact hl
  rcases hf s q s' hstep with rfl | ⟨hfree, v, rfl⟩
  · refine ⟨hP.guar _ _ _ (AdapterAct.idle s'), ?_⟩
    cases q <;> exact hR
  · refine ⟨hP.guar _ _ _ (AdapterAct.writeLock s r v hfree (LockWrite.settle v w hin)), ?_⟩
    have hR' : R (s.setLock r ((s.locks r).write ⟨p, 0⟩ v)) :=
      hoff s _ rfl rfl List.suffix_rfl hR
    cases q <;> exact hR'

/-- A loaded row that is rewritten, or that is gone by then. -/
theorem rewrite_keeps {gone : Except Err Unit} {v : ResourceLock → Option ResourceLock} :
    P.Triple p R
      (sql fun db =>
        match (db.locks r).visible ⟨p, 0⟩ with
        | none => some (gone, db)
        | some row =>
            if (db.locks r).free ⟨p, 0⟩ then
              some (.ok (), db.setLock r ((db.locks r).write ⟨p, 0⟩ (v row)))
            else none)
      (fun _ => R) (fun _ => R) := by
  refine settle_keeps hP hl hst hat hoff ?_
  intro s q s' hstep
  split at hstep
  · simp only [Option.some.injEq, Prod.mk.injEq] at hstep
    exact Or.inl hstep.2.symm
  · split at hstep
    · rename_i hfree
      simp only [Option.some.injEq, Prod.mk.injEq] at hstep
      exact Or.inr ⟨hfree, _, hstep.2.symm⟩
    · simp at hstep

theorem releaseLock_keeps (actor : String) (token : Nat) :
    P.Triple p R (releaseLock ⟨p, 0⟩ actor r token) (fun _ => R) (fun _ => R) := by
  unfold releaseLock
  refine Triple.bind (select_keeps hP hst) (fun found => ?_)
  cases found with
  | none => exact triple_pure _ (fun _ _ h => h)
  | some lock =>
      simp only
      split
      · exact triple_throw _ (fun _ _ h => h)
      · split
        · refine Triple.bind (uuid4_keeps hP hst hoff.onTables) (fun fresh => ?_)
          refine Triple.bind (datetimeNow_keeps hP hst) (fun now => ?_)
          exact rewrite_keeps hP hl hst hat hoff
        · exact rewrite_keeps hP hl hst hat hoff

theorem quarantineResource_keeps (reason : String) :
    P.Triple p R (quarantineResource ⟨p, 0⟩ r reason) (fun _ => R) (fun _ => R) := by
  unfold quarantineResource
  refine Triple.bind (uuid4_keeps hP hst hoff.onTables) (fun token => ?_)
  refine settle_keeps hP hl hst hat hoff ?_
  intro s q s' hstep
  simp only at hstep
  split at hstep
  · rename_i hfree
    simp only [Option.some.injEq, Prod.mk.injEq] at hstep
    exact Or.inr ⟨hfree, _, hstep.2.symm⟩
  · simp at hstep

end Unlock

/-! #### Transactions -/

omit hP in
theorem AdapterAct.started (s : Db) (t : TxId) : AdapterAct p s (s.started t) := by
  refine AdapterAct.quiet rfl rfl rfl rfl ?_ (Looked.refl _)
  intro t'
  by_cases ht : t' = t
  · subst ht
    exact Or.inr (by simp [Db.started])
  · exact Or.inl (by simp [Db.started, Function.update_of_ne ht])

theorem beginTx_keeps {R : Db → Prop} (hst : P.Stable p R) (hoff : OffRecords R) (t : TxId) :
    P.Triple p R (beginTx t) (fun _ => R) (fun _ => R) :=
  triple_beginTx hst (fun s _ _ => hP.guar _ _ _ (AdapterAct.idle s)) (fun _ _ h => h)
    (fun s _ h _ => ⟨hP.guar _ _ _ (AdapterAct.started s t),
      hoff s _ rfl rfl List.suffix_rfl h⟩)

theorem beginTx_at (l : List Event) (t : TxId) :
    P.Triple p (At p l) (beginTx t) (fun _ => At p l) (fun _ => At p l) :=
  beginTx_keeps hP (stable_at hP l) (offRecords_at l) t

theorem rollbackTx_at (l : List Event) {t : TxId} (ht : t.pid = p) :
    P.Triple p (At p l) (rollbackTx t) (fun _ => At p l) (fun _ => At p l) :=
  triple_rollbackTx (stable_at hP l)
    (fun s _ h _ => ⟨hP.guar _ _ _ (AdapterAct.rollback s t ht), h⟩)

/-- The end of a transaction: `hend` is what its commit does, in states of which `M` is known. -/
theorem commitTx_triple {l : List Event} {t : TxId} (ht : t.pid = p) {evs : List Event}
    {M : Db → Prop} {Q : Unit → Db → Prop} (hM : P.Stable p M) (hat : ∀ s, M s → At p l s)
    (hend : ∀ s, P.inv s → M s → AdapterAct p s ((s.commit t).record evs) ∧
      Q () ((s.commit t).record evs)) :
    P.Triple p M (commitTx t evs) Q (fun _ => At p l) :=
  triple_commitTx hM
    (fun s _ h _ => ⟨hP.guar _ _ _ (AdapterAct.rollback s t ht), hat s h⟩)
    (fun s hinv h _ => ⟨hP.guar _ _ _ (hend s hinv h).1, (hend s hinv h).2⟩)

/-! #### The phases of a call -/

section Phases

variable (i j : ExecutionIntent) (w : String)

/-- The events of a call that has come this far. -/
abbrev calledTrail (p : Nat) : List Event := [.called p i]

abbrev acquiredTrail (p : Nat) : List Event := .acquired p j w :: calledTrail i p

abbrev issuedTrail (p : Nat) : List Event := .restartIssued p j :: acquiredTrail i j w p

abbrev endedTrail (p : Nat) : List Event := .restartEnded p j :: issuedTrail i j w p

omit hP in
theorem not_dispatching_called (r : Nat) (v : String) : ¬ Dispatching p r v (calledTrail i p) := by
  intro h
  obtain ⟨⟨intent, hmem, -⟩, -⟩ := h
  simp at hmem

omit hP in
theorem dispatching_ended : Dispatching p j.resourceId w (endedTrail i j w p) := by
  refine ⟨⟨j, by simp, rfl⟩, ?_, by simp⟩
  intro intent
  simp

/-- Moving on to the next phase. -/
theorem observe_at {l : List Event} {e : Event} {S : List DockerEvent → Prop}
    {X : Err → Db → Prop} (hS : ∀ l l' : List DockerEvent, l <:+ l' → S l → S l')
    (hproc : e.proc = p) (hacq : e.isAcquired = false) (hnext : Trail p (e :: l)) :
    P.Triple p (fun s => At p l s ∧ S s.docker) (observe [e])
      (fun _ s => At p (e :: l) s ∧ S s.docker) X := by
  refine triple_observe ((stable_at hP l).and (stable_seen hP hS)) ?_
  intro s _ hR _
  refine ⟨hP.guar _ _ _ (AdapterAct.event s e s.docker hproc hacq ?_ (Looked.refl _)),
    hR.1.cons rfl hproc, hR.2⟩
  rw [show mine p s.log = l from hR.1]
  exact hnext

omit hP in
/-- Whatever has been seen. -/
theorem seen_any : ∀ l l' : List DockerEvent, l <:+ l' → True → True := fun _ _ _ h => h

omit hP in
theorem seen_mem (e : DockerEvent) : ∀ l l' : List DockerEvent, l <:+ l' → e ∈ l → e ∈ l' :=
  fun _ _ hs h => hs.mem h

/-- The Docker call: nothing is raised here, and a call that returns normally is seen to. -/
theorem restartContainer_triple (time : Int) {X : Err → Db → Prop} :
    P.Triple p (fun s => At p (acquiredTrail i j w p) s ∧ .dispatched p j time ∈ s.docker)
      (restartContainer p j)
      (fun answer s => (At p (endedTrail i j w p) s ∧ .dispatched p j time ∈ s.docker) ∧
        (answer = .ok () → .restarted p j ∈ s.docker)) X := by
  unfold restartContainer
  refine Triple.bind (observe_at hP (seen_mem _) rfl rfl (Trail.issued i j w)) (fun _ => ?_)
  unfold endRestart
  refine triple_stmt ((stable_at hP _).and (stable_seen hP (seen_mem _))) ?_
  intro s world r s' _ hR hf _
  have hmine : mine p s.log = issuedTrail i j w p := hR.1
  have hnext : Trail p (.restartEnded p j :: mine p s.log) := by
    rw [hmine]
    exact Trail.ended i j w
  have hraised : ∀ e : Err, some (Except.ok (Except.error e), s.record [.restartEnded p j]) =
      some (r, s') → P.guar p s s' ∧ post (fun answer s =>
        (At p (endedTrail i j w p) s ∧ .dispatched p j time ∈ s.docker) ∧
        (answer = .ok () → .restarted p j ∈ s.docker)) X r s' := by
    intro e hf
    simp only [Option.some.injEq, Prod.mk.injEq] at hf
    obtain ⟨rfl, rfl⟩ := hf
    refine ⟨hP.guar _ _ _ (AdapterAct.event s _ s.docker rfl rfl hnext (Looked.refl _)),
      ⟨hR.1.cons rfl rfl, hR.2⟩, fun hno => by simp at hno⟩
  simp only at hf
  split at hf
  · split at hf
    · exact hraised _ hf
    · exact hraised _ hf
    · simp only [Option.some.injEq, Prod.mk.injEq] at hf
      obtain ⟨rfl, rfl⟩ := hf
      exact ⟨hP.guar _ _ _ (AdapterAct.event s _ (.restarted p j :: s.docker) rfl rfl hnext
        (Or.inr ⟨_, rfl, rfl⟩)),
        ⟨hR.1.cons rfl rfl, List.mem_cons_of_mem _ hR.2⟩, fun _ => List.mem_cons_self⟩
  · exact hraised _ hf

/-- The transaction that ends a dispatch: committed, the call is over and its record is there for
all to see; else it stands where it stood. -/
theorem endDispatch_triple (ad : DockerExecutionAdapter) (id version : Nat)
    (status : ExecutionStatus) (result : ExecutionResult) (reason : Option String)
    {unlock : Prog Unit}
    (hunlock : ∀ R : Db → Prop, P.Stable p R → (∀ s, R s → At p (endedTrail i j w p) s) →
      OffLocks R → P.Triple p R unlock (fun _ => R) (fun _ => R)) :
    P.Triple p (fun s => At p (endedTrail i j w p) s ∧
        (status = .succeeded → Proven j.idempotencyKey s.docker))
      (endDispatch p ad j id version status result reason unlock)
      (fun _ s => ∃ row, some row ∈ (s.executions j.idempotencyKey).versions ∧
        row.status = status ∧ row.id = id ∧ row.result = result)
      (fun _ => At p (endedTrail i j w p)) := by
  have hproven : ∀ l l' : List DockerEvent, l <:+ l' →
      (status = .succeeded → Proven j.idempotencyKey l) →
      (status = .succeeded → Proven j.idempotencyKey l') :=
    fun _ _ hs h hstatus => (h hstatus).suffix hs
  unfold endDispatch
  refine triple_unitOfWork
    (B := fun s => At p (endedTrail i j w p) s ∧
      (status = .succeeded → Proven j.idempotencyKey s.docker))
    (F := At p (endedTrail i j w p)) (G := At p (endedTrail i j w p))
    (M := fun _ s => At p (endedTrail i j w p) s ∧ ∃ row,
      Wrote p j.idempotencyKey row s ∧ row.status = status ∧ row.id = id ∧ row.result = result)
    ?_ ?_ (fun _ => ?_) (rollbackTx_at hP _ rfl) (fun _ _ h => h.1)
  · exact triple_beginTx ((stable_at hP _).and (stable_seen hP hproven))
      (fun s _ _ => hP.guar _ _ _ (AdapterAct.idle s)) (fun _ _ h => h.1)
      (fun s _ h _ => ⟨hP.guar _ _ _ (AdapterAct.started s _), h⟩)
  · refine Triple.bind ((finishExecution_triple hP
      ((stable_at hP _).and (stable_seen hP hproven))
      ((offRecords_at _).and (offRecords_seen hproven)) (t := ⟨p, 0⟩) rfl _ _ _ _ _ _ ?_).conseq
      (fun _ _ h => h) (fun _ _ _ h => h) (fun _ _ _ h => h.1)) (fun row => ?_)
    · intro hstatus s hR
      exact Or.inr (hR.2 hstatus)
    · refine (hunlock (fun s => At p (endedTrail i j w p) s ∧ ∃ row,
        Wrote p j.idempotencyKey row s ∧ row.status = status ∧ row.id = id ∧ row.result = result)
        ((stable_at hP _).and
          (Stable.exists fun row => (stable_wrote hP _ row).and (stable_const _)))
        (fun _ h => h.1) ?_).conseq (fun s _ h => ⟨h.1.1, row, h.2⟩) (fun _ _ _ h => h)
        (fun _ _ _ h => h.1)
      intro s s' hlog hexec _ h
      unfold At Wrote at h ⊢
      rw [hlog, hexec]
      exact h
  · refine commitTx_triple hP (t := (⟨p, 0⟩ : TxId)) rfl ((stable_at hP _).and
      (Stable.exists fun row => (stable_wrote hP _ row).and (stable_const _))) (fun _ h => h.1) ?_
    intro s _ hR
    obtain ⟨hat, row, hrow, hfacts⟩ := hR
    have hmine : mine p s.log = endedTrail i j w p := hat
    refine ⟨AdapterAct.finish s j ?_, row, ?_, hfacts⟩
    · rw [hmine]
      exact Trail.returned i j w
    · show some row ∈ ((s.executions j.idempotencyKey).commit ⟨p, 0⟩).versions
      rw [Cell.commit_versions]
      exact List.mem_append_left _ hrow

/-- What `execute` returns is what the record of its key says, and everybody can read it. -/
def OnRecord (k : String) (outcome : ExecutionOutcome) (s : Db) : Prop :=
  ∃ row, some row ∈ (s.executions k).versions ∧ outcome.Tells row

theorem stable_onRecord (k : String) (outcome : ExecutionOutcome) :
    P.Stable p (OnRecord k outcome) := by
  intro s s' hinv h hother
  obtain ⟨row, hrow, htells⟩ := h
  exact ⟨row, ((hP.others p s s' hinv hother).exec k).versions_suffix.mem hrow, htells⟩

/-- From the leave to dispatch to the end of the call. -/
theorem dispatch_triple (ad : DockerExecutionAdapter) {pre : ContainerSnapshot}
    (hpre : j.preState = some pre) (token id version : Nat) :
    P.Triple p (At p (acquiredTrail i j w p)) (dispatch p ad j pre token id version)
      (fun outcome => OnRecord j.idempotencyKey outcome) (fun _ => At p (endedTrail i j w p)) := by
  have hdisp := dispatching_ended (p := p) i j w
  have hend : ∀ (status : ExecutionStatus) (result : ExecutionResult) (reason : Option String)
      {unlock : Prog Unit} (outcome : ExecutionOutcome),
      (∀ row : Execution, row.status = status → row.id = id → row.result = result →
        outcome.Tells row) →
      (∀ R : Db → Prop, P.Stable p R → (∀ s, R s → At p (endedTrail i j w p) s) →
        OffLocks R → P.Triple p R unlock (fun _ => R) (fun _ => R)) →
      P.Triple p (fun s => At p (endedTrail i j w p) s ∧
          (status = .succeeded → Proven j.idempotencyKey s.docker))
        (do
          endDispatch p ad j id version status result reason unlock
          pure outcome)
        (fun outcome => OnRecord j.idempotencyKey outcome)
        (fun _ => At p (endedTrail i j w p)) := by
    intro status result reason unlock outcome htells hunlock
    refine Triple.bind (endDispatch_triple hP i j w ad id version status result reason hunlock)
      (fun _ => triple_pure _ (fun s _ h => ?_))
    obtain ⟨row, hrow, hstatus, hid, hresult⟩ := h
    exact ⟨row, hrow, htells row hstatus hid hresult⟩
  have hrelease := fun (R : Db → Prop) (hst : P.Stable p R) hat (hoff : OffLocks R) =>
    releaseLock_keeps hP hdisp hst hat hoff ad.actor token
  unfold dispatch
  have hnow : P.Triple p (At p (acquiredTrail i j w p)) (dispatchNow p j)
      (fun time s => At p (acquiredTrail i j w p) s ∧ .dispatched p j time ∈ s.docker)
      (fun _ => At p (endedTrail i j w p)) := by
    refine triple_stmt (stable_at hP _) ?_
    intro s world r s' _ hR hf _
    simp only [Option.some.injEq, Prod.mk.injEq] at hf
    obtain ⟨rfl, rfl⟩ := hf
    exact ⟨hP.guar _ _ _ (AdapterAct.noted s rfl), hR, List.mem_cons_self⟩
  refine hnow.bind (fun time => (restartContainer_triple hP i j w time).bind (fun answer => ?_))
  unfold concludeDispatch
  cases answer with
  | ok u =>
      refine Triple.bind ((takeSnapshot_keeps hP
        (R := fun s => At p (endedTrail i j w p) s ∧ .restarted p j ∈ s.docker)
        ((stable_at hP _).and (stable_seen hP (seen_mem _)))
        ((offRecords_at _).and (offRecords_seen (seen_mem _))).onTables _ _).conseq
        (fun s _ h => ⟨h.1.1, h.2 rfl⟩) (fun _ _ _ h => h) (fun _ _ _ h => h.1)) (fun post => ?_)
      refine (hend _ _ _ _ ?_ hrelease).pre
        (fun s _ h => ⟨h.1, fun _ => Proven.returned p j rfl h.2⟩)
      intro row hstatus hid _
      exact ⟨by rw [hid], Or.inl ⟨hstatus, rfl⟩⟩
  | error e =>
      simp only
      split
      · refine (hend _ _ _ _ ?_ hrelease).pre (fun s _ h => ⟨h.1.1, fun hno => by simp at hno⟩)
        intro row hstatus hid _
        exact ⟨by rw [hid], Or.inr ⟨hstatus, Or.inl rfl⟩⟩
      · refine Triple.bind ((reconcile_triple hP
          (R := fun s => At p (endedTrail i j w p) s ∧ .dispatched p j time ∈ s.docker)
          ((stable_at hP _).and (stable_seen hP (seen_mem _)))
          ((offRecords_at _).and (offRecords_seen (seen_mem _))).onTables hpre
          (fun s h => h.2)).conseq (fun s _ h => h.1) (fun _ _ _ h => h) (fun _ _ _ h => h.1))
          (fun recon => ?_)
        split
        · rename_i hsuccess
          refine (hend _ _ _ _ ?_ hrelease).pre (fun s _ h => ⟨h.1.1, fun _ => h.2 hsuccess⟩)
          intro row hstatus hid _
          exact ⟨by rw [hid], Or.inl ⟨hstatus, rfl⟩⟩
        · refine (hend _ _ _ _ ?_ (fun R hst hat hoff =>
            quarantineResource_keeps hP hdisp hst hat hoff _)).pre
            (fun s _ h => ⟨h.1.1, fun hno => by simp at hno⟩)
          intro row hstatus hid hresult
          refine ⟨by rw [hid], Or.inr ⟨hstatus, Or.inr ⟨rfl, ?_⟩⟩⟩
          intro text htext
          rw [hresult] at htext
          cases htext

/-- What a call is about to return is what a record says that it has seen. -/
def SawOutcome (t : TxId) (k : String) (outcome : ExecutionOutcome) (s : Db) : Prop :=
  ∃ row, SawExecution t k row s ∧ outcome.Tells row

theorem stable_sawOutcome {t : TxId} (ht : t.pid = p) (k : String) (outcome : ExecutionOutcome) :
    P.Stable p (SawOutcome t k outcome) :=
  Stable.exists fun row => (stable_sawExecution hP ht k row).and (stable_const _)

omit hP in
/-- The transaction that has seen the record commits. -/
theorem SawOutcome.onRecord {t : TxId} {k : String} {outcome : ExecutionOutcome} {s : Db}
    (h : SawOutcome t k outcome s) (evs : List Event) :
    OnRecord k outcome ((s.commit t).record evs) := by
  obtain ⟨row, hrow, htells⟩ := h
  refine ⟨row, ?_, htells⟩
  show some row ∈ ((s.executions k).commit t).versions
  rw [Cell.commit_versions]
  exact hrow

omit hP in
theorem OnRecord.sawOutcome {t : TxId} {k : String} {outcome : ExecutionOutcome} {s : Db}
    (h : OnRecord k outcome s) : SawOutcome t k outcome s := by
  obtain ⟨row, hrow, htells⟩ := h
  exact ⟨row, List.mem_append_right _ hrow, htells⟩

omit hP in
/-- A finished record, as it is told. -/
theorem tells_reused {row : Execution} (h : row.status = .succeeded ∨ row.status = .failed) :
    (reusedOutcome j row).Tells row := by
  refine ⟨rfl, ?_⟩
  rcases h with h | h
  · exact Or.inl ⟨h, by simp [reusedOutcome, h]⟩
  · exact Or.inr ⟨h, Or.inl (by simp [reusedOutcome, h])⟩

omit hP in
/-- A record that a crash has left behind, as it is told. -/
theorem tells_crashed {existing row : Execution} {post : ContainerSnapshot}
    (hstatus : row.status = if post.status = "running" then .succeeded else .failed)
    (hid : row.id = existing.id) (hresult : row.result = .snapshot post) :
    (crashedOutcome j existing post).Tells row := by
  refine ⟨by rw [hid]; rfl, ?_⟩
  by_cases hrunning : post.status = "running"
  · rw [if_pos hrunning] at hstatus
    exact Or.inl ⟨hstatus, by simp [crashedOutcome, hrunning]⟩
  · rw [if_neg hrunning] at hstatus
    refine Or.inr ⟨hstatus, Or.inr ⟨by simp [crashedOutcome, hrunning], ?_⟩⟩
    intro text htext
    rw [hresult] at htext
    cases htext

/-- Finishing a record that a crash has left behind. -/
theorem finishCrashed_triple {R : Db → Prop} (hst : P.Stable p R) (hoff : OffRecords R)
    {t : TxId} (ht : t.pid = p) (existing : Execution) (post : ContainerSnapshot)
    (hfound : ∀ s, R s → post.status = "running" → FoundRunning j.idempotencyKey s.docker) :
    P.Triple p R (finishCrashed t j existing post)
      (fun _ s => R s ∧ ∃ row, some row ∈ (s.executions j.idempotencyKey).own t ∧
        (crashedOutcome j existing post).Tells row) (fun _ => R) := by
  refine (finishExecution_triple hP hst hoff ht _ _ _ _ _ _ ?_).conseq (fun _ _ h => h) ?_
    (fun _ _ _ h => h)
  · intro hsucceeded s hR
    refine Or.inl (hfound s hR ?_)
    by_contra hdown
    rw [if_neg hdown] at hsucceeded
    cases hsucceeded
  · intro row s _ h
    obtain ⟨hR, hrow, hstatus, hid, hresult⟩ := h
    exact ⟨hR, row, hrow, tells_crashed j hstatus hid hresult⟩

/-- What the lock transaction ends with: an outcome that it has seen, or all that a dispatch
needs. -/
def ClaimStands (ad : DockerExecutionAdapter) (claim : Claim) (s : Db) : Prop :=
  match claim with
  | .settled outcome => SawOutcome ⟨p, 0⟩ j.idempotencyKey outcome s
  | .dispatch _ _ _ => Owns p j.resourceId ad.actor s ∧
      ∃ row, Wrote p j.idempotencyKey row s ∧ row.status = .running

theorem claimExecution_triple (ad : DockerExecutionAdapter) :
    P.Triple p (At p (calledTrail i p)) (claimExecution p ad j)
      (fun claim s => At p (calledTrail i p) s ∧ ClaimStands (p := p) j ad claim s)
      (fun _ => At p (calledTrail i p)) := by
  have hst := (stable_at hP (p := p) (calledTrail i p)).and
    (stable_owns hP (p := p) j.resourceId ad.actor)
  have hoff := (offRecords_at (p := p) (calledTrail i p)).and
    (offRecords_owns (p := p) j.resourceId ad.actor)
  unfold claimExecution
  refine Triple.bind (acquireLock_triple hP (not_dispatching_called i) ad.actor j.resourceId 120)
    (fun token => ?_)
  refine Triple.bind ((recordExecution_triple hP hst hoff ad.actor j (some token)).conseq
    (fun _ _ h => h) (fun _ _ _ h => h) (fun _ _ _ h => h.1)) (fun record => ?_)
  have hreused : (record.status = .succeeded ∨ record.status = .failed) → P.Triple p
      (fun s => (At p (calledTrail i p) s ∧ Owns p j.resourceId ad.actor s) ∧
        SawExecution ⟨p, 0⟩ j.idempotencyKey record s)
      (pure (.settled (reusedOutcome j record)) : Prog Claim)
      (fun claim s => At p (calledTrail i p) s ∧ ClaimStands (p := p) j ad claim s)
      (fun _ => At p (calledTrail i p)) :=
    fun hstatus => triple_pure _ (fun s _ h => ⟨h.1.1, record, h.2, tells_reused j hstatus⟩)
  have hdispatch : P.Triple p
      (fun s => (At p (calledTrail i p) s ∧ Owns p j.resourceId ad.actor s) ∧
        SawExecution ⟨p, 0⟩ j.idempotencyKey record s)
      (do
        let running ← finishExecution ⟨p, 0⟩ j.idempotencyKey record.id record.version .running
          (.dispatchIntent j)
        pure (.dispatch token record.id running.version) : Prog Claim)
      (fun claim s => At p (calledTrail i p) s ∧ ClaimStands (p := p) j ad claim s)
      (fun _ => At p (calledTrail i p)) := by
    refine Triple.bind ((finishExecution_triple hP hst hoff (t := ⟨p, 0⟩) rfl _ _ _ _ _ _
      (fun hno => by simp at hno)).conseq (fun _ _ h => h.1) (fun _ _ _ h => h)
      (fun _ _ _ h => h.1)) (fun running => ?_)
    exact triple_pure _ (fun s _ h => ⟨h.1.1, h.1.2, running, h.2.1, h.2.2.1⟩)
  cases hstatus : record.status with
  | succeeded => exact hreused (Or.inl hstatus)
  | failed => exact hreused (Or.inr hstatus)
  | running =>
      refine Triple.bind ((takeSnapshot_found hP hst hoff.onTables _ _).conseq (fun _ _ h => h.1)
        (fun _ _ _ h => h) (fun _ _ _ h => h.1)) (fun post => ?_)
      refine Triple.bind ((finishCrashed_triple hP j (hst.and (stable_found hP _ post))
        (hoff.and (offRecords_found _ post)) (t := ⟨p, 0⟩) rfl record post (fun _ h => h.2)).conseq
        (fun _ _ h => h) (fun _ _ _ h => h) (fun _ _ _ h => h.1.1)) (fun _ => ?_)
      refine triple_pure _ (fun s _ h => ⟨h.1.1.1, ?_⟩)
      obtain ⟨-, row, hrow, htells⟩ := h
      exact ⟨row, List.mem_append_left _ hrow, htells⟩
  | pending => exact hdispatch
  | rolledback => exact hdispatch

/-- Where the lock transaction leaves the call. -/
theorem claimed_triple (ad : DockerExecutionAdapter) :
    P.Triple p (At p (calledTrail i p))
      (unitOfWork ⟨p, 0⟩ ad.actor (claimExecution p ad j) (Claim.seen p ad j))
      (fun claim s => match claim with
        | .settled outcome => OnRecord j.idempotencyKey outcome s
        | .dispatch _ _ _ => At p (acquiredTrail i j ad.actor p) s)
      (fun _ => At p (calledTrail i p)) := by
  refine triple_unitOfWork (B := At p (calledTrail i p)) (F := At p (calledTrail i p))
    (G := At p (calledTrail i p)) (beginTx_at hP _ _) (claimExecution_triple hP i j ad)
    (fun claim => ?_) (rollbackTx_at hP _ rfl) (fun _ _ h => h)
  cases claim with
  | settled outcome =>
      refine commitTx_triple hP (t := (⟨p, 0⟩ : TxId)) rfl
        ((stable_at hP _).and (stable_sawOutcome hP
          (t := (⟨p, 0⟩ : TxId)) rfl j.idempotencyKey outcome))
        (fun _ h => h.1) ?_
      intro s _ hR
      exact ⟨AdapterAct.commit s ⟨p, 0⟩ rfl
        (not_dispatching_at (not_dispatching_called i) hR.1), hR.2.onRecord []⟩
  | dispatch token id version =>
      have hM : P.Stable p (fun s => At p (calledTrail i p) s ∧ Owns p j.resourceId ad.actor s ∧
          ∃ row, Wrote p j.idempotencyKey row s ∧ row.status = .running) :=
        (stable_at hP _).and ((stable_owns hP _ _).and
          (Stable.exists fun row => (stable_wrote hP _ row).and (stable_const _)))
      refine (commitTx_triple hP (t := (⟨p, 0⟩ : TxId)) rfl hM (fun _ h => h.1) ?_)
      intro s _ hR
      obtain ⟨hat, ⟨l, rest, hlock, howner⟩, row, hrow, hrunning⟩ := hR
      have hmine : mine p s.log = calledTrail i p := hat
      refine ⟨AdapterAct.acquire s j ad.actor l rest row ?_ hlock howner hrow hrunning, ?_⟩
      · rw [hmine]
        exact Trail.acquired i j ad.actor
      · exact hat.cons rfl rfl

/-- The part of `execute` under the dispatch lock. -/
theorem executeLocked_triple (ad : DockerExecutionAdapter) {pre : ContainerSnapshot}
    (hpre : j.preState = some pre) :
    P.Triple p (At p (calledTrail i p)) (executeLocked p ad j pre)
      (fun outcome => OnRecord j.idempotencyKey outcome) (fun _ _ => True) := by
  unfold executeLocked
  refine ((claimed_triple hP i j ad).conseq (fun _ _ h => h) (fun _ _ _ h => h)
    (fun _ _ _ _ => trivial)).bind (fun claim => ?_)
  cases claim with
  | settled outcome => exact triple_pure _ (fun _ _ h => h)
  | dispatch token id version =>
      refine Triple.handle (M := fun _ => At p (endedTrail i j ad.actor p))
        (dispatch_triple hP i j ad.actor ad hpre token id version) (fun e => ?_)
      have hret := observe_at hP (p := p) (X := fun _ _ => True) seen_any rfl rfl
        (Trail.returned i j ad.actor)
      exact Triple.bind (hret.pre (fun _ _ h => ⟨h, trivial⟩))
        (fun _ => triple_throw e (fun _ _ _ => trivial))

theorem earlyCheck_triple (ad : DockerExecutionAdapter) :
    P.Triple p (At p (calledTrail i p)) (earlyCheck p ad j)
      (fun early s => At p (calledTrail i p) s ∧
        ∀ outcome, early = some outcome → SawOutcome ⟨p, 0⟩ j.idempotencyKey outcome s)
      (fun _ => At p (calledTrail i p)) := by
  have hst := stable_at hP (p := p) (calledTrail i p)
  have hoff := offRecords_at (p := p) (calledTrail i p)
  have hnone : P.Triple p (At p (calledTrail i p)) (pure none : Prog (Option ExecutionOutcome))
      (fun early s => At p (calledTrail i p) s ∧
        ∀ outcome, early = some outcome → SawOutcome ⟨p, 0⟩ j.idempotencyKey outcome s)
      (fun _ => At p (calledTrail i p)) :=
    triple_pure _ (fun _ _ h => ⟨h, fun _ hno => by simp at hno⟩)
  unfold earlyCheck
  have hread : P.Triple p (At p (calledTrail i p)) (getExecution ⟨p, 0⟩ j.idempotencyKey)
      (fun found s => At p (calledTrail i p) s ∧ ∀ row, found = some row →
        SawExecution ⟨p, 0⟩ j.idempotencyKey row s) (fun _ => At p (calledTrail i p)) :=
    triple_select hst (fun s _ _ => hP.guar _ _ _ (AdapterAct.idle s)) (fun _ _ h => h)
      (fun s _ h => ⟨h, fun row hrow => Cell.visible_mem hrow⟩)
  refine hread.bind (fun found => ?_)
  cases found with
  | none => exact hnone.pre (fun _ _ h => h.1)
  | some existing =>
      have hreused : (existing.status = .succeeded ∨ existing.status = .failed) → P.Triple p
          (fun s => At p (calledTrail i p) s ∧ ∀ row, some existing = some row →
            SawExecution ⟨p, 0⟩ j.idempotencyKey row s)
          (pure (some (reusedOutcome j existing)) : Prog (Option ExecutionOutcome))
          (fun early s => At p (calledTrail i p) s ∧
            ∀ outcome, early = some outcome → SawOutcome ⟨p, 0⟩ j.idempotencyKey outcome s)
          (fun _ => At p (calledTrail i p)) := by
        intro hstatus
        refine triple_pure _ (fun s _ h => ⟨h.1, fun outcome hout => ?_⟩)
        simp only [Option.some.injEq] at hout
        rw [← hout]
        exact ⟨existing, h.2 existing rfl, tells_reused j hstatus⟩
      simp only
      split
      · cases hstatus : existing.status with
        | succeeded => exact hreused (Or.inl hstatus)
        | failed => exact hreused (Or.inr hstatus)
        | pending => exact hnone.pre (fun _ _ h => h.1)
        | rolledback => exact hnone.pre (fun _ _ h => h.1)
        | running =>
            refine Triple.bind ((takeSnapshot_found hP hst hoff.onTables _ _).pre
              (fun _ _ h => h.1)) (fun post => ?_)
            have hfound := hst.and (stable_found hP j.idempotencyKey post)
            have hkept := hoff.and (offRecords_found j.idempotencyKey post)
            have hfinish : P.Triple p (fun s => At p (calledTrail i p) s ∧
                (post.status = "running" → FoundRunning j.idempotencyKey s.docker))
                (finishCrashed ⟨p, 1⟩ j existing post)
                (fun _ s => At p (calledTrail i p) s ∧
                  ∃ row, some row ∈ (s.executions j.idempotencyKey).own ⟨p, 1⟩ ∧
                    (crashedOutcome j existing post).Tells row)
                (fun _ => At p (calledTrail i p)) :=
              (finishCrashed_triple hP j hfound hkept rfl existing post (fun _ h => h.2)).conseq
                (fun _ _ h => h) (fun _ _ _ h => ⟨h.1.1, h.2⟩) (fun _ _ _ h => h.1)
            have hnested : P.Triple p (fun s => At p (calledTrail i p) s ∧
                (post.status = "running" → FoundRunning j.idempotencyKey s.docker))
                (unitOfWork ⟨p, 1⟩ ad.actor (finishCrashed ⟨p, 1⟩ j existing post))
                (fun _ s => At p (calledTrail i p) s ∧
                  OnRecord j.idempotencyKey (crashedOutcome j existing post) s)
                (fun _ => At p (calledTrail i p)) := by
              refine triple_unitOfWork (F := At p (calledTrail i p))
                (G := At p (calledTrail i p)) ((beginTx_keeps hP hfound hkept _).conseq
                  (fun _ _ h => h) (fun _ _ _ h => h) (fun _ _ _ h => h.1)) hfinish
                (fun _ => ?_) (rollbackTx_at hP _ rfl) (fun _ _ h => h.1)
              refine (commitTx_triple hP (t := (⟨p, 1⟩ : TxId)) (M := fun s =>
                At p (calledTrail i p) s ∧ SawOutcome ⟨p, 1⟩ j.idempotencyKey
                  (crashedOutcome j existing post) s) rfl
                (hst.and (stable_sawOutcome hP rfl _ _)) (fun _ h => h.1) ?_).pre ?_
              · intro s _ hR
                exact ⟨AdapterAct.commit s ⟨p, 1⟩ rfl
                  (not_dispatching_at (not_dispatching_called i) hR.1), hR.1, hR.2.onRecord []⟩
              · intro s _ h
                obtain ⟨hat, row, hrow, htells⟩ := h
                exact ⟨hat, row, List.mem_append_left _ hrow, htells⟩
            refine hnested.bind
              (fun _ => triple_pure _ (fun s _ h => ⟨h.1, fun outcome hout => ?_⟩))
            simp only [Option.some.injEq] at hout
            rw [← hout]
            exact h.2.sawOutcome
      · exact triple_throw _ (fun _ _ h => h.1)

/-- The early look, in its transaction. -/
theorem early_triple (ad : DockerExecutionAdapter) :
    P.Triple p (At p (calledTrail i p)) (unitOfWork ⟨p, 0⟩ ad.actor (earlyCheck p ad j))
      (fun early s => At p (calledTrail i p) s ∧
        ∀ outcome, early = some outcome → OnRecord j.idempotencyKey outcome s)
      (fun _ => At p (calledTrail i p)) := by
  refine triple_unitOfWork (B := At p (calledTrail i p)) (F := At p (calledTrail i p))
    (G := At p (calledTrail i p)) (beginTx_at hP _ _) (earlyCheck_triple hP i j ad)
    (fun early => ?_) (rollbackTx_at hP _ rfl) (fun _ _ h => h)
  have hM : P.Stable p (fun s => At p (calledTrail i p) s ∧
      ∀ outcome, early = some outcome → SawOutcome ⟨p, 0⟩ j.idempotencyKey outcome s) := by
    refine (stable_at hP _).and ?_
    intro s s' hinv h hother outcome hout
    exact stable_sawOutcome hP (t := (⟨p, 0⟩ : TxId)) rfl _ outcome s s' hinv
      (h outcome hout) hother
  refine commitTx_triple hP (t := (⟨p, 0⟩ : TxId)) rfl hM (fun _ h => h.1) ?_
  intro s _ hR
  exact ⟨AdapterAct.commit s ⟨p, 0⟩ rfl (not_dispatching_at (not_dispatching_called i) hR.1),
    hR.1, fun outcome hout => (hR.2 outcome hout).onRecord []⟩

/-- The lock of the process: taking it and leaving it is nothing that the tables show. -/
theorem dispatchLock_triple {R : Db → Prop} {X : Db → Prop} (ad : DockerExecutionAdapter)
    (c : String) (q : Option Nat) {f : World → Db → Option (Except Err Unit × Db)}
    (hR : P.Stable p R) (hloc : OnTables R)
    (hf : ∀ world s r s', f world s = some (r, s') →
      r = .ok () ∧ s' = s.setDispatchLock ad.instanceId c q) :
    P.Triple p R (Interleaving.Prog.stmt f) (fun _ => R) (fun _ => X) := by
  refine triple_stmt hR ?_
  intro s world r s' _ h hstep _
  obtain ⟨rfl, rfl⟩ := hf world s r s' hstep
  exact ⟨hP.guar _ _ _ (AdapterAct.quiet rfl rfl rfl rfl (fun _ => Or.inl rfl) (Looked.refl _)),
    hloc s _ rfl rfl List.suffix_rfl rfl h⟩

theorem leaveDispatch_triple {R : Db → Prop} {X : Db → Prop} (ad : DockerExecutionAdapter)
    (c : String) (hR : P.Stable p R) (hloc : OnTables R) :
    P.Triple p R (leaveDispatch ad c) (fun _ => R) (fun _ => X) := by
  refine dispatchLock_triple hP ad c none hR hloc ?_
  intro world s r s' hstep
  simp only [Option.some.injEq, Prod.mk.injEq] at hstep
  exact ⟨hstep.1.symm, hstep.2.symm⟩

theorem enterDispatch_triple {R : Db → Prop} {X : Db → Prop} (ad : DockerExecutionAdapter)
    (c : String) (hR : P.Stable p R) (hloc : OnTables R) :
    P.Triple p R (enterDispatch p ad c) (fun _ => R) (fun _ => X) := by
  refine dispatchLock_triple hP ad c (some p) hR hloc ?_
  intro world s r s' hstep
  split at hstep
  · simp at hstep
  · simp only [Option.some.injEq, Prod.mk.injEq] at hstep
    exact ⟨hstep.1.symm, hstep.2.symm⟩

/-- **`execute` keeps to `AdapterAct`**, started in a state that has not seen its number, and
returns what the record says. -/
theorem execute_triple (ad : DockerExecutionAdapter) :
    P.Triple p (At p []) (execute p ad j) (fun outcome => OnRecord j.idempotencyKey outcome)
      (fun _ _ => True) := by
  have hst := stable_at hP (p := p) (calledTrail j p)
  have hoff := offRecords_at (p := p) (calledTrail j p)
  unfold execute
  have hcall := observe_at hP (p := p) (X := fun _ _ => True) seen_any rfl rfl (Trail.called j)
  refine Triple.bind (hcall.pre (fun _ _ h => ⟨h, trivial⟩)) (fun _ => ?_)
  refine Triple.bind ((early_triple hP j j ad).conseq (fun _ _ h => h.1) (fun _ _ _ h => h)
    (fun _ _ _ _ => trivial)) (fun early => ?_)
  cases early with
  | some outcome => exact triple_pure _ (fun s _ h => h.2 outcome rfl)
  | none =>
      refine Triple.bind ((takeSnapshot_keeps hP hst hoff.onTables _ _).conseq (fun _ _ h => h.1)
        (fun _ _ _ h => h) (fun _ _ _ _ => trivial)) (fun pre => ?_)
      unfold withDispatchLock
      refine Triple.bind (enterDispatch_triple hP ad _ hst hoff.onTables) (fun _ => ?_)
      refine Triple.bind (Triple.handle (M := fun _ _ => True)
        (executeLocked_triple hP j { j with preState := some pre } ad rfl) (fun e => ?_))
        (fun outcome => ?_)
      · exact (leaveDispatch_triple hP ad _ (stable_const True)
          (fun _ _ _ _ _ _ _ => trivial)).bind (fun _ => triple_throw e (fun _ _ _ => trivial))
      · refine (leaveDispatch_triple hP ad _ (stable_onRecord hP j.idempotencyKey outcome) ?_).bind
          (fun _ => triple_pure _ (fun _ _ h => h))
        intro s s' _ _ _ hexec h
        unfold OnRecord
        rw [hexec]
        exact h

end Phases

end Programs

end SelfHealing
