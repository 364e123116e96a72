/-
What callers are told of a restart.

A call that returns has read its outcome off a finished record, or has finished the record itself,
and a record is finished once.  So all who are told the outcome for a key are told of the same
record.  What they are told of it differs in one case: a record that was finished in doubt says
`FAILED` to everybody but the call that finished it.

A success is a restart that has been made, except where a call finds the record `RUNNING` that
another one has left: it takes a container that is running for one that was restarted.  Whether it
is one depends on how far the other call has come by then.  If Docker has answered its restart, or
if the restart is under way and what is seen of the container shows it, the success is one; if the
other call was stopped before it called Docker, it is not.
-/
import SelfHealing.Proofs.AtMostOnce

namespace SelfHealing

open Interleaving Interleaving.Protocol ReadCommitted

/-! ### One step of a call, seen from one record -/

section Record

variable {p : Nat} {s s' : Db}

/-- A step does not write to the record of a key, or it is a write of the call. -/
theorem AdapterAct.record (h : AdapterAct p s s') (k : String) :
    (∃ t, Cell.Step (fun _ _ => False) t (s.executions k) (s'.executions k)) ∨
      ∃ t v, t.pid = p ∧ (s.executions k).free t = true ∧
        ExecWrite ((s.executions k).visible t) v ∧
        (∀ row, v = some row → row.status = .succeeded → Vouched k s.docker) ∧
        s'.executions k = (s.executions k).write t v := by
  cases h with
  | quiet hexec hlocks hlog hnow htx hdocker =>
      rw [hexec]
      exact Or.inl ⟨⟨p, 0⟩, Cell.Step.same _⟩
  | lock r hfree => exact Or.inl ⟨⟨p, 0⟩, Cell.Step.same _⟩
  | writeLock r v hfree hw => exact Or.inl ⟨⟨p, 0⟩, Cell.Step.same _⟩
  | writeExec t ht k' v hfree hw hwhy =>
      by_cases hk : k = k'
      · subst hk
        simp only [Db.setExecution, Function.update_self]
        exact Or.inr ⟨t, v, ht, hfree, hw, hwhy, rfl⟩
      · simp only [Db.setExecution, Function.update_of_ne hk]
        exact Or.inl ⟨⟨p, 0⟩, Cell.Step.same _⟩
  | rollback t ht => exact Or.inl ⟨t, Cell.Step.rollback _⟩
  | commit t ht hout => exact Or.inl ⟨t, Cell.Step.commit _⟩
  | acquire intent w l rest row hnext hlock howner hrow hrunning =>
      exact Or.inl ⟨⟨p, 0⟩, Cell.Step.commit _⟩
  | finish intent hnext => exact Or.inl ⟨⟨p, 0⟩, Cell.Step.commit _⟩
  | event e docker hproc hacq hnext hdocker => exact Or.inl ⟨⟨p, 0⟩, Cell.Step.same _⟩

theorem AdapterAct.versions_suffix (h : AdapterAct p s s') (k : String) :
    (s.executions k).versions <:+ (s'.executions k).versions := by
  rcases h.record k with ⟨t, hstep⟩ | ⟨t, v, -, -, -, -, heq⟩
  · exact hstep.versions_suffix
  · rw [heq, Cell.write_versions]

/-- What is in a chain was there, or has just been written. -/
theorem AdapterAct.mem_chain (h : AdapterAct p s s') {k : String} {v : Option Execution}
    (hv : v ∈ (s'.executions k).chain) :
    v ∈ (s.executions k).chain ∨
      ∀ row, v = some row → row.status = .succeeded → Vouched k s.docker := by
  rcases h.record k with ⟨t, hstep⟩ | ⟨t, v', ht, hfree, hw, hwhy, heq⟩
  · rcases hstep.mem_chain hv with hold | hnew
    · exact Or.inl hold
    · exact hnew.elim
  · have hstep : Cell.Step (fun _ w => w = v') t (s.executions k) (s'.executions k) := by
      rw [heq]
      exact Cell.Step.write _ v' hfree rfl
    rcases hstep.mem_chain hv with hold | hnew
    · exact Or.inl hold
    · rw [hnew]
      exact Or.inr hwhy

theorem AdapterAct.looked (h : AdapterAct p s s') : Looked s.docker s'.docker := by
  cases h with
  | quiet hexec hlocks hlog hnow htx hdocker => exact hdocker
  | event e docker hproc hacq hnext hdocker => exact hdocker
  | lock r hfree | writeLock r v hfree hw | writeExec t ht k v hfree hw hwhy | rollback t ht
  | commit t ht hout | acquire intent w l rest row hnext hlock howner hrow hrunning
  | finish intent hnext => exact Looked.refl _

end Record

/-! ### Callers that keep what they are told

What a caller was told agrees with the finished version of the record, and a finished version is
the last.
-/

/-- One step of a call, or the caller is told what the record says. -/
inductive TellAct (p : Nat) : Db → Db → Prop
  | act {s s' : Db} (h : AdapterAct p s s') : TellAct p s s'
  | tell (s : Db) (intent : ExecutionIntent) (outcome : ExecutionOutcome)
      (h : OnRecord intent.idempotencyKey outcome s) :
      TellAct p s (s.note (.told p intent outcome))

/-- Whoever has been told an outcome was told what the record says. -/
def ToldOnRecord (s : Db) : Prop :=
  ∀ q intent outcome, .told q intent outcome ∈ s.docker → OnRecord intent.idempotencyKey outcome s

/-- What has been told stays true while nobody is told anything. -/
theorem ToldOnRecord.of_looked {s s' : Db} (h : ToldOnRecord s)
    (hlooked : Looked s.docker s'.docker)
    (hversions : ∀ k, (s.executions k).versions <:+ (s'.executions k).versions) :
    ToldOnRecord s' := by
  intro q intent outcome hmem
  have hold : .told q intent outcome ∈ s.docker := by
    rcases hlooked with heq | ⟨e, heq, huntold⟩
    · rw [heq] at hmem
      exact hmem
    · rw [heq] at hmem
      rcases List.mem_cons.mp hmem with rfl | hold
      · cases huntold
      · exact hold
  obtain ⟨row, hrow, htells⟩ := h q intent outcome hold
  exact ⟨row, (hversions _).mem hrow, htells⟩

theorem ToldOnRecord.act {p : Nat} {s s' : Db} (h : ToldOnRecord s) (hact : TellAct p s s') :
    ToldOnRecord s' := by
  cases hact with
  | act hact => exact h.of_looked hact.looked hact.versions_suffix
  | tell intent outcome hrec =>
      intro q intent' outcome' hmem
      rcases List.mem_cons.mp hmem with heq | hold
      · simp only [DockerEvent.told.injEq] at heq
        obtain ⟨-, rfl, rfl⟩ := heq
        exact hrec
      · exact h q intent' outcome' hold

theorem crash_versions (s : Db) (p : Nat) (k : String) :
    ((s.crash p).executions k).versions = (s.executions k).versions := by
  show (((s.executions k).rollback ⟨p, 0⟩).rollback ⟨p, 1⟩).versions = _
  rw [Cell.rollback_versions, Cell.rollback_versions]

theorem ToldOnRecord.crash {s : Db} (h : ToldOnRecord s) (p : Nat) : ToldOnRecord (s.crash p) := by
  exact h.of_looked (Looked.refl _) (fun k => by rw [crash_versions])

/-- What happens beside the calls touches no record. -/
theorem executions_env {e : AdapterEnv} {s s' : Db} (henv : e.apply s = some s') :
    s'.executions = s.executions ∧ s'.docker = s.docker := by
  cases e with
  | tick elapsed | control c | planned plans steps =>
      simp only [AdapterEnv.apply, Option.some.injEq] at henv
      rw [← henv]
      exact ⟨rfl, rfl⟩

theorem ToldOnRecord.env {e : AdapterEnv} {s s' : Db} (h : ToldOnRecord s)
    (henv : e.apply s = some s') : ToldOnRecord s' := by
  obtain ⟨hexec, hdocker⟩ := executions_env henv
  exact h.of_looked (Or.inl hdocker) (fun k => by rw [hexec])

theorem Dispatched.tell {p : Nat} {s s' : Db} (h : Dispatched s) (hact : TellAct p s s') :
    Dispatched s' := by
  cases hact with
  | act hact => exact h.act hact
  | tell intent outcome hrec => exact ⟨h.chained, h.trails, h.counted⟩

theorem TellAct.apart {p q : Nat} (hq : q ≠ p) {s s' : Db} (h : TellAct q s s') : Apart p s s' := by
  cases h with
  | act hact => exact hact.apart hq
  | tell intent outcome hrec => exact apart_of_same rfl rfl rfl (List.suffix_cons _ _)

/-! ### Calls with the same key

A caller is told the outcome by the call that has finished the record, or it is read off the status
of the finished record.  The two agree except where the outcome was `UNCERTAIN`, for which there is
no status; and there the condition is put.
-/

/-- Two outcomes on record for one key are of the same record. -/
theorem OnRecord.same {k : String} {o o' : ExecutionOutcome} {s : Db} (h : Dispatched s)
    (ho : OnRecord k o s) (ho' : OnRecord k o' s) :
    ∃ row, some row ∈ (s.executions k).versions ∧ o.Tells row ∧ o'.Tells row := by
  obtain ⟨row, hrow, htells⟩ := ho
  obtain ⟨row', hrow', htells'⟩ := ho'
  have hfinished : ∀ {o : ExecutionOutcome} {row : Execution}, o.Tells row →
      statusRank (some row) = 3 := by
    intro o row htells
    rcases htells.2 with ⟨hstatus, -⟩ | ⟨hstatus, -⟩
    · simp [statusRank, hstatus]
    · simp [statusRank, hstatus]
  have hlinked := (h.chained k).suffix (Cell.versions_suffix_chain _)
  have heq : some row = some row' := hlinked.eq_of_rank (fun _ _ hw => statusRank_lt hw) hrow hrow'
    ((hfinished htells).trans (hfinished htells').symm)
  cases heq
  exact ⟨row, hrow, htells, htells'⟩

/-- The record was finished as failed, but not because the container was gone. -/
def Execution.inDoubt (row : Execution) : Bool :=
  match row.status, row.result with
  | .failed, .error _ => false
  | .failed, _ => true
  | _, _ => false

/-- What was told is not about a record that was finished in doubt. -/
def DockerEvent.sure (s : Db) : DockerEvent → Bool
  | .told _ intent _ => (s.executions intent.idempotencyKey).versions.all fun row =>
      !row.any Execution.inDoubt
  | _ => true

/-- Nobody has been told an outcome for a key whose record was finished in doubt. -/
def NoDoubt (s : Db) : Prop := ∀ e ∈ s.docker, e.sure s = true

instance (s : Db) : Decidable (NoDoubt s) :=
  inferInstanceAs (Decidable (∀ e ∈ s.docker, e.sure s = true))

theorem NoDoubt.row {s : Db} (h : NoDoubt s) {p : Nat} {intent : ExecutionIntent}
    {o : ExecutionOutcome} (htold : .told p intent o ∈ s.docker) {row : Execution}
    (hrow : some row ∈ (s.executions intent.idempotencyKey).versions) : row.inDoubt = false := by
  have hall := List.all_eq_true.mp (h _ htold) _ hrow
  simpa using hall

/-- All who are told the outcome of one intent are told the same. -/
def SameOutcomes (s : Db) : Prop :=
  ∀ p q intent o o', .told p intent o ∈ s.docker → .told q intent o' ∈ s.docker →
    o.status = o'.status ∧ o.executionId = o'.executionId

/-- Calls of `execute` and their callers. -/
def toldProtocol : Protocol World ExecuteCall AdapterEnv Db where
  machine := toldMachine (fun _ s' => NoDoubt s')
  guar := TellAct
  inv := fun s => Dispatched s ∧ ToldOnRecord s ∧ NoDoubt s
  inv_guar := fun _ _ _ hinv hact hadm => ⟨hinv.1.tell hact, hinv.2.1.act hact, hadm⟩
  inv_crash := by
    intro p s hinv
    refine ⟨hinv.1.crash p, hinv.2.1.crash p, ?_⟩
    intro e he
    have hsame : e.sure ((toldMachine fun _ s' => NoDoubt s').crash p s) = e.sure s := by
      cases e with
      | told q intent outcome =>
          show List.all ((s.crash p).executions intent.idempotencyKey).versions _ = _
          rw [crash_versions]
          rfl
      | dispatched q intent time | restarted q intent | inspected leftover id attrs => rfl
    rw [hsame]
    exact hinv.2.2 e he
  inv_env := fun _ _ _ hinv henv hadm => ⟨hinv.1.env henv, hinv.2.1.env henv, hadm⟩

theorem isAdapterProtocol_told : IsAdapterProtocol toldProtocol where
  guar := fun _ _ _ h => TellAct.act h
  others := by
    intro p s s' _ h
    cases h with
    | proc q hq hact hadm => exact hact.apart hq
    | crash q _ hq => exact apart_crash hq s
    | env e henv hadm => exact apart_env henv
  chained := fun _ hinv => hinv.1.chained

/-- A call whose caller keeps the outcome, in any protocol in which that is one of its steps. -/
theorem executeTold_safe {P : Protocol World ExecuteCall AdapterEnv Db} (hP : IsAdapterProtocol P)
    (htell : ∀ p s s', TellAct p s s' → P.guar p s s') {p : Nat} (call : ExecuteCall) {s : Db}
    (hinv : P.inv s) (hready : s.unseen p) :
    P.Safe p
      (do
        let _ ← (executeTold p call.adapter call.intent).run
        pure ())
      (fun _ _ => True) s := by
  have htriple : P.Triple p (At p []) (executeTold p call.adapter call.intent) (fun _ _ => True)
      (fun _ _ => True) := by
    refine Triple.bind (execute_triple hP call.intent call.adapter) (fun outcome => ?_)
    refine triple_stmt (stable_onRecord hP _ outcome) ?_
    intro s world r s' _ hrec hf _
    simp only [Option.some.injEq, Prod.mk.injEq] at hf
    obtain ⟨rfl, rfl⟩ := hf
    exact ⟨htell _ _ _ (TellAct.tell s call.intent outcome hrec), trivial⟩
  exact triple_ignore htriple hinv (mine_unseen hready)

theorem toldOnRecord_initial {db : Db} (hdocker : db.docker = []) : ToldOnRecord db := by
  intro q intent outcome hmem
  rw [hdocker] at hmem
  cases hmem

/-- What is told of a record that is not in doubt is its status. -/
theorem ExecutionOutcome.Tells.status {o : ExecutionOutcome} {row : Execution} (h : o.Tells row)
    (hsure : row.inDoubt = false) :
    o.status = if row.status = .succeeded then .succeeded else .failed := by
  rcases h.2 with ⟨hsucc, ho⟩ | ⟨hfail, ho | ⟨-, hdoubt⟩⟩
  · rw [ho, if_pos hsucc]
  · rw [ho, hfail]
    rfl
  · unfold Execution.inDoubt at hsure
    rw [hfail] at hsure
    cases hresult : row.result with
    | error text => exact absurd hresult (hdoubt text)
    | _ => simp [hresult] at hsure

/-- **Idempotent outcomes.**  In every run in which nobody is told of a record in doubt, all
callers with the same intent are told the same status and the same execution. -/
theorem sameOutcomes_of_noDoubt (db₀ : Db) (hlog : db₀.log = []) (hdocker : db₀.docker = [])
    (hexec : ∀ k, db₀.executions k = Cell.empty) (c : Config World Db)
    (hr : Reaches (toldMachine (fun _ s' => NoDoubt s')) (Config.idle db₀) c) :
    SameOutcomes c.state := by
  have hverified : toldProtocol.Verified :=
    fun p call s hinv hready => executeTold_safe isAdapterProtocol_told (fun _ _ _ h => h) call hinv
      hready
  have hinit : toldProtocol.inv db₀ := by
    refine ⟨dispatched_initial hlog hexec, toldOnRecord_initial hdocker, ?_⟩
    intro e he
    rw [hdocker] at he
    cases he
  obtain ⟨hdispatched, htold, hsure⟩ := inv_of_reaches hverified hinit hr
  intro p q intent o o' hp hq
  obtain ⟨row, hrow, htells, htells'⟩ :=
    (htold p intent o hp).same hdispatched (htold q intent o' hq)
  have hcertain := hsure.row hp hrow
  refine ⟨?_, by rw [htells.1, htells'.1]⟩
  rw [htells.status hcertain, htells'.status hcertain]

/-- What the caller of a restart is told that was made. -/
def restartedDemo : ExecutionOutcome :=
  { status := .succeeded, executionId := some 1, idempotencyKey := "restart-1",
    postState := .snapshot { containerId := "0123456789ab", status := "running" } }

/-- A call that has succeeded is made again. -/
theorem sameOutcomes_replayed :
    ∃ c, Reaches (toldMachine (fun _ s' => NoDoubt s')) (Config.idle demoPlanned) c ∧
      .told 0 restartDemo restartedDemo ∈ c.state.docker ∧
      .told 1 restartDemo restartedDemo ∈ c.state.docker ∧ SameOutcomes c.state := by
  obtain ⟨c, hr, htest⟩ := Machine.reaches_of_exec (toldMachine (fun _ s' => NoDoubt s'))
    (Config.idle demoPlanned)
    (.start 0 ⟨⟨0, "worker:a"⟩, restartDemo⟩ :: List.replicate 31 (.run 0 runningContainer) ++
      .start 1 ⟨⟨1, "worker:b"⟩, restartDemo⟩ :: List.replicate 5 (.run 1 runningContainer))
    (fun db => decide (.told 0 restartDemo restartedDemo ∈ db.docker) &&
      decide (.told 1 restartDemo restartedDemo ∈ db.docker)) (by decide +kernel)
  simp only [Bool.and_eq_true, decide_eq_true_eq] at htest
  exact ⟨c, hr, htest.1, htest.2, sameOutcomes_of_noDoubt demoPlanned rfl rfl (fun _ => rfl) c hr⟩

/-- A restart that times out, and leaves no trace on the container. -/
def timedOut : World := { runningContainer with restart := .raised "timed out" }

/-- What a caller has been told, by the status and the execution. -/
def DockerEvent.tells (p : Nat) (intent : ExecutionIntent) (status : ExecutionOutcomeStatus) :
    DockerEvent → Bool
  | .told q i o => decide (q = p) && decide (i = intent) && decide (o.status = status)
  | _ => false

theorem told_of_tells {p : Nat} {intent : ExecutionIntent} {status : ExecutionOutcomeStatus}
    {docker : List DockerEvent} (h : docker.any (DockerEvent.tells p intent status) = true) :
    ∃ o, .told p intent o ∈ docker ∧ o.status = status := by
  obtain ⟨e, he, htells⟩ := List.any_eq_true.mp h
  cases e with
  | told q i o =>
      simp only [DockerEvent.tells, Bool.and_eq_true, decide_eq_true_eq] at htells
      obtain ⟨⟨rfl, rfl⟩, hstatus⟩ := htells
      exact ⟨o, he, hstatus⟩
  | dispatched | restarted | inspected => cases htells

/-- **In doubt, and then failed**: the first caller is told that the outcome is uncertain, and the
second that the same execution has failed. -/
theorem sameOutcomes_in_doubt :
    ¬ ∀ db₀ : Db, db₀.log = [] → db₀.docker = [] → (∀ k, db₀.executions k = Cell.empty) →
      ∀ c : Config World Db, Reaches (toldMachine (fun _ _ => True)) (Config.idle db₀) c →
        SameOutcomes c.state := by
  intro hall
  obtain ⟨c, hr, htest⟩ := Machine.reaches_of_exec (toldMachine (fun _ _ => True))
    (Config.idle demoPlanned)
    (.start 0 ⟨⟨0, "worker:a"⟩, restartDemo⟩ :: List.replicate 31 (.run 0 timedOut) ++
      .start 1 ⟨⟨1, "worker:b"⟩, restartDemo⟩ :: List.replicate 5 (.run 1 timedOut))
    (fun db => db.docker.any (DockerEvent.tells 0 restartDemo .uncertain) &&
      db.docker.any (DockerEvent.tells 1 restartDemo .failed)) (by decide +kernel)
  simp only [Bool.and_eq_true] at htest
  obtain ⟨o, ho, hstatus⟩ := told_of_tells htest.1
  obtain ⟨o', ho', hstatus'⟩ := told_of_tells htest.2
  have hsame := (hall demoPlanned rfl rfl (fun _ => rfl) c hr 0 1 restartDemo o o' ho ho').1
  rw [hstatus, hstatus'] at hsame
  cases hsame

/-! ### Successes

A record is called a success by the call that has dispatched its restart, and then it is known to
be one, or by a call that has found the record `RUNNING` and the container running.  What is known
of the second is what was known when it looked.
-/

/-- A restart for key `k` can be told when its container is looked at: Docker has answered a call
for it normally, or one has been dispatched and what is seen of the container shows it. -/
def RestartSeen (k containerId : String) (attrs : ContainerAttrs) (docker : List DockerEvent) :
    Prop :=
  (∃ p intent, .restarted p intent ∈ docker ∧ intent.idempotencyKey = k) ∨
    ∃ p intent time, .dispatched p intent time ∈ docker ∧ intent.idempotencyKey = k ∧
      intent.containerId = containerId ∧ attrs.ShowsRestart intent time

/-- When a call that has found a record `RUNNING` looks at the container, and the container is
running, a restart for that record can be told. -/
def RecoversRestarted (s s' : Db) : Prop :=
  ∀ k containerId attrs, s'.docker = .inspected (some k) containerId attrs :: s.docker →
    attrs.status = "running" → RestartSeen k containerId attrs s.docker

/-- Whatever is called a success, in a record or to a caller, is known to be one. -/
structure SuccessesProven (s : Db) : Prop where
  records : ∀ k row, some row ∈ (s.executions k).versions → row.status = .succeeded →
    Proven k s.docker
  told : ∀ p intent o, .told p intent o ∈ s.docker → o.status = .succeeded →
    Proven intent.idempotencyKey s.docker

/-- What can be told of a restart at a look is known after it. -/
theorem RestartSeen.proven {k containerId : String} {attrs : ContainerAttrs}
    {docker : List DockerEvent} (h : RestartSeen k containerId attrs docker) :
    Proven k (.inspected (some k) containerId attrs :: docker) := by
  rcases h with ⟨p, intent, hmem, hkey⟩ | ⟨p, intent, time, hmem, hkey, rfl, hshows⟩
  · exact .returned p intent hkey (List.mem_cons_of_mem _ hmem)
  · obtain ⟨later, earlier, rfl⟩ := List.append_of_mem hmem
    exact .shown p intent time attrs (.inspected (some k) intent.containerId attrs :: later) earlier
      hkey rfl ⟨some k, List.mem_cons_self⟩ hshows

/-- Where a record was found `RUNNING` and its container running, its restart is known. -/
def FoundRestarted (s : Db) : Prop := ∀ k, FoundRunning k s.docker → Proven k s.docker

theorem Vouched.proven {k : String} {s : Db} (h : Vouched k s.docker) (hfound : FoundRestarted s) :
    Proven k s.docker :=
  h.elim (hfound k) id

namespace FoundRestarted

variable {p : Nat} {s s' : Db}

theorem of_same (h : FoundRestarted s) (hdocker : s'.docker = s.docker) : FoundRestarted s' := by
  unfold FoundRestarted
  rw [hdocker]
  exact h

theorem of_cons (h : FoundRestarted s) {e : DockerEvent} (hdocker : s'.docker = e :: s.docker)
    (hadm : RecoversRestarted s s') : FoundRestarted s' := by
  rintro k ⟨containerId, attrs, hmem, hrunning⟩
  rw [hdocker] at hmem
  rcases List.mem_cons.mp hmem with rfl | hold
  · rw [hdocker]
    exact (hadm k containerId attrs hdocker hrunning).proven
  · rw [hdocker]
    exact (h k ⟨containerId, attrs, hold, hrunning⟩).suffix (List.suffix_cons _ _)

theorem act (h : FoundRestarted s) (hact : TellAct p s s') (hadm : RecoversRestarted s s') :
    FoundRestarted s' := by
  cases hact with
  | tell intent outcome hrec => exact h.of_cons rfl hadm
  | act hact =>
      rcases hact.looked with hsame | ⟨e, hcons, -⟩
      · exact h.of_same hsame
      · exact h.of_cons hcons hadm

end FoundRestarted

/-- Every record that is written as a success is known to be one. -/
def ProvenRecords (s : Db) : Prop :=
  ∀ k row, some row ∈ (s.executions k).chain → row.status = .succeeded → Proven k s.docker

namespace ProvenRecords

variable {p : Nat} {s s' : Db}

/-- A step that writes no record. -/
theorem of_steps (h : ProvenRecords s)
    (hcell : ∀ k, ∃ t, Cell.Step (fun _ _ => False) t (s.executions k) (s'.executions k))
    (hdocker : s.docker <:+ s'.docker) : ProvenRecords s' := by
  intro k row hrow hstatus
  obtain ⟨t, hstep⟩ := hcell k
  rcases hstep.mem_chain hrow with hold | hnew
  · exact (h k row hold hstatus).suffix hdocker
  · exact hnew.elim

theorem act (h : ProvenRecords s) (hact : TellAct p s s') (hfound : FoundRestarted s) :
    ProvenRecords s' := by
  cases hact with
  | tell intent outcome hrec =>
      exact h.of_steps (fun k => ⟨⟨p, 0⟩, Cell.Step.same _⟩) (List.suffix_cons _ _)
  | act hact =>
      intro k row hrow hstatus
      refine Proven.suffix ?_ hact.looked.suffix
      rcases hact.mem_chain hrow with hold | hwhy
      · exact h k row hold hstatus
      · exact (hwhy row rfl hstatus).proven hfound

theorem crash (h : ProvenRecords s) (p : Nat) : ProvenRecords (s.crash p) := by
  have h1 : ProvenRecords (s.rollback ⟨p, 0⟩) :=
    h.of_steps (fun k => ⟨⟨p, 0⟩, Cell.Step.rollback _⟩) List.suffix_rfl
  have h2 : ProvenRecords ((s.rollback ⟨p, 0⟩).rollback ⟨p, 1⟩) :=
    h1.of_steps (fun k => ⟨⟨p, 1⟩, Cell.Step.rollback _⟩) List.suffix_rfl
  exact h2

theorem env {e : AdapterEnv} (h : ProvenRecords s) (henv : e.apply s = some s') :
    ProvenRecords s' := by
  obtain ⟨hexec, hdocker⟩ := executions_env henv
  refine h.of_steps (fun k => ⟨⟨0, 0⟩, ?_⟩) (by rw [hdocker])
  rw [hexec]
  exact Cell.Step.same _

end ProvenRecords

/-- Calls of `execute` and their callers, in runs that meet the condition. -/
def provenProtocol : Protocol World ExecuteCall AdapterEnv Db where
  machine := toldMachine RecoversRestarted
  guar := TellAct
  inv := fun s => Dispatched s ∧ ToldOnRecord s ∧ ProvenRecords s ∧ FoundRestarted s
  inv_guar := fun _ _ _ hinv hact hadm =>
    ⟨hinv.1.tell hact, hinv.2.1.act hact, hinv.2.2.1.act hact hinv.2.2.2,
      hinv.2.2.2.act hact hadm⟩
  inv_crash := fun p _ hinv =>
    ⟨hinv.1.crash p, hinv.2.1.crash p, hinv.2.2.1.crash p, hinv.2.2.2.of_same rfl⟩
  inv_env := fun _ _ _ hinv henv _ =>
    ⟨hinv.1.env henv, hinv.2.1.env henv, hinv.2.2.1.env henv,
      hinv.2.2.2.of_same (executions_env henv).2⟩

theorem isAdapterProtocol_proven : IsAdapterProtocol provenProtocol where
  guar := fun _ _ _ h => TellAct.act h
  others := by
    intro p s s' _ h
    cases h with
    | proc q hq hact hadm => exact hact.apart hq
    | crash q _ hq => exact apart_crash hq s
    | env e henv hadm => exact apart_env henv
  chained := fun _ hinv => hinv.1.chained

/-- **A success is a restart.**  In every run in which whoever finds a record `RUNNING` and its
container running does so when a restart for it can be told, whatever is called a success is known
to be one. -/
theorem successesProven_of_recoversRestarted (db₀ : Db) (hlog : db₀.log = [])
    (hdocker : db₀.docker = []) (hexec : ∀ k, db₀.executions k = Cell.empty)
    (c : Config World Db) (hr : Reaches (toldMachine RecoversRestarted) (Config.idle db₀) c) :
    SuccessesProven c.state := by
  have hverified : provenProtocol.Verified :=
    fun p call s hinv hready => executeTold_safe isAdapterProtocol_proven (fun _ _ _ h => h) call
      hinv hready
  have hinit : provenProtocol.inv db₀ := by
    refine ⟨dispatched_initial hlog hexec, toldOnRecord_initial hdocker, ?_, ?_⟩
    · intro k row hrow
      rw [hexec k] at hrow
      cases hrow
    · rintro k ⟨containerId, attrs, hmem, -⟩
      rw [hdocker] at hmem
      cases hmem
  obtain ⟨-, htold, hproven, -⟩ := inv_of_reaches hverified hinit hr
  have hrecords : ∀ k row, some row ∈ (c.state.executions k).versions →
      row.status = .succeeded → Proven k c.state.docker :=
    fun k row hrow => hproven k row ((Cell.versions_suffix_chain _).mem hrow)
  refine ⟨hrecords, ?_⟩
  intro p intent o hmem hstatus
  obtain ⟨row, hrow, -, hsame⟩ := htold p intent o hmem
  rcases hsame with ⟨hsucc, -⟩ | ⟨-, hfail | ⟨hdoubt, -⟩⟩
  · exact hrecords _ row hrow hsucc
  · rw [hstatus] at hfail
    cases hfail
  · rw [hstatus] at hdoubt
    cases hdoubt

/-- The last look at a container for a record that was found `RUNNING` was after a restart for it
that Docker has answered, or has shown the container not running. -/
def recoversAnswered (docker : List DockerEvent) : Bool :=
  match docker with
  | .inspected (some k) _ attrs :: earlier =>
      !decide (attrs.status = "running") || earlier.any fun e =>
        match e with
        | .restarted _ intent => decide (intent.idempotencyKey = k)
        | _ => false
  | _ => true

theorem recoversRestarted_of_answered {s s' : Db} (h : recoversAnswered s'.docker = true) :
    RecoversRestarted s s' := by
  intro k containerId attrs hdocker hrunning
  rw [hdocker] at h
  simp only [recoversAnswered, hrunning, decide_true, Bool.not_true, Bool.false_or,
    List.any_eq_true] at h
  obtain ⟨e, hmem, he⟩ := h
  cases e with
  | restarted p intent => exact Or.inl ⟨p, intent, hmem, of_decide_eq_true he⟩
  | dispatched p intent time | inspected leftover id attrs | told p intent outcome => cases he

/-- A restart is made, and its call dies before it has recorded it; the next call finds the record
`RUNNING` and the container running. -/
theorem successesProven_recovered :
    ∃ c, Reaches (toldMachine RecoversRestarted) (Config.idle demoPlanned) c ∧
      .restarted 0 restartDemo.dispatched ∈ c.state.docker ∧ .crashed 0 ∈ c.state.log ∧
      FoundRunning "restart-1" c.state.docker ∧
      .told 1 restartDemo restartedDemo ∈ c.state.docker ∧ SuccessesProven c.state := by
  obtain ⟨c, hr, htest⟩ := Machine.reaches_of_exec
    (toldMachine (fun _ s' => recoversAnswered s'.docker = true)) (Config.idle demoPlanned)
    (.start 0 ⟨⟨0, "worker:a"⟩, restartDemo⟩ :: List.replicate 21 (.run 0 runningContainer) ++
      .crash 0 :: .start 1 ⟨⟨1, "worker:b"⟩, restartDemo⟩ ::
      List.replicate 11 (.run 1 runningContainer))
    (fun db => decide (.restarted 0 restartDemo.dispatched ∈ db.docker) &&
      decide (.crashed 0 ∈ db.log) &&
      decide (.inspected (some "restart-1") "0123456789ab"
        { id := "0123456789ab", status := "running" } ∈ db.docker) &&
      decide (.told 1 restartDemo restartedDemo ∈ db.docker)) (by decide +kernel)
  simp only [Bool.and_eq_true, decide_eq_true_eq] at htest
  obtain ⟨⟨⟨hrestarted, hcrashed⟩, hfound⟩, htold⟩ := htest
  have hr' : Reaches (toldMachine RecoversRestarted) (Config.idle demoPlanned) c :=
    hr.mono (fun _ _ h => recoversRestarted_of_answered h)
  exact ⟨c, hr', hrestarted, hcrashed, ⟨_, _, hfound, rfl⟩, htold,
    successesProven_of_recoversRestarted demoPlanned rfl rfl (fun _ => rfl) c hr'⟩

/-- Without a dispatch nothing is proven. -/
theorem not_proven_of_undispatched {k : String} {docker : List DockerEvent}
    (h : ∀ e ∈ docker, (match e with
      | .dispatched _ _ _ | .restarted _ _ => false
      | _ => true) = true) : ¬ Proven k docker := by
  intro hproven
  cases hproven with
  | returned p intent hkey hmem => exact absurd (h _ hmem) (by simp)
  | shown p intent time attrs later earlier hkey heq hlook hshows =>
      exact absurd (h (.dispatched p intent time) (by rw [heq]; simp)) (by simp)

/-- **A success without a restart**: a call dies when it has the lock and has not called Docker,
and the next one finds its record `RUNNING` and the container running. -/
theorem successesProven_not_restarted :
    ¬ ∀ db₀ : Db, db₀.log = [] → db₀.docker = [] → (∀ k, db₀.executions k = Cell.empty) →
      ∀ c : Config World Db, Reaches (toldMachine (fun _ _ => True)) (Config.idle db₀) c →
        SuccessesProven c.state := by
  intro hall
  obtain ⟨c, hr, htest⟩ := Machine.reaches_of_exec (toldMachine (fun _ _ => True))
    (Config.idle demoPlanned)
    (.start 0 ⟨⟨0, "worker:a"⟩, restartDemo⟩ :: List.replicate 18 (.run 0 runningContainer) ++
      .crash 0 :: .start 1 ⟨⟨1, "worker:b"⟩, restartDemo⟩ ::
      List.replicate 11 (.run 1 runningContainer))
    (fun db => decide (.told 1 restartDemo restartedDemo ∈ db.docker) &&
      db.docker.all fun e => match e with
        | .dispatched _ _ _ | .restarted _ _ => false
        | _ => true) (by decide +kernel)
  simp only [Bool.and_eq_true, decide_eq_true_eq, List.all_eq_true] at htest
  have hproven := (hall demoPlanned rfl rfl (fun _ => rfl) c hr).told 1 restartDemo restartedDemo
    htest.1 rfl
  exact not_proven_of_undispatched htest.2 hproven

end SelfHealing
