/-
Demo commands come one after the other.

A registration holds the advisory lock from before it looks at the commands until it commits, and
only registrations add commands.  So what it has found of keys and of pending commands is so when it
commits, whatever the transactions do that write answers meanwhile: those can only take a pending
command out of the way.  Each command is sent by the call that registered it, and each key is
registered once.

The lock is one for all, so a registration is alone among registrations; it is not alone among
transactions, and what it has read of answers may be out of date when it commits.  What it relies
on is only what an answer cannot bring about: a new pending command, or a key used again.
-/
import SelfHealing.Console
import SelfHealing.Proofs.Rules
import SelfHealing.Lib.UniqueIndex

namespace SelfHealing

open Interleaving Interleaving.Protocol ReadCommitted

/-! ### What the commands keep to

At most one command of a scenario is pending, and keys are different.  Both are about committed rows
and what the holder of the lock has added.
-/

/-- No two commands are pending. -/
def AtMostOnePending (db : Db) : Prop :=
  ∀ i j a b, db.command i = some a → db.command j = some b →
    a.status = .pending → b.status = .pending → i = j

/-- The command of this key is sent to the fault injector. -/
def Event.isPost (key : Nat) : Event → Bool
  | .posted _ _ k => decide (k = key)
  | _ => false

/-- How often a key has caused a `POST`. -/
def posts (key : Nat) (log : List Event) : Nat := log.countP (Event.isPost key)

structure CommandInv (db : Db) : Prop where
  pending : AtMostOnePending db
  listed : ∀ i row, some row ∈ (db.commands i).chain → i ∈ db.commandIds ∧ row.id = i
  onRecord : ∀ p i key action, .registered p i key action ∈ db.log →
    ∃ row, db.command i = some row ∧ row.idempotencyKey = key
  once : ∀ p q i j key a b, .registered p i key a ∈ db.log → .registered q j key b ∈ db.log → p = q
  sent : ∀ p i key, .posted p i key ∈ db.log → ∃ action, .registered p i key action ∈ db.log
  single : ∀ key, posts key db.log ≤ 1

/-- A row that is there stays, with its key, and is not made pending. -/
def Continues : Option DemoCommand → Option DemoCommand → Prop
  | none, none => True
  | some row, some row' =>
      row'.idempotencyKey = row.idempotencyKey ∧ (row'.status = .pending → row.status = .pending)
  | _, _ => False

theorem Continues.refl (row : Option DemoCommand) : Continues row row := by
  cases row with
  | none => trivial
  | some row => exact ⟨rfl, id⟩

theorem Continues.of_some {row row' : Option DemoCommand} {v : DemoCommand}
    (h : Continues row row') (hv : row' = some v) :
    ∃ u, row = some u ∧ v.idempotencyKey = u.idempotencyKey ∧
      (v.status = .pending → u.status = .pending) := by
  subst hv
  cases row with
  | none => exact h.elim
  | some u => exact ⟨u, rfl, h.1, h.2⟩

theorem Continues.to_some {row row' : Option DemoCommand} {u : DemoCommand}
    (h : Continues row row') (hu : row = some u) :
    ∃ v, row' = some v ∧ v.idempotencyKey = u.idempotencyKey := by
  subst hu
  cases row' with
  | none => exact h.elim
  | some v => exact ⟨v, rfl, h.1⟩

/-- What a step of process `p` does to the rows and to the advisory lock. -/
structure CommandStep (p : Nat) (s s' : Db) : Prop where
  cells : ∀ i, Cell.Step (fun old new => (old = none → i ∈ s'.commandIds) ∧
    ∀ row, new = some row → row.id = i) ⟨p, 0⟩ (s.commands i) (s'.commands i)
  ids : ∀ i ∈ s.commandIds, i ∈ s'.commandIds
  advisory : ∀ u : TxId, u ≠ ⟨p, 0⟩ → (s'.advisory = some u ↔ s.advisory = some u)

/-- What a process does in a step. -/
inductive CommandAct (p : Nat) (s s' : Db) : Prop
  | quiet (hstep : CommandStep p s s') (hrows : ∀ i, Continues (s.command i) (s'.command i))
      (hlog : ∃ evs, s'.log = evs ++ s.log ∧ ∀ e ∈ evs, ∃ i, e = .answered p i)
  | register (i key : Nat) (action : FaultAction) (hstep : CommandStep p s s')
      (hlock : s.advisory = some ⟨p, 0⟩)
      (hfresh : ∀ j row, s.command j = some row → row.idempotencyKey ≠ key)
      (hnew : ∃ row, s'.command i = some row ∧ row.idempotencyKey = key)
      (hrest : ∀ j, j ≠ i → Continues (s.command j) (s'.command j) ∧
        ∀ row, s'.command j = some row → row.status ≠ .pending)
      (hnone : s.command i = none) (hlog : s'.log = .registered p i key action :: s.log)
  | post (i key : Nat) (action : FaultAction) (hreg : .registered p i key action ∈ s.log)
      (hfirst : ∀ j k, .posted p j k ∉ s.log) (heq : s' = s.record [.posted p i key])

/-! ### One step -/

section Invariant

variable {p : Nat} {s s' : Db}

theorem CommandStep.listed (h : CommandStep p s s') (hinv : CommandInv s) (i : Nat)
    (row : DemoCommand) (hrow : some row ∈ (s'.commands i).chain) :
    i ∈ s'.commandIds ∧ row.id = i := by
  rcases (h.cells i).mem_chain hrow with hold | hnew
  · obtain ⟨hi, hid⟩ := hinv.listed i row hold
    exact ⟨h.ids i hi, hid⟩
  · refine ⟨?_, hnew.2 row rfl⟩
    cases hvis : (s.commands i).visible ⟨p, 0⟩ with
    | none => exact hnew.1 hvis
    | some old =>
        exact h.ids i (hinv.listed i old (Cell.mem_chain_of_view (Cell.visible_mem hvis))).1

theorem CommandInv.quiet (hinv : CommandInv s) (hstep : CommandStep p s s')
    (hrows : ∀ i, Continues (s.command i) (s'.command i))
    (hlog : ∃ evs, s'.log = evs ++ s.log ∧ ∀ e ∈ evs, ∃ i, e = .answered p i) :
    CommandInv s' := by
  obtain ⟨evs, hlog, hevs⟩ := hlog
  have hmem : ∀ {e : Event}, (∀ i, e ≠ .answered p i) → e ∈ s'.log → e ∈ s.log := by
    intro e hne he
    rw [hlog] at he
    rcases List.mem_append.mp he with he | he
    · obtain ⟨i, hi⟩ := hevs e he
      exact absurd hi (hne i)
    · exact he
  have hin : ∀ {e : Event}, e ∈ s.log → e ∈ s'.log := by
    intro e he
    rw [hlog]
    exact List.mem_append_right _ he
  refine ⟨?_, hstep.listed hinv, ?_, ?_, ?_, ?_⟩
  · intro i j a b ha hb hpa hpb
    obtain ⟨a', ha', -, hpa'⟩ := (hrows i).of_some ha
    obtain ⟨b', hb', -, hpb'⟩ := (hrows j).of_some hb
    exact hinv.pending i j a' b' ha' hb' (hpa' hpa) (hpb' hpb)
  · intro q i key action he
    obtain ⟨row, hrow, hkey⟩ := hinv.onRecord q i key action (hmem (by simp) he)
    obtain ⟨row', hrow', hkey'⟩ := (hrows i).to_some hrow
    exact ⟨row', hrow', hkey'.trans hkey⟩
  · intro q r i j key a b hq hr
    exact hinv.once q r i j key a b (hmem (by simp) hq) (hmem (by simp) hr)
  · intro q i key he
    obtain ⟨action, hreg⟩ := hinv.sent q i key (hmem (by simp) he)
    exact ⟨action, hin hreg⟩
  · intro key
    have hzero : posts key evs = 0 := by
      refine List.countP_eq_zero.mpr ?_
      intro e he
      obtain ⟨i, rfl⟩ := hevs e he
      simp [Event.isPost]
    have hle := hinv.single key
    unfold posts at hle hzero ⊢
    rw [hlog, List.countP_append]
    omega

theorem CommandInv.register (hinv : CommandInv s) {i key : Nat} {action : FaultAction}
    (hstep : CommandStep p s s')
    (hfresh : ∀ j row, s.command j = some row → row.idempotencyKey ≠ key)
    (hnew : ∃ row, s'.command i = some row ∧ row.idempotencyKey = key)
    (hrest : ∀ j, j ≠ i → Continues (s.command j) (s'.command j) ∧
      ∀ row, s'.command j = some row → row.status ≠ .pending)
    (hnone : s.command i = none) (hlog : s'.log = .registered p i key action :: s.log) :
    CommandInv s' := by
  have hmem : ∀ {e : Event}, e ∈ s'.log → e = .registered p i key action ∨ e ∈ s.log := by
    intro e he
    rw [hlog] at he
    exact List.mem_cons.mp he
  -- a command of this key would be in the way
  have hkey : ∀ q j a, .registered q j key a ∉ s.log := by
    intro q j a he
    obtain ⟨row, hrow, hk⟩ := hinv.onRecord q j key a he
    exact hfresh j row hrow hk
  refine ⟨?_, hstep.listed hinv, ?_, ?_, ?_, ?_⟩
  · intro j k a b ha hb hpa hpb
    by_cases hj : j = i
    · by_cases hk : k = i
      · rw [hj, hk]
      · exact absurd hpb ((hrest k hk).2 b hb)
    · exact absurd hpa ((hrest j hj).2 a ha)
  · intro q j k a he
    rcases hmem he with heq | he
    · cases heq
      exact hnew
    · obtain ⟨row, hrow, hk⟩ := hinv.onRecord q j k a he
      by_cases hj : j = i
      · rw [hj, hnone] at hrow
        cases hrow
      · obtain ⟨row', hrow', hk'⟩ := (hrest j hj).1.to_some hrow
        exact ⟨row', hrow', hk'.trans hk⟩
  · intro q r j k key' a b hq hr
    rcases hmem hq with heq | hq
    · cases heq
      rcases hmem hr with heq | hr
      · cases heq
        rfl
      · exact absurd hr (hkey r k b)
    · rcases hmem hr with heq | hr
      · cases heq
        exact absurd hq (hkey q j a)
      · exact hinv.once q r j k key' a b hq hr
  · intro q j k he
    rcases hmem he with heq | he
    · cases heq
    · obtain ⟨a, ha⟩ := hinv.sent q j k he
      rw [hlog]
      exact ⟨a, List.mem_cons_of_mem _ ha⟩
  · intro k
    unfold posts
    rw [hlog, List.countP_cons]
    exact hinv.single k

theorem CommandInv.post (hinv : CommandInv s) {i key : Nat} {action : FaultAction}
    (hreg : .registered p i key action ∈ s.log) (hfirst : ∀ j k, .posted p j k ∉ s.log) :
    CommandInv (s.record [.posted p i key]) := by
  have hmem : ∀ {e : Event}, (∀ j k, e ≠ .posted p j k) → e ∈ (s.record [.posted p i key]).log →
      e ∈ s.log := by
    intro e hne he
    rcases List.mem_cons.mp he with heq | he
    · exact absurd heq (hne i key)
    · exact he
  refine ⟨hinv.pending, hinv.listed, ?_, ?_, ?_, ?_⟩
  · intro q j k a he
    exact hinv.onRecord q j k a (hmem (by simp) he)
  · intro q r j k key' a b hq hr
    exact hinv.once q r j k key' a b (hmem (by simp) hq) (hmem (by simp) hr)
  · intro q j k he
    rcases List.mem_cons.mp he with heq | he
    · cases heq
      exact ⟨action, List.mem_cons_of_mem _ hreg⟩
    · obtain ⟨a, ha⟩ := hinv.sent q j k he
      exact ⟨a, List.mem_cons_of_mem _ ha⟩
  · intro k
    show List.countP (Event.isPost k) (.posted p i key :: s.log) ≤ 1
    rw [List.countP_cons]
    by_cases hk : key = k
    · -- whoever has sent this key has registered it, and that is `p`, which has sent nothing
      have hzero : List.countP (Event.isPost k) s.log = 0 := by
        refine List.countP_eq_zero.mpr ?_
        intro e he hpost
        cases e with
        | posted q j k' =>
            simp only [Event.isPost, decide_eq_true_eq] at hpost
            rw [hpost, ← hk] at he
            obtain ⟨a, ha⟩ := hinv.sent q j key he
            have hq := hinv.once q p j i key a action ha hreg
            rw [hq] at he
            exact hfirst j key he
        | _ => simp [Event.isPost] at hpost
      rw [hzero]
      simp [Event.isPost, hk]
    · have hle := hinv.single k
      unfold posts at hle
      simp only [Event.isPost, hk, decide_false, Bool.false_eq_true, if_false, Nat.add_zero]
      exact hle

theorem CommandInv.act (hinv : CommandInv s) (h : CommandAct p s s') : CommandInv s' := by
  cases h with
  | quiet hstep hrows hlog => exact hinv.quiet hstep hrows hlog
  | register i key action hstep hlock hfresh hnew hrest hnone hlog =>
      exact hinv.register hstep hfresh hnew hrest hnone hlog
  | post i key action hreg hfirst heq =>
      rw [heq]
      exact hinv.post hreg hfirst

theorem chain_rollback {V : Type} {t : TxId} {c : Cell TxId V} {v : Option V}
    (h : v ∈ (c.rollback t).chain) : v ∈ c.chain := by
  rcases (Cell.Step.rollback (W := fun _ _ => False) (t := t) c).mem_chain h with h | h
  · exact h
  · exact h.elim

theorem command_crash (p : Nat) (s : Db) (i : Nat) : (s.crash p).command i = s.command i := by
  show (((s.commands i).rollback ⟨p, 0⟩).rollback ⟨p, 1⟩).committed = _
  rw [Cell.committed_rollback, Cell.committed_rollback]
  rfl

theorem CommandInv.crash (hinv : CommandInv s) (p : Nat) : CommandInv (s.crash p) := by
  have hmem : ∀ {e : Event}, e ≠ .crashed p → e ∈ (s.crash p).log → e ∈ s.log := by
    intro e hne he
    rcases List.mem_cons.mp he with heq | he
    · exact absurd heq hne
    · exact he
  refine ⟨?_, ?_, ?_, ?_, ?_, ?_⟩
  · intro i j a b ha hb
    rw [command_crash] at ha hb
    exact hinv.pending i j a b ha hb
  · intro i row hrow
    exact hinv.listed i row (chain_rollback (chain_rollback hrow))
  · intro q i key action he
    rw [command_crash]
    exact hinv.onRecord q i key action (hmem (by simp) he)
  · intro q r i j key a b hq hr
    exact hinv.once q r i j key a b (hmem (by simp) hq) (hmem (by simp) hr)
  · intro q i key he
    obtain ⟨a, ha⟩ := hinv.sent q i key (hmem (by simp) he)
    exact ⟨a, List.mem_cons_of_mem _ ha⟩
  · intro key
    show List.countP (Event.isPost key) (.crashed p :: s.log) ≤ 1
    rw [List.countP_cons]
    exact hinv.single key

end Invariant

def consoleProtocol : Protocol World DemoRequest Nat Db where
  machine := consoleMachine (fun _ _ => True)
  guar := CommandAct
  inv := CommandInv
  inv_guar := fun _ _ _ hinv h _ => hinv.act h
  inv_crash := fun p _ hinv => hinv.crash p
  inv_env := by
    intro elapsed s s' hinv henv _
    simp only [consoleMachine, Option.some.injEq] at henv
    rw [← henv]
    exact ⟨hinv.pending, hinv.listed, hinv.onRecord, hinv.once, hinv.sent, hinv.single⟩

/-! ### What the others leave to a process -/

section Others

variable {p : Nat} {s s' : Db}

/-- What `p` can count on, whoever else makes a step. -/
structure Spared (p : Nat) (s s' : Db) : Prop where
  locked : ∀ i, (s.commands i).locked ⟨p, 0⟩ → s'.commands i = s.commands i
  unlocked : ∀ i, ¬ (s.commands i).locked ⟨p, 0⟩ → ¬ (s'.commands i).locked ⟨p, 0⟩
  advisory : s'.advisory = some ⟨p, 0⟩ ↔ s.advisory = some ⟨p, 0⟩
  /-- While `p` has the advisory lock, nobody registers. -/
  rows : s.advisory = some ⟨p, 0⟩ → ∀ i, Continues (s.command i) (s'.command i)
  posts : ∀ i key, .posted p i key ∈ s'.log → .posted p i key ∈ s.log
  registered : ∀ i key action, .registered p i key action ∈ s.log →
    .registered p i key action ∈ s'.log

theorem advisory_rollback {t u : TxId} (hne : t ≠ u) :
    (s.rollback t).advisory = some u ↔ s.advisory = some u := by
  show (if s.advisory = some t then none else s.advisory) = some u ↔ _
  split
  · rename_i ht
    rw [ht]
    simp [hne]
  · exact Iff.rfl

theorem unlocked_of_step {W : Option DemoCommand → Option DemoCommand → Prop} {t u : TxId}
    {c c' : Cell TxId DemoCommand} (hne : u ≠ t) (h : Cell.Step W u c c') (hl : ¬ c.locked t) :
    ¬ c'.locked t := by
  cases h with
  | same => exact hl
  | lock hf => exact Cell.not_locked_of_locked (fun heq => hne heq.symm) Cell.locked_lock
  | write v hf hw => exact Cell.not_locked_of_locked (fun heq => hne heq.symm) (Cell.locked_write v)
  | commit => exact fun h => hl (Cell.locked_commit h).2
  | rollback => exact fun h => hl (Cell.locked_rollback h).2

theorem spared_of_step {q : Nat} (hne : q ≠ p) (h : CommandStep q s s')
    (hrows : s.advisory = some ⟨p, 0⟩ → ∀ i, Continues (s.command i) (s'.command i))
    (hlog : ∃ evs, s'.log = evs ++ s.log ∧ ∀ e ∈ evs, e.proc = q) : Spared p s s' := by
  have htx : (⟨q, 0⟩ : TxId) ≠ ⟨p, 0⟩ := fun heq => hne (congrArg TxId.pid heq)
  obtain ⟨evs, hlog, hevs⟩ := hlog
  refine ⟨?_, ?_, ?_, hrows, ?_, ?_⟩
  · intro i hl
    exact (h.cells i).eq_of_locked htx hl
  · intro i hl
    exact unlocked_of_step htx (h.cells i) hl
  · exact h.advisory ⟨p, 0⟩ (fun heq => htx heq.symm)
  · intro i key he
    rw [hlog] at he
    rcases List.mem_append.mp he with he | he
    · exact absurd (hevs _ he).symm hne
    · exact he
  · intro i key action he
    rw [hlog]
    exact List.mem_append_right _ he

theorem spared_of_other (h : consoleProtocol.Other p s s') : Spared p s s' := by
  cases h with
  | proc q hne hact _ =>
      cases hact with
      | quiet hstep hrows hlog =>
          obtain ⟨evs, hlog, hevs⟩ := hlog
          refine spared_of_step hne hstep (fun _ => hrows) ⟨evs, hlog, ?_⟩
          intro e he
          obtain ⟨i, rfl⟩ := hevs e he
          rfl
      | register i key action hstep hlock hfresh hnew hrest hnone hlog =>
          refine spared_of_step hne hstep ?_
            ⟨[.registered q i key action], hlog, by simp [Event.proc]⟩
          intro hmine
          rw [hlock] at hmine
          simp only [Option.some.injEq, TxId.mk.injEq, and_true] at hmine
          exact absurd hmine hne
      | post i key action hreg hfirst heq =>
          subst heq
          refine ⟨fun _ _ => rfl, fun _ hl => hl, Iff.rfl, fun _ _ => Continues.refl _, ?_, ?_⟩
          · intro j k he
            rcases List.mem_cons.mp he with heq | he
            · simp only [Event.posted.injEq] at heq
              exact absurd heq.1.symm hne
            · exact he
          · exact fun _ _ _ he => List.mem_cons_of_mem _ he
  | crash q _ hne =>
      have htx : ∀ l, (⟨q, l⟩ : TxId) ≠ ⟨p, 0⟩ := fun l heq => hne (congrArg TxId.pid heq)
      have hcell : ∀ i, (s.crash q).commands i =
          ((s.commands i).rollback ⟨q, 0⟩).rollback ⟨q, 1⟩ := fun _ => rfl
      refine ⟨?_, ?_, ?_, ?_, ?_, ?_⟩
      · intro i hl
        show (s.crash q).commands i = _
        rw [hcell]
        have hfirst : (s.commands i).rollback ⟨q, 0⟩ = s.commands i :=
          (Cell.Step.rollback (W := fun _ _ => True) _).eq_of_locked (htx 0) hl
        rw [hfirst]
        exact (Cell.Step.rollback (W := fun _ _ => True) _).eq_of_locked (htx 1) hl
      · intro i hl hl'
        exact hl (Cell.locked_rollback (Cell.locked_rollback hl').2).2
      · show (((s.rollback ⟨q, 0⟩).rollback ⟨q, 1⟩).advisory = some ⟨p, 0⟩) ↔ _
        rw [advisory_rollback (htx 1), advisory_rollback (htx 0)]
      · intro _ i
        show Continues (s.command i) ((s.crash q).command i)
        rw [command_crash]
        exact Continues.refl _
      · intro i key he
        rcases List.mem_cons.mp he with heq | he
        · cases heq
        · exact he
      · exact fun _ _ _ he => List.mem_cons_of_mem _ he
  | env elapsed henv _ =>
      simp only [consoleProtocol, consoleMachine, Option.some.injEq] at henv
      subst henv
      exact ⟨fun _ _ => rfl, fun _ hl => hl, Iff.rfl, fun _ _ => Continues.refl _, fun _ _ he => he,
        fun _ _ _ he => he⟩

end Others

/-! ### What a process knows

Whoever holds the lock knows the table up to the answers that others write: no command is added and
no key is used while it is held.  Whoever does not hold it knows of its own command alone: that it
is there, and what has become of it.
-/

/-- The process has nothing in hand. -/
structure Unheld (p : Nat) (s : Db) : Prop where
  unlocked : ∀ i, ¬ (s.commands i).locked ⟨p, 0⟩
  advisory : s.advisory ≠ some ⟨p, 0⟩

/-- It has sent nothing. -/
structure Unsent (p : Nat) (s : Db) : Prop where
  none : ∀ i key, .posted p i key ∉ s.log

/-- It holds the advisory lock, and has written nothing. -/
structure Holding (p : Nat) (s : Db) : Prop extends Unsent p s where
  lock : s.advisory = some ⟨p, 0⟩
  unlocked : ∀ i, ¬ (s.commands i).locked ⟨p, 0⟩

/-- It holds the lock, there is no command of its key, and what it has written carries on what is
there. -/
structure Registering (p key : Nat) (s : Db) : Prop extends Unsent p s where
  lock : s.advisory = some ⟨p, 0⟩
  fresh : ∀ i row, s.command i = some row → row.idempotencyKey ≠ key
  rows : ∀ i, Continues (s.command i) ((s.commands i).visible ⟨p, 0⟩)

/-- No command is pending in its eyes, but perhaps one. -/
structure OnlyPending (p key : Nat) (only : Option Nat) (s : Db) : Prop
    extends Registering p key s where
  only : ∀ i row, (s.commands i).visible ⟨p, 0⟩ = some row → row.status = .pending → some i = only

/-- It has added its own. -/
structure AddedCommand (p key id : Nat) (s : Db) : Prop extends Unsent p s where
  lock : s.advisory = some ⟨p, 0⟩
  fresh : ∀ i row, s.command i = some row → row.idempotencyKey ≠ key
  locked : (s.commands id).locked ⟨p, 0⟩
  unborn : s.command id = Option.none
  mine : ∃ row, (s.commands id).visible ⟨p, 0⟩ = some row ∧ row.idempotencyKey = key
  rest : ∀ j, j ≠ id → Continues (s.command j) ((s.commands j).visible ⟨p, 0⟩) ∧
    ∀ row, (s.commands j).visible ⟨p, 0⟩ = some row → row.status ≠ .pending

/-- It has registered the command, and not yet sent it. -/
structure RegisteredCommand (p key id : Nat) (s : Db) : Prop extends Unheld p s, Unsent p s where
  event : ∃ action, .registered p id key action ∈ s.log

/-- What it has written carries on what is there. -/
structure Carrying (p : Nat) (s : Db) : Prop where
  rows : ∀ i, Continues (s.command i) ((s.commands i).visible ⟨p, 0⟩)

section Stable

variable {p key id : Nat} {only : Option Nat} {s s' : Db}

theorem visible_of_unlocked {i : Nat} (h : ¬ (s.commands i).locked ⟨p, 0⟩) :
    (s.commands i).visible ⟨p, 0⟩ = s.command i := Cell.visible_of_not_locked h

theorem Unheld.rows (h : ∀ i, ¬ (s.commands i).locked ⟨p, 0⟩) (i : Nat) :
    Continues (s.command i) ((s.commands i).visible ⟨p, 0⟩) := by
  rw [visible_of_unlocked (h i)]
  exact Continues.refl _

theorem Unsent.spared (h : Unsent p s) (hs : Spared p s s') : Unsent p s' :=
  ⟨fun i key he => h.none i key (hs.posts i key he)⟩

/-- What carries on what is there goes on doing so. -/
theorem Spared.continues (hs : Spared p s s') {i : Nat}
    (h : Continues (s.command i) ((s.commands i).visible ⟨p, 0⟩)) :
    Continues (s'.command i) ((s'.commands i).visible ⟨p, 0⟩) := by
  by_cases hl : (s.commands i).locked ⟨p, 0⟩
  · unfold Db.command
    rw [hs.locked i hl]
    exact h
  · rw [visible_of_unlocked (hs.unlocked i hl)]
    exact Continues.refl _

/-- Nothing becomes pending in the eyes of one who holds the advisory lock. -/
theorem Spared.pending (hs : Spared p s s') (hlock : s.advisory = some ⟨p, 0⟩) {i : Nat}
    {row : DemoCommand} (hrow : (s'.commands i).visible ⟨p, 0⟩ = some row)
    (hpending : row.status = .pending) :
    ∃ row', (s.commands i).visible ⟨p, 0⟩ = some row' ∧ row'.status = .pending := by
  by_cases hl : (s.commands i).locked ⟨p, 0⟩
  · rw [hs.locked i hl] at hrow
    exact ⟨row, hrow, hpending⟩
  · rw [visible_of_unlocked (hs.unlocked i hl)] at hrow
    obtain ⟨row', hrow', -, hwas⟩ := (hs.rows hlock i).of_some hrow
    rw [visible_of_unlocked hl]
    exact ⟨row', hrow', hwas hpending⟩

theorem Spared.fresh (hs : Spared p s s') (hlock : s.advisory = some ⟨p, 0⟩)
    (h : ∀ i row, s.command i = some row → row.idempotencyKey ≠ key) :
    ∀ i row, s'.command i = some row → row.idempotencyKey ≠ key := by
  intro i row hrow
  obtain ⟨row', hrow', hkey, -⟩ := (hs.rows hlock i).of_some hrow
  rw [hkey]
  exact h i row' hrow'

theorem stable_unheld : consoleProtocol.Stable p (Unheld p) := by
  intro s s' _ h hother
  have hs := spared_of_other hother
  exact ⟨fun i => hs.unlocked i (h.unlocked i), fun hadv => h.advisory (hs.advisory.mp hadv)⟩

theorem stable_unsent : consoleProtocol.Stable p (Unsent p) :=
  fun _ _ _ h hother => h.spared (spared_of_other hother)

theorem stable_holding : consoleProtocol.Stable p (Holding p) := by
  intro s s' _ h hother
  have hs := spared_of_other hother
  exact ⟨h.toUnsent.spared hs, hs.advisory.mpr h.lock, fun i => hs.unlocked i (h.unlocked i)⟩

theorem Registering.spared (h : Registering p key s) (hs : Spared p s s') :
    Registering p key s' :=
  ⟨h.toUnsent.spared hs, hs.advisory.mpr h.lock, hs.fresh h.lock h.fresh,
    fun i => hs.continues (h.rows i)⟩

theorem stable_onlyPending : consoleProtocol.Stable p (OnlyPending p key only) := by
  intro s s' _ h hother
  have hs := spared_of_other hother
  refine ⟨h.toRegistering.spared hs, ?_⟩
  intro i row hrow hpending
  obtain ⟨row', hrow', hpending'⟩ := hs.pending h.lock hrow hpending
  exact h.only i row' hrow' hpending'

theorem stable_added : consoleProtocol.Stable p (AddedCommand p key id) := by
  intro s s' _ h hother
  have hs := spared_of_other hother
  have hsame := hs.locked id h.locked
  refine ⟨h.toUnsent.spared hs, hs.advisory.mpr h.lock, hs.fresh h.lock h.fresh, ?_, ?_, ?_, ?_⟩
  · rw [hsame]
    exact h.locked
  · unfold Db.command
    rw [hsame]
    exact h.unborn
  · rw [hsame]
    exact h.mine
  · intro j hj
    refine ⟨hs.continues (h.rest j hj).1, ?_⟩
    intro row hrow hpending
    obtain ⟨row', hrow', hpending'⟩ := hs.pending h.lock hrow hpending
    exact (h.rest j hj).2 row' hrow' hpending'

theorem stable_registeredCommand : consoleProtocol.Stable p (RegisteredCommand p key id) := by
  intro s s' hinv h hother
  have hs := spared_of_other hother
  obtain ⟨action, he⟩ := h.event
  have hun := stable_unheld s s' hinv h.toUnheld hother
  exact ⟨hun, (h.toUnsent.spared hs), ⟨action, hs.registered id key action he⟩⟩

theorem stable_carrying : consoleProtocol.Stable p (Carrying p) := by
  intro s s' _ h hother
  exact ⟨fun i => (spared_of_other hother).continues (h.rows i)⟩

end Stable

/-! ### The statements -/

section Statements

variable {p key id : Nat} {only : Option Nat} {s : Db}

/-- A step that leaves the commands alone. -/
theorem CommandAct.idle {s' : Db} (hcommands : s'.commands = s.commands)
    (hids : s'.commandIds = s.commandIds) (hadvisory : s'.advisory = s.advisory)
    (hlog : s'.log = s.log) : CommandAct p s s' := by
  refine CommandAct.quiet ⟨?_, ?_, ?_⟩ ?_ ⟨[], hlog, by simp⟩
  · intro i
    rw [hcommands]
    exact Cell.Step.same _
  · intro i hi
    rw [hids]
    exact hi
  · intro u _
    rw [hadvisory]
  · intro i
    unfold Db.command
    rw [hcommands]
    exact Continues.refl _

theorem CommandAct.rollback (s : Db) : CommandAct p s (s.rollback ⟨p, 0⟩) := by
  refine CommandAct.quiet ⟨fun i => Cell.Step.rollback _, fun i hi => hi, ?_⟩ ?_ ⟨[], rfl, by simp⟩
  · exact fun u hu => advisory_rollback (fun heq => hu heq.symm)
  · intro i
    show Continues _ ((s.commands i).rollback ⟨p, 0⟩).committed
    rw [Cell.committed_rollback]
    exact Continues.refl _

/-- What a transaction has written that carries on what is there may be committed. -/
theorem CommandAct.commit (h : ∀ i, Continues (s.command i) ((s.commands i).visible ⟨p, 0⟩)) :
    CommandAct p s ((s.commit ⟨p, 0⟩).record []) := by
  refine CommandAct.quiet ⟨fun i => Cell.Step.commit _, fun i hi => hi, ?_⟩ ?_ ⟨[], rfl, by simp⟩
  · exact fun u hu => advisory_rollback (s := s) (fun heq => hu heq.symm)
  · intro i
    show Continues _ ((s.commands i).commit ⟨p, 0⟩).committed
    rw [Cell.committed_commit]
    exact h i

theorem unheld_rollback (s : Db) : Unheld p (s.rollback ⟨p, 0⟩) := by
  refine ⟨fun i hl => (Cell.locked_rollback hl).1 rfl, ?_⟩
  show (if s.advisory = some ⟨p, 0⟩ then none else s.advisory) ≠ some ⟨p, 0⟩
  split
  · simp
  · assumption

theorem unheld_commit (s : Db) (evs : List Event) :
    Unheld p ((s.commit ⟨p, 0⟩).record evs) := by
  refine ⟨fun i hl => (Cell.locked_commit hl).1 rfl, ?_⟩
  show (if s.advisory = some ⟨p, 0⟩ then none else s.advisory) ≠ some ⟨p, 0⟩
  split
  · simp
  · assumption

/-- A command in sight is listed under its own name. -/
theorem CommandInv.visible (hinv : CommandInv s) {i : Nat} {row : DemoCommand}
    (h : (s.commands i).visible ⟨p, 0⟩ = some row) : i ∈ s.commandIds ∧ row.id = i :=
  hinv.listed i row (Cell.mem_chain_of_view (Cell.visible_mem h))

theorem mem_commandsWhere {t : TxId} {test : DemoCommand → Bool} {row : DemoCommand} :
    row ∈ s.commandsWhere t test ↔
      (∃ i ∈ s.commandIds, (s.commands i).visible t = some row) ∧ test row = true := by
  unfold Db.commandsWhere
  rw [List.mem_filter, List.mem_filterMap]

theorem not_test_of_head {test : DemoCommand → Bool} (hinv : CommandInv s)
    (h : (s.commandsWhere ⟨p, 0⟩ test).head? = none) {i : Nat} {row : DemoCommand}
    (hrow : (s.commands i).visible ⟨p, 0⟩ = some row) : test row = false := by
  rw [List.head?_eq_none_iff] at h
  by_contra hne
  have hmem : row ∈ s.commandsWhere ⟨p, 0⟩ test :=
    mem_commandsWhere.mpr ⟨⟨i, (hinv.visible hrow).1, hrow⟩, by simpa using hne⟩
  rw [h] at hmem
  simp at hmem

theorem lockCommands_triple :
    consoleProtocol.Triple p (fun s => Unheld p s ∧ Unsent p s) (lockCommands ⟨p, 0⟩)
      (fun _ => Holding p) (fun _ _ => True) := by
  refine triple_sql (stable_unheld.and stable_unsent)
    (fun s _ _ => CommandAct.idle rfl rfl rfl rfl) (fun _ _ _ => trivial) ?_
  intro s r s' _ hR hf _
  split at hf
  · rename_i hfree
    simp only [Option.some.injEq, Prod.mk.injEq] at hf
    obtain ⟨rfl, rfl⟩ := hf
    refine ⟨CommandAct.quiet ⟨fun i => Cell.Step.same _, fun i hi => hi, ?_⟩
      (fun i => Continues.refl _) ⟨[], rfl, by simp⟩, ⟨⟨hR.2.none⟩, rfl, hR.1.unlocked⟩⟩
    intro u hu
    have hne : (⟨p, 0⟩ : TxId) ≠ u := fun heq => hu heq.symm
    rcases hfree with hfree | hfree
    · rw [hfree]
      simp [hne]
    · rw [hfree]
  · simp at hf

/-- Whether there is a command of the key. -/
theorem selectKey_triple :
    consoleProtocol.Triple p (Holding p)
      (selectCommand ⟨p, 0⟩ fun row => decide (row.idempotencyKey = key))
      (fun found s => Holding p s ∧ (found = none → Registering p key s)) (fun _ _ => True) := by
  refine triple_select stable_holding (fun s _ _ => CommandAct.idle rfl rfl rfl rfl)
    (fun _ _ _ => trivial) ?_
  intro s hinv h
  refine ⟨h, fun hnone => ⟨h.toUnsent, h.lock, ?_, Unheld.rows h.unlocked⟩⟩
  intro i row hrow
  rw [← visible_of_unlocked (h.unlocked i)] at hrow
  have := not_test_of_head hinv hnone hrow
  simpa using this

/-- Whether a command is pending, which only one can be. -/
theorem selectPending_triple :
    consoleProtocol.Triple p (fun s => Holding p s ∧ Registering p key s)
      (selectCommand ⟨p, 0⟩ DemoCommand.isPending)
      (fun found s => (∀ row, found = some row → row.status = .pending) ∧
        OnlyPending p key (found.map DemoCommand.id) s) (fun _ _ => True) := by
  have hst : consoleProtocol.Stable p (fun s => Holding p s ∧ Registering p key s) :=
    stable_holding.and (fun _ _ _ h hother => h.spared (spared_of_other hother))
  refine triple_select hst (fun s _ _ => CommandAct.idle rfl rfl rfl rfl)
    (fun _ _ _ => trivial) ?_
  intro s hinv h
  refine ⟨?_, h.2, ?_⟩
  · intro row hrow
    have hmem := List.mem_of_head? (by rw [hrow]; rfl : row ∈ (s.commandsWhere _ _).head?)
    simpa [DemoCommand.isPending] using (mem_commandsWhere.mp hmem).2
  · intro i row hrow hpending
    cases hfound : (s.commandsWhere ⟨p, 0⟩ DemoCommand.isPending).head? with
    | none =>
        have := not_test_of_head hinv hfound hrow
        simp [DemoCommand.isPending, hpending] at this
    | some first =>
        have hmem := List.mem_of_head? (by rw [hfound]; rfl : first ∈ (s.commandsWhere _ _).head?)
        obtain ⟨⟨j, -, hj⟩, hfirst⟩ := mem_commandsWhere.mp hmem
        rw [Option.map_some, (hinv.visible hj).2]
        rw [visible_of_unlocked (h.1.unlocked _)] at hrow hj
        rw [hinv.pending i j row first hrow hj hpending
          (by simpa [DemoCommand.isPending] using hfirst)]

/-- A row is written that is there already, in the eyes of `p`. -/
theorem CommandAct.update {i : Nat} {row new : DemoCommand} {evs : List Event}
    (hinv : CommandInv s) (hrow : (s.commands i).visible ⟨p, 0⟩ = some row)
    (hfree : (s.commands i).free ⟨p, 0⟩ = true) (hid : new.id = row.id)
    (hevs : ∀ e ∈ evs, ∃ j, e = .answered p j) :
    CommandAct p s ((s.setCommand i ((s.commands i).write ⟨p, 0⟩ (some new))).record evs) := by
  refine CommandAct.quiet ⟨?_, fun j hj => hj, fun _ _ => Iff.rfl⟩ ?_ ⟨evs, rfl, hevs⟩
  · intro j
    show Cell.Step _ _ _ (Function.update s.commands i _ j)
    by_cases hj : j = i
    · subst hj
      rw [Function.update_self]
      refine Cell.Step.write _ _ hfree ⟨?_, ?_⟩
      · intro hnone
        rw [hnone] at hrow
        cases hrow
      · intro row' hrow'
        simp only [Option.some.injEq] at hrow'
        rw [← hrow', hid]
        exact (hinv.visible hrow).2
    · rw [Function.update_of_ne hj]
      exact Cell.Step.same _
  · intro j
    show Continues _ (Function.update s.commands i _ j).committed
    by_cases hj : j = i
    · subst hj
      rw [Function.update_self]
      exact Continues.refl _
    · rw [Function.update_of_ne hj]
      exact Continues.refl _

/-- What `p` sees after a write. -/
theorem visible_setCommand (s : Db) (i j : Nat) (new : Option DemoCommand) (evs : List Event) :
    (((s.setCommand i ((s.commands i).write ⟨p, 0⟩ new)).record evs).commands j).visible ⟨p, 0⟩ =
      if j = i then new else (s.commands j).visible ⟨p, 0⟩ := by
  show (Function.update s.commands i _ j).visible ⟨p, 0⟩ = _
  by_cases hj : j = i
  · subst hj
    rw [Function.update_self, Cell.visible_write, if_pos rfl]
  · rw [Function.update_of_ne hj, if_neg hj]

theorem command_setCommand (s : Db) (i j : Nat) (new : Option DemoCommand) (evs : List Event) :
    ((s.setCommand i ((s.commands i).write ⟨p, 0⟩ new)).record evs).command j = s.command j := by
  show (Function.update s.commands i _ j).committed = _
  by_cases hj : j = i
  · subst hj
    rw [Function.update_self]
    rfl
  · rw [Function.update_of_ne hj]
    rfl

/-- A flush carries on the row that it changes, unless it makes it pending. -/
theorem Continues.flushed {row : Option DemoCommand} {old loaded changed : DemoCommand}
    (h : Continues row (some old))
    (hstatus : changed.status = .pending → changed.status = loaded.status) :
    Continues row (some (DemoCommand.flushed loaded changed old)) := by
  cases row with
  | none => exact h.elim
  | some u =>
      refine ⟨h.1, ?_⟩
      intro hpending
      simp only [DemoCommand.flushed] at hpending
      split at hpending
      · exact h.2 hpending
      · rename_i hne
        exact absurd (hstatus hpending) hne

theorem continues_setCommand {i : Nat} {old loaded changed : DemoCommand} {evs : List Event}
    (h : ∀ j, Continues (s.command j) ((s.commands j).visible ⟨p, 0⟩))
    (hrow : (s.commands i).visible ⟨p, 0⟩ = some old)
    (hstatus : changed.status = .pending → changed.status = loaded.status) (j : Nat) :
    Continues
      (((s.setCommand i ((s.commands i).write ⟨p, 0⟩
        (some (DemoCommand.flushed loaded changed old)))).record evs).command j)
      ((((s.setCommand i ((s.commands i).write ⟨p, 0⟩
        (some (DemoCommand.flushed loaded changed old)))).record evs).commands j).visible
          ⟨p, 0⟩) := by
  rw [command_setCommand, visible_setCommand]
  by_cases hj : j = i
  · rw [if_pos hj, hj]
    have hi := h i
    rw [hrow] at hi
    exact hi.flushed hstatus
  · rw [if_neg hj]
    exact h j

/-- A flush that changes something writes the row that it finds, or fails. -/
theorem flush_triple {M N : Db → Prop} {loaded changed : DemoCommand} {evs : List Event}
    (hst : consoleProtocol.Stable p M) (hevs : ∀ e ∈ evs, ∃ j, e = .answered p j)
    (hflush : ∀ s old, M s → (s.commands loaded.id).visible ⟨p, 0⟩ = some old →
      N ((s.setCommand loaded.id ((s.commands loaded.id).write ⟨p, 0⟩
        (some (DemoCommand.flushed loaded changed old)))).record evs))
    (hchanged : changed ≠ loaded) :
    consoleProtocol.Triple p M (flushCommand ⟨p, 0⟩ loaded changed evs) (fun _ => N)
      (fun _ _ => True) := by
  unfold flushCommand
  rw [if_neg hchanged]
  refine triple_sql hst (fun s _ _ => CommandAct.idle rfl rfl rfl rfl) (fun _ _ _ => trivial) ?_
  intro s r s' hinv h hf _
  simp only at hf
  split at hf
  · simp only [Option.some.injEq, Prod.mk.injEq] at hf
    obtain ⟨rfl, rfl⟩ := hf
    exact ⟨CommandAct.idle rfl rfl rfl rfl, trivial⟩
  · rename_i old hold
    split at hf
    · rename_i hfree
      simp only [Option.some.injEq, Prod.mk.injEq] at hf
      obtain ⟨rfl, rfl⟩ := hf
      exact ⟨CommandAct.update hinv hold hfree rfl hevs, hflush s old h hold⟩
    · simp at hf

/-- The demotion of the one command that is pending. -/
theorem demote_triple {pending : DemoCommand} (hpending : pending.status = .pending) :
    consoleProtocol.Triple p (OnlyPending p key (some pending.id))
      (flushCommand ⟨p, 0⟩ pending { pending with status := .uncertain })
      (fun _ => OnlyPending p key none) (fun _ _ => True) := by
  have hchanged : ({ pending with status := .uncertain } : DemoCommand) ≠ pending := by
    intro heq
    have := congrArg DemoCommand.status heq
    rw [hpending] at this
    cases this
  refine flush_triple stable_onlyPending (by simp) ?_ hchanged
  intro s old h hold
  refine ⟨⟨⟨h.none⟩, h.lock, ?_, continues_setCommand h.rows hold (by simp)⟩, ?_⟩
  · intro i row hrow
    rw [command_setCommand] at hrow
    exact h.fresh i row hrow
  · intro i row hrow hstatus
    rw [visible_setCommand] at hrow
    by_cases hi : i = pending.id
    · rw [if_pos hi] at hrow
      simp only [Option.some.injEq] at hrow
      rw [← hrow] at hstatus
      simp [DemoCommand.flushed, hpending] at hstatus
    · rw [if_neg hi] at hrow
      have := h.only i row hrow hstatus
      simp only [Option.some.injEq] at this
      exact absurd this hi

theorem flushCommand_triple {loaded changed : DemoCommand} {evs : List Event}
    (hstatus : changed.status = .pending → changed.status = loaded.status)
    (hevs : ∀ e ∈ evs, ∃ j, e = .answered p j) :
    consoleProtocol.Triple p (Carrying p) (flushCommand ⟨p, 0⟩ loaded changed evs)
      (fun _ => Carrying p) (fun _ _ => True) := by
  by_cases hsame : changed = loaded
  · unfold flushCommand
    rw [if_pos hsame]
    exact triple_pure () (fun _ _ h => h)
  · refine flush_triple stable_carrying hevs ?_ hsame
    intro s old h hold
    exact ⟨continues_setCommand h.rows hold hstatus⟩

theorem insertCommand_triple {command : DemoCommand} (hkey : command.idempotencyKey = key) :
    consoleProtocol.Triple p (OnlyPending p key none) (insertCommand ⟨p, 0⟩ command)
      (fun _ => AddedCommand p key command.id) (fun _ _ => True) := by
  refine triple_sql stable_onlyPending (fun s _ _ => CommandAct.idle rfl rfl rfl rfl)
    (fun _ _ _ => trivial) ?_
  intro s r s' hinv h hf _
  simp only at hf
  split at hf
  · simp at hf
  · rename_i hfree
    simp only [Bool.or_eq_true, not_or, Bool.not_eq_true', Bool.not_eq_false] at hfree
    split at hf
    · simp only [Option.some.injEq, Prod.mk.injEq] at hf
      obtain ⟨rfl, rfl⟩ := hf
      exact ⟨CommandAct.idle rfl rfl rfl rfl, trivial⟩
    · rename_i habsent
      simp only [Bool.or_eq_true, not_or, Bool.not_eq_true, Option.isSome_eq_false_iff,
        Option.isNone_iff_eq_none] at habsent
      simp only [Option.some.injEq, Prod.mk.injEq] at hf
      obtain ⟨rfl, rfl⟩ := hf
      have hcommand : ∀ j, (({ s.setCommand command.id
          ((s.commands command.id).write ⟨p, 0⟩ (some command)) with
            commandIds := command.id :: s.commandIds } : Db).command j) = s.command j :=
        fun j => command_setCommand s command.id j (some command) []
      have hvisible : ∀ j, ((({ s.setCommand command.id
          ((s.commands command.id).write ⟨p, 0⟩ (some command)) with
            commandIds := command.id :: s.commandIds } : Db).commands j).visible ⟨p, 0⟩) =
          if j = command.id then some command else (s.commands j).visible ⟨p, 0⟩ :=
        fun j => visible_setCommand s command.id j (some command) []
      refine ⟨CommandAct.quiet ⟨?_, fun j hj => List.mem_cons_of_mem _ hj, fun _ _ => Iff.rfl⟩ ?_
        ⟨[], rfl, by simp⟩, ⟨⟨h.none⟩, h.lock, ?_, ?_, ?_, ?_, ?_⟩⟩
      · intro j
        show Cell.Step _ _ _ (Function.update s.commands command.id _ j)
        by_cases hj : j = command.id
        · rw [hj, Function.update_self]
          refine Cell.Step.write _ _ hfree.1 ⟨fun _ => List.mem_cons_self, ?_⟩
          intro row hrow
          simp only [Option.some.injEq] at hrow
          rw [hrow]
        · rw [Function.update_of_ne hj]
          exact Cell.Step.same _
      · intro j
        rw [hcommand]
        exact Continues.refl _
      · intro i row hrow
        rw [hcommand] at hrow
        exact h.fresh i row hrow
      · show (Function.update s.commands command.id _ command.id).locked _
        rw [Function.update_self]
        exact Cell.locked_write _
      · rw [hcommand]
        have hrows := h.rows command.id
        rw [habsent.1] at hrows
        cases hc : s.command command.id with
        | none => rfl
        | some row =>
            rw [hc] at hrows
            exact hrows.elim
      · refine ⟨command, ?_, hkey⟩
        rw [hvisible, if_pos rfl]
      · intro j hj
        rw [hcommand, hvisible, if_neg hj]
        refine ⟨h.rows j, ?_⟩
        intro row hrow hpending
        have := h.only j row hrow hpending
        cases this

/-! ### The transactions

Each transaction is followed from its first statement to its commit, with what it knows at each
point.
-/

/-- A block in a transaction: `M` is what it knows when it is about to commit. -/
theorem console_unitOfWork {α : Type} {actor : String} {body : Prog α} {seen : α → List Event}
    {R : Db → Prop} {M Q : α → Db → Prop} (hR : consoleProtocol.Stable p R)
    (hstart : ∀ s, R s → R (s.started ⟨p, 0⟩)) (hheld : ∀ s, R s → Unheld p s)
    (hM : ∀ a, consoleProtocol.Stable p (M a))
    (hbody : consoleProtocol.Triple p R body M (fun _ _ => True))
    (hcommit : ∀ a s, CommandInv s → M a s →
      CommandAct p s ((s.commit ⟨p, 0⟩).record (seen a)) ∧
        Q a ((s.commit ⟨p, 0⟩).record (seen a))) :
    consoleProtocol.Triple p R (unitOfWork ⟨p, 0⟩ actor body seen) Q (fun _ => Unheld p) := by
  refine triple_unitOfWork (B := R) (F := fun _ => True) (G := Unheld p) (M := M) ?_ hbody
    (fun a => ?_) ?_ (fun s _ h => hheld s h)
  · exact triple_beginTx hR (fun s _ _ => CommandAct.idle rfl rfl rfl rfl) (fun _ _ _ => trivial)
      (fun s _ h _ => ⟨CommandAct.idle rfl rfl rfl rfl, hstart s h⟩)
  · exact triple_commitTx (hM a) (fun s _ _ _ => ⟨CommandAct.rollback s, trivial⟩)
      (fun s hinv h _ => hcommit a s hinv h)
  · exact triple_rollbackTx (stable_const True)
      (fun s _ _ _ => ⟨CommandAct.rollback s, unheld_rollback s⟩)

theorem admitInject_triple :
    consoleProtocol.Triple p (OnlyPending p key none) (admitInject ⟨p, 0⟩)
      (fun _ => OnlyPending p key none) (fun _ _ => True) := by
  unfold admitInject selectCommand
  refine Triple.bind (M := fun _ => OnlyPending p key none)
    (triple_select stable_onlyPending (fun s _ _ => CommandAct.idle rfl rfl rfl rfl)
      (fun _ _ _ => trivial) (fun s _ h => h)) (fun uncertain => ?_)
  refine Triple.bind (M := fun _ => OnlyPending p key none)
    (triple_check (fun _ _ _ _ h => h) (fun _ _ _ _ _ => trivial)) (fun _ => ?_)
  refine triple_stmt stable_onlyPending ?_
  intro s w r s' _ h hf _
  simp only [Option.some.injEq, Prod.mk.injEq] at hf
  obtain ⟨rfl, rfl⟩ := hf
  refine ⟨CommandAct.idle rfl rfl rfl rfl, ?_⟩
  cases checkFaults w.faults with
  | ok u => exact h
  | error e => trivial

theorem addCommand_triple {actor : String} {body : FaultCommand}
    (hkey : body.idempotencyKey = key) :
    consoleProtocol.Triple p (OnlyPending p key none) (addCommand ⟨p, 0⟩ actor body)
      (fun a s => ∃ id, a = .registered id ∧ AddedCommand p key id s) (fun _ _ => True) := by
  unfold addCommand
  refine Triple.bind (M := fun _ => OnlyPending p key none) (triple_uuid4 stable_onlyPending ?_)
    (fun id => ?_)
  · intro s _ h _
    exact ⟨CommandAct.idle rfl rfl rfl rfl, ⟨⟨⟨h.none⟩, h.lock, h.fresh, h.rows⟩, h.only⟩⟩
  refine Triple.bind (M := fun _ => OnlyPending p key none)
    (triple_select stable_onlyPending (fun s _ _ => CommandAct.idle rfl rfl rfl rfl)
      (fun _ _ _ => trivial) (fun s _ h => h)) (fun now => ?_)
  refine Triple.bind (insertCommand_triple ?_) (fun _ => triple_pure _ (fun s _ h => ⟨id, rfl, h⟩))
  exact hkey

/-- What a registration knows when it is about to commit. -/
def Registration.known (p key : Nat) : Registration → Db → Prop
  | .existing _ => Holding p
  | .registered id => AddedCommand p key id

theorem registerCommand_triple {actor : String} {body : FaultCommand}
    (hkey : body.idempotencyKey = key) :
    consoleProtocol.Triple p (fun s => Unheld p s ∧ Unsent p s)
      (registerCommand ⟨p, 0⟩ actor body) (Registration.known p key) (fun _ _ => True) := by
  have hadd : consoleProtocol.Triple p (OnlyPending p key none) (addCommand ⟨p, 0⟩ actor body)
      (Registration.known p key) (fun _ _ => True) := by
    refine (addCommand_triple hkey).conseq (fun _ _ h => h) ?_ (fun _ _ _ h => h)
    rintro a s _ ⟨id, rfl, h⟩
    exact h
  unfold registerCommand
  refine Triple.bind lockCommands_triple (fun _ => ?_)
  rw [hkey]
  refine Triple.bind selectKey_triple (fun existing => ?_)
  cases existing with
  | some existing =>
      refine triple_check ?_ (fun _ _ _ _ _ => trivial)
      intro a s ha _ h
      unfold checkExisting at ha
      split at ha
      · cases ha
      · cases ha
        exact h.1
  | none =>
      refine Triple.bind (selectPending_triple.pre (fun s _ h => ⟨h.1, h.2 rfl⟩))
        (fun pending => triple_fact (fun hpending => ?_))
      cases pending with
      | some pending =>
          refine Triple.bind (M := fun _ => OnlyPending p key (some pending.id))
            (triple_datetimeNow stable_onlyPending (fun s _ _ => CommandAct.idle rfl rfl rfl rfl)
              (fun s _ h => h)) (fun now => ?_)
          refine Triple.bind (M := fun _ => OnlyPending p key (some pending.id))
            (triple_check (fun _ _ _ _ h => h) (fun _ _ _ _ _ => trivial)) (fun _ => ?_)
          exact Triple.bind (demote_triple (hpending pending rfl)) (fun _ => hadd)
      | none =>
          by_cases haction : body.action = .inject
          · simp only [if_pos haction]
            exact Triple.bind admitInject_triple (fun _ => hadd)
          · simp only [if_neg haction]
            exact hadd

theorem reconcileCommands_triple (commandId : Nat) (uncertain : List DemoCommand) :
    consoleProtocol.Triple p (Carrying p) (reconcileCommands ⟨p, 0⟩ commandId uncertain)
      (fun _ => Carrying p) (fun _ _ => True) := by
  induction uncertain with
  | nil => exact triple_pure () (fun _ _ h => h)
  | cons prior rest ih =>
      exact Triple.bind (flushCommand_triple (fun _ => rfl) (by simp)) (fun _ => ih)

theorem finalizeCommand_triple {body : FaultCommand} {commandId : Nat} {payload : JsonObject}
    {status : DemoStatus} (hstatus : status ≠ .pending) :
    consoleProtocol.Triple p (Carrying p) (finalizeCommand ⟨p, 0⟩ body commandId payload status)
      (fun _ => Carrying p) (fun _ _ => True) := by
  unfold finalizeCommand
  refine Triple.bind (M := fun _ => Carrying p)
    (triple_select stable_carrying (fun s _ _ => CommandAct.idle rfl rfl rfl rfl)
      (fun _ _ _ => trivial) (fun s _ h => h)) (fun found => ?_)
  cases found with
  | none => exact triple_throw _ (fun _ _ _ => trivial)
  | some item =>
      refine Triple.bind (flushCommand_triple (fun hp => absurd hp hstatus) (by simp)) (fun _ => ?_)
      by_cases hclear : body.action = .clear ∧ status = .succeeded
      · simp only [if_pos hclear]
        refine Triple.bind (M := fun _ => Carrying p)
          (triple_select stable_carrying (fun s _ _ => CommandAct.idle rfl rfl rfl rfl)
            (fun _ _ _ => trivial) (fun s _ h => h)) (fun uncertain => ?_)
        exact Triple.bind (reconcileCommands_triple commandId uncertain)
          (fun _ => triple_pure _ (fun _ _ h => h))
      · simp only [if_neg hclear]
        exact triple_pure _ (fun _ _ h => h)

/-- What a registration leaves behind. -/
def Registration.left (p key : Nat) : Registration → Db → Prop
  | .existing _ => Unheld p
  | .registered id => RegisteredCommand p key id

theorem register_commit {action : FaultAction} (h : AddedCommand p key id s) :
    CommandAct p s ((s.commit ⟨p, 0⟩).record [.registered p id key action]) ∧
      RegisteredCommand p key id ((s.commit ⟨p, 0⟩).record [.registered p id key action]) := by
  have hcommand : ∀ j, ((s.commit ⟨p, 0⟩).record [.registered p id key action]).command j =
      (s.commands j).visible ⟨p, 0⟩ := fun j => Cell.committed_commit
  refine ⟨CommandAct.register id key action ⟨fun i => Cell.Step.commit _, fun i hi => hi, ?_⟩
    h.lock h.fresh ?_ ?_ h.unborn rfl, unheld_commit s _, ⟨?_⟩, ⟨action, List.mem_cons_self⟩⟩
  · exact fun u hu => advisory_rollback (s := s) (fun heq => hu heq.symm)
  · rw [hcommand]
    exact h.mine
  · intro j hj
    rw [hcommand]
    exact h.rest j hj
  · intro i k he
    rcases List.mem_cons.mp he with heq | he
    · cases heq
    · exact h.none i k he

theorem postCommand_triple :
    consoleProtocol.Triple p (RegisteredCommand p key id) (postCommand p id key)
      (fun outcome s => outcome.2 ≠ .pending ∧ Unheld p s) (fun _ => Unheld p) := by
  unfold postCommand
  refine Triple.bind (M := fun _ => Unheld p) (triple_observe stable_registeredCommand ?_)
    (fun _ => ?_)
  · intro s _ h _
    obtain ⟨action, he⟩ := h.event
    exact ⟨CommandAct.post id key action he h.none rfl, ⟨h.unlocked, h.advisory⟩⟩
  · refine triple_stmt stable_unheld ?_
    intro s w r s' _ h hf _
    simp only [Option.some.injEq, Prod.mk.injEq] at hf
    obtain ⟨rfl, rfl⟩ := hf
    refine ⟨CommandAct.idle rfl rfl rfl rfl, ?_⟩
    cases w.command with
    | succeeded payload => exact ⟨by simp, h⟩
    | failed => exact ⟨by simp, h⟩
    | raised e => exact h

theorem demoCommand_triple (settings : DemoSettings) (username : String) (body : FaultCommand) :
    consoleProtocol.Triple p (fun s => Unheld p s ∧ Unsent p s)
      (demoCommand p settings username body) (fun _ => Unheld p) (fun _ => Unheld p) := by
  unfold demoCommand
  by_cases hoff : (!settings.demoControlsEnabled || settings.production) = true
  · simp only [if_pos hoff]
    exact triple_throw_bind (fun s _ h => h.1)
  simp only [if_neg hoff]
  refine Triple.bind (console_unitOfWork (R := fun s => Unheld p s ∧ Unsent p s)
    (M := Registration.known p body.idempotencyKey) (Q := Registration.left p body.idempotencyKey)
    (stable_unheld.and stable_unsent) ?_ (fun _ h => h.1) ?_ (registerCommand_triple rfl) ?_)
    (fun registration => ?_)
  · exact fun s h => ⟨⟨h.1.unlocked, h.1.advisory⟩, ⟨h.2.none⟩⟩
  · intro a
    cases a with
    | existing command => exact stable_holding
    | registered id => exact stable_added
  · intro a s _ h
    cases a with
    | existing command =>
        exact ⟨CommandAct.commit (Unheld.rows h.unlocked), unheld_commit s _⟩
    | registered id => exact register_commit h
  · cases registration with
    | existing command => exact triple_pure _ (fun _ _ h => h)
    | registered id =>
        refine Triple.bind postCommand_triple (fun outcome => triple_fact (fun hstatus => ?_))
        exact console_unitOfWork (M := fun _ => Carrying p) stable_unheld
          (fun s h => ⟨h.unlocked, h.advisory⟩) (fun _ h => h) (fun _ => stable_carrying)
          ((finalizeCommand_triple hstatus).pre (fun s _ h => ⟨Unheld.rows h.unlocked⟩))
          (fun a s _ h => ⟨CommandAct.commit h.rows, unheld_commit s _⟩)

end Statements

theorem consoleProtocol_rests : consoleProtocol.RestsIn Unheld where
  stable := fun p => stable_unheld
  crash := by
    intro p s _
    refine ⟨fun i hl => ?_, ?_⟩
    · exact (Cell.locked_rollback (Cell.locked_rollback hl).2).1 rfl
    · intro hadv
      have hback := (advisory_rollback (s := s.rollback ⟨p, 0⟩) (t := ⟨p, 1⟩) (u := ⟨p, 0⟩)
        (by simp)).mp hadv
      exact (unheld_rollback s).advisory hback
  safe := by
    intro p request s hinv hrest hready
    refine triple_ends (demoCommand_triple request.settings request.username request.body) hinv
      ⟨hrest, ⟨?_⟩⟩
    intro i key he
    exact hready _ he rfl

/-- Where a run of the console begins: any commands, of which one may be pending, and nothing
under way. -/
structure Db.CommandsIdle (db : Db) : Prop where
  log : db.log = []
  unlocked : ∀ i, (db.commands i).pending = none
  advisory : db.advisory = none
  listed : ∀ i row, some row ∈ (db.commands i).versions → i ∈ db.commandIds ∧ row.id = i
  pending : AtMostOnePending db

theorem Db.CommandsIdle.inv {db : Db} (h : db.CommandsIdle) : CommandInv db := by
  refine ⟨h.pending, ?_, ?_, ?_, ?_, ?_⟩
  · intro i row hrow
    unfold Cell.chain at hrow
    rw [h.unlocked i] at hrow
    exact h.listed i row hrow
  · intro p i key action he
    rw [h.log] at he
    simp at he
  · intro p q i j key a b he
    rw [h.log] at he
    simp at he
  · intro p i key he
    rw [h.log] at he
    simp at he
  · intro key
    rw [h.log]
    simp [posts]

theorem Db.CommandsIdle.unheld {db : Db} (h : db.CommandsIdle) (p : Nat) : Unheld p db := by
  refine ⟨?_, ?_⟩
  · rintro i ⟨vs, hvs⟩
    rw [h.unlocked i] at hvs
    cases hvs
  · rw [h.advisory]
    simp

/-! ### What an inject has read -/

section Reads

open Interleaving.Prog

def Event.isRegistration : Event → Bool
  | .registered _ _ _ _ => true
  | _ => false

/-- No registration is seen. -/
structure Unregistered (s s' : Db) : Prop where
  log : ∃ evs, s'.log = evs ++ s.log ∧ ∀ e ∈ evs, e.isRegistration = false

theorem unregistered_of_log {s s' : Db} (h : s'.log = s.log) : Unregistered s s' :=
  ⟨[], h, by simp⟩

theorem Unregistered.refl (s : Db) : Unregistered s s := unregistered_of_log rfl

theorem not_unregistered {p i key : Nat} {action : FaultAction} {s s' : Db}
    (h : s'.log = .registered p i key action :: s.log) : ¬ Unregistered s s' := by
  rintro ⟨evs, hlog, hevs⟩
  rw [h] at hlog
  have heq : [Event.registered p i key action] = evs := List.append_cancel_right hlog
  have := hevs (.registered p i key action) (by rw [← heq]; exact List.mem_cons_self)
  simp [Event.isRegistration] at this

variable {t : TxId}

theorem unregistered_flushCommand (loaded changed : DemoCommand) {evs : List Event}
    (hevs : ∀ e ∈ evs, e.isRegistration = false) :
    Within Unregistered (flushCommand t loaded changed evs) := by
  unfold flushCommand
  split
  · exact within_pure ()
  · refine sql_within Unregistered.refl ?_
    intro s r s' hf
    simp only at hf
    split at hf
    · simp only [Option.some.injEq, Prod.mk.injEq] at hf
      rw [← hf.2]
      exact Unregistered.refl s
    · split at hf
      · simp only [Option.some.injEq, Prod.mk.injEq] at hf
        rw [← hf.2]
        exact ⟨evs, rfl, hevs⟩
      · simp at hf

theorem unregistered_addCommand (actor : String) (body : FaultCommand) :
    Within Unregistered (addCommand t actor body) := by
  unfold addCommand
  refine Within.bind (within_stmt ?_) (fun id => ?_)
  · intro w s r s' hf
    simp only [Option.some.injEq, Prod.mk.injEq] at hf
    rw [← hf.2]
    exact unregistered_of_log rfl
  refine (select_within Unregistered.refl _).bind (fun now => ?_)
  refine Within.bind (sql_within Unregistered.refl ?_) (fun _ => within_pure _)
  intro s r s' hf
  simp only at hf
  split at hf
  · simp at hf
  · split at hf
    · simp only [Option.some.injEq, Prod.mk.injEq] at hf
      rw [← hf.2]
      exact Unregistered.refl s
    · simp only [Option.some.injEq, Prod.mk.injEq] at hf
      rw [← hf.2]
      exact unregistered_of_log rfl

theorem unregistered_registerCommand (actor : String) (body : FaultCommand) :
    Within Unregistered (registerCommand t actor body) := by
  unfold registerCommand
  refine Within.bind (sql_within Unregistered.refl ?_) (fun _ => ?_)
  · intro s r s' hf
    split at hf
    · simp only [Option.some.injEq, Prod.mk.injEq] at hf
      rw [← hf.2]
      exact unregistered_of_log rfl
    · simp at hf
  refine (select_within Unregistered.refl _).bind (fun existing => ?_)
  cases existing with
  | some existing => exact ⟨trivial⟩
  | none =>
      refine (select_within Unregistered.refl _).bind (fun pending => ?_)
      cases pending with
      | some pending =>
          refine (datetimeNow_within Unregistered.refl).bind (fun now => Within.bind ⟨trivial⟩
            (fun _ => ?_))
          exact (unregistered_flushCommand _ _ (by simp)).bind
            (fun _ => unregistered_addCommand actor body)
      | none =>
          by_cases haction : body.action = .inject
          · simp only [if_pos haction]
            refine Within.bind ?_ (fun _ => unregistered_addCommand actor body)
            unfold admitInject
            refine (select_within Unregistered.refl _).bind (fun _ => Within.bind ⟨trivial⟩
              (fun _ => within_stmt ?_))
            intro w s r s' hf
            simp only [Option.some.injEq, Prod.mk.injEq] at hf
            rw [← hf.2]
            exact Unregistered.refl s
          · simp only [if_neg haction]
            exact unregistered_addCommand actor body

theorem unregistered_reconcileCommands (commandId : Nat) (uncertain : List DemoCommand) :
    Within Unregistered (reconcileCommands t commandId uncertain) := by
  induction uncertain with
  | nil => exact within_pure ()
  | cons prior rest ih =>
      exact (unregistered_flushCommand _ _ (by simp)).bind (fun _ => ih)

theorem unregistered_finalizeCommand (body : FaultCommand) (commandId : Nat) (payload : JsonObject)
    (status : DemoStatus) :
    Within Unregistered (finalizeCommand t body commandId payload status) := by
  unfold finalizeCommand
  refine (select_within Unregistered.refl _).bind (fun found => ?_)
  cases found with
  | none => exact within_throw _
  | some item =>
      refine (unregistered_flushCommand _ _ (by simp [Event.isRegistration])).bind (fun _ => ?_)
      by_cases hclear : body.action = .clear ∧ status = .succeeded
      · simp only [if_pos hclear]
        refine (select_within Unregistered.refl _).bind (fun uncertain => ?_)
        exact (unregistered_reconcileCommands commandId uncertain).bind (fun _ => within_pure _)
      · simp only [if_neg hclear]
        exact within_pure _

theorem unregistered_postCommand (p commandId key : Nat) :
    Within Unregistered (postCommand p commandId key) := by
  unfold postCommand
  refine Within.bind (within_stmt ?_) (fun _ => within_stmt ?_)
  · intro w s r s' hf
    simp only [Option.some.injEq, Prod.mk.injEq] at hf
    rw [← hf.2]
    exact ⟨[.posted p commandId key], rfl, by simp [Event.isRegistration]⟩
  · intro w s r s' hf
    simp only [Option.some.injEq, Prod.mk.injEq] at hf
    rw [← hf.2]
    exact Unregistered.refl s

/-- The transaction has read that no command is pending, and after that, that none is left
uncertain. -/
def ReadClear (t : TxId) (steps : List (Db × Db)) : Prop :=
  ∃ l₁ s₁ l₂ s₂ l₃, steps = l₁ ++ (s₁, s₁) :: (l₂ ++ (s₂, s₂) :: l₃) ∧
    s₁.commandsWhere t DemoCommand.isPending = [] ∧
    s₂.commandsWhere t DemoCommand.unreconciled = []

/-- **The reads of an inject** that is about to be registered. -/
theorem took_registerCommand {actor : String} {body : FaultCommand} {steps : List (Db × Db)}
    {id : Nat} (haction : body.action = .inject)
    (h : (registerCommand t actor body).Took steps (.ok (.registered id))) :
    ReadClear t steps := by
  unfold registerCommand at h
  obtain ⟨-, l₁, r₁, rfl, -, h⟩ := took_bind_ok h
  obtain ⟨existing, l₂, r₂, rfl, -, h⟩ := took_bind_ok h
  cases existing with
  | some existing =>
      obtain ⟨-, h⟩ := took_check_ok h
      unfold checkExisting at h
      split at h
      · cases h
      · cases h
  | none =>
      obtain ⟨pending, l₃, r₃, rfl, hread, h⟩ := took_bind_ok h
      obtain ⟨s₁, rfl, hpending⟩ := took_select_ok hread
      cases pending with
      | some pending =>
          obtain ⟨now, l₄, r₄, rfl, -, h⟩ := took_bind_ok h
          obtain ⟨_u, l₅, r₅, rfl, hcheck, -⟩ := took_bind_ok h
          obtain ⟨-, hcheck⟩ := took_check_ok hcheck
          unfold checkPending at hcheck
          rw [haction, if_pos (Or.inl (by simp))] at hcheck
          cases hcheck
      | none =>
          simp only [if_pos haction] at h
          obtain ⟨_u, l₄, r₄, rfl, hadmit, -⟩ := took_bind_ok h
          unfold admitInject at hadmit
          obtain ⟨uncertain, l₅, r₅, rfl, hread', hrest⟩ := took_bind_ok hadmit
          obtain ⟨s₂, rfl, huncertain⟩ := took_select_ok hread'
          obtain ⟨_u, l₆, r₆, rfl, hcheck, -⟩ := took_bind_ok hrest
          obtain ⟨-, hcheck⟩ := took_check_ok hcheck
          refine ⟨l₁ ++ l₂, s₁, [], s₂, l₆ ++ r₆ ++ r₄, by simp, ?_, ?_⟩
          · exact List.head?_eq_none_iff.mp hpending.symm
          · cases uncertain with
            | none => exact List.head?_eq_none_iff.mp huncertain.symm
            | some command => cases hcheck

theorem began_demoCommand {p i key : Nat} {settings : DemoSettings} {username : String}
    {body : FaultCommand} {earlier : List (Db × Db)} {s s' : Db}
    (hlog : s'.log = .registered p i key .inject :: s.log)
    (h : (demoCommand p settings username body).Began (earlier ++ [(s, s')])) :
    ReadClear ⟨p, 0⟩ earlier := by
  have hnot := not_unregistered hlog
  have hsend : ∀ registration : Registration, Within Unregistered
      (match registration with
        | .existing command => pure command
        | .registered id => do
            let outcome ← postCommand p id body.idempotencyKey
            unitOfWork ⟨p, 0⟩ s!"user:{username}"
              (finalizeCommand ⟨p, 0⟩ body id outcome.1 outcome.2) : Prog DemoCommand) := by
    intro registration
    cases registration with
    | existing command => exact within_pure command
    | registered id =>
        refine (unregistered_postCommand p id _).bind (fun outcome => ?_)
        exact unitOfWork_within Unregistered.refl (fun _ => unregistered_of_log rfl)
          (fun _ => unregistered_of_log rfl) (fun _ _ => unregistered_of_log rfl)
          (unregistered_finalizeCommand body id outcome.1 outcome.2)
  unfold demoCommand at h
  by_cases hoff : (!settings.demoControlsEnabled || settings.production) = true
  · simp only [if_pos hoff] at h
    rcases began_bind h with hthrow | ⟨a, l, l', -, ht, -⟩
    · have := began_throw hthrow
      simp at this
    · obtain ⟨-, hbad⟩ := took_throw.mp ht
      cases hbad
  simp only [if_neg hoff] at h
  have hfirst := Began.first hnot h hsend
  obtain ⟨registration, l, l', rfl, hbody, hcommit⟩ := began_unitOfWork Unregistered.refl hnot
    (fun _ => unregistered_of_log rfl) (fun _ => unregistered_of_log rfl)
    (unregistered_registerCommand _ body) hfirst
  cases registration with
  | existing command =>
      refine absurd (unregistered_of_log ?_) hnot
      rw [hcommit]
      rfl
  | registered id =>
      have heq : Event.registered p id body.idempotencyKey body.action :: s.log =
          .registered p i key .inject :: s.log := by
        rw [← hlog, hcommit]
        rfl
      simp only [List.cons.injEq, Event.registered.injEq, true_and, and_true] at heq
      obtain ⟨l₁, s₁, l₂, s₂, l₃, rfl, hpending, huncertain⟩ :=
        took_registerCommand heq.2.2 hbody
      exact ⟨l ++ l₁, s₁, l₂, s₂, l₃, by simp, hpending, huncertain⟩

end Reads

/-- **Demo commands are serialised.**  In every interleaving of commands, answers and crashes: at
most one command is pending; each idempotency key causes at most one `POST`; and an inject that is
registered has read, in its transaction, that nothing is pending and then that nothing is left
uncertain. -/
theorem demo_commands_serialised (db₀ : Db) (h₀ : db₀.CommandsIdle) (c : Config World Db)
    (steps : Nat → List (Db × Db))
    (hr : Recorded (consoleMachine (fun _ _ => True)) db₀ c steps) :
    AtMostOnePending c.state ∧ (∀ key, posts key c.state.log ≤ 1) ∧
    ∀ p earlier s s' later i key, steps p = earlier ++ (s, s') :: later →
      s'.log = .registered p i key .inject :: s.log → ReadClear ⟨p, 0⟩ earlier := by
  have hinv := consoleProtocol_rests.inv_of_reaches h₀.inv h₀.unheld hr.reaches
  refine ⟨hinv.pending, hinv.single, ?_⟩
  intro p earlier s s' later i key hsteps hlog
  obtain ⟨request, y, hwent⟩ := hr.went_upto hsteps
  exact began_demoCommand hlog (Interleaving.Prog.began_of_run hwent)

/-- A command that is sent twice is posted once. -/
theorem demo_commands_serialised_repeated : ∃ c steps,
    Recorded (consoleMachine (fun _ _ => True)) (Db.init 0) c steps ∧
      (c.state.command 0).isSome = true ∧ posts 5 c.state.log = 1 ∧ AtMostOnePending c.state := by
  obtain ⟨c, steps, hr, htest⟩ := Machine.recorded_of_exec (consoleMachine (fun _ _ => True))
    (Db.init 0)
    (.start 0 ⟨⟨true, false⟩, "ada", ⟨.scn001, .inject, 5⟩⟩ :: List.replicate 17 (.run 0 {}) ++
      .start 1 ⟨⟨true, false⟩, "ada", ⟨.scn001, .inject, 5⟩⟩ :: List.replicate 5 (.run 1 {}))
    (fun db _ => (db.command 0).isSome && decide (posts 5 db.log = 1)) (by decide +kernel)
  simp only [Bool.and_eq_true, decide_eq_true_eq] at htest
  have hidle : (Db.init 0).CommandsIdle := by
    refine ⟨rfl, fun _ => rfl, rfl, ?_, ?_⟩
    · intro i row hrow
      cases hrow
    · intro i j a b ha
      cases ha
  exact ⟨c, steps, hr, htest.1, htest.2, (demo_commands_serialised (Db.init 0) hidle c steps hr).1⟩

end SelfHealing
