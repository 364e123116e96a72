/-
A reconciliation stays on record.

Whoever writes to a command changes what it has changed itself: a demotion leaves the result, and
a reconciliation adds to it.  Only the answer to a command replaces the whole result, and it does
that however long the call has taken.  As long as no answer is written over a reconciliation, none
is lost.

What is asked of the writes is that they keep the entry of a reconciliation, and that is a relation
between the row that is written over and the new one.  All transactions but the one of an answer
are within that relation, so the condition speaks of that one alone.
-/
import SelfHealing.Console
import SelfHealing.Proofs.Rules

namespace SelfHealing

open Interleaving Interleaving.Protocol ReadCommitted

/-- The row records that it was reconciled. -/
def RecordsReconciliation (row : Option DemoCommand) : Prop :=
  ∃ command, row = some command ∧ command.reconciledBy.isSome = true

/-- An answer is written to a command that has not been reconciled meanwhile. -/
def Event.answersOpen (s : Db) : Event → Bool
  | .answered p i =>
      ((s.commands i).visible ⟨p, 0⟩).all fun command => decide (command.reconciledBy = none)
  | _ => true

def AnswersOpen (s s' : Db) : Prop :=
  s'.log = s.log ∨ s'.log.head?.all (Event.answersOpen s) = true

instance (s s' : Db) : Decidable (AnswersOpen s s') := by
  unfold AnswersOpen
  infer_instance

/-! ### The writes -/

/-- A write that keeps a reconciliation. -/
def KeepsReconciliation (old new : Option DemoCommand) : Prop :=
  RecordsReconciliation old → RecordsReconciliation new

theorem text_ne_null (value : String) : JsonObject.text value ≠ "null" := by
  intro h
  have hlist := congrArg String.toList h
  simp [JsonObject.text] at hlist

theorem astext_set (key value : String) (object : JsonObject) :
    (JsonObject.astext key (JsonObject.set key (JsonObject.text value) object)).isSome = true := by
  simp [JsonObject.astext, JsonObject.set, text_ne_null]

/-- A flush that leaves the result as it was loaded leaves it as it is. -/
theorem keeps_flushed_same {loaded changed row : DemoCommand}
    (h : changed.result = loaded.result) :
    KeepsReconciliation (some row) (some (DemoCommand.flushed loaded changed row)) := by
  rintro ⟨command, hcommand, hrec⟩
  simp only [Option.some.injEq] at hcommand
  subst hcommand
  refine ⟨_, rfl, ?_⟩
  simp only [DemoCommand.reconciledBy, DemoCommand.flushed, if_pos h]
  exact hrec

/-- A flush of a result that records a reconciliation. -/
theorem keeps_flushed_reconciled {loaded changed row : DemoCommand}
    (h : changed.reconciledBy.isSome = true) :
    KeepsReconciliation (some row) (some (DemoCommand.flushed loaded changed row)) := by
  by_cases hsame : changed.result = loaded.result
  · exact keeps_flushed_same hsame
  · intro _
    refine ⟨_, rfl, ?_⟩
    simp only [DemoCommand.reconciledBy, DemoCommand.flushed, if_neg hsame]
    exact h

/-! ### The system -/

/-- What a process does to the commands in a step. -/
structure CommandWrites (p : Nat) (s s' : Db) : Prop where
  cells : ∀ i, Cell.Step KeepsReconciliation ⟨p, 0⟩ (s.commands i) (s'.commands i)

/-- What is being written over a reconciliation records it too. -/
def ReconciliationKept (c : Cell TxId DemoCommand) : Prop :=
  RecordsReconciliation c.committed →
    ∀ q, c.pending = some q → ∀ v ∈ q.values, RecordsReconciliation v

section Cells

variable {t : TxId} {c c' : Cell TxId DemoCommand}

theorem ReconciliationKept.visible (h : ReconciliationKept c)
    (hrec : RecordsReconciliation c.committed) : RecordsReconciliation (c.visible t) := by
  by_cases hown : c.own t = []
  · rw [Cell.visible_eq_committed hown]
    exact hrec
  · unfold Cell.own at hown
    split at hown
    · rename_i q hq
      split at hown
      · rename_i hholder
        cases hvalues : q.values with
        | nil => rw [hvalues] at hown; exact absurd rfl hown
        | cons v rest =>
            have hv := h hrec q hq v (by rw [hvalues]; exact List.mem_cons_self)
            simp only [Cell.visible, Cell.view, Cell.own, hq, if_pos hholder, hvalues,
              List.cons_append, List.head?_cons, Option.join_some]
            exact hv
      · exact absurd rfl hown
    · exact absurd rfl hown

theorem ReconciliationKept.own (h : ReconciliationKept c)
    (hrec : RecordsReconciliation c.committed) : ∀ v ∈ c.own t, RecordsReconciliation v := by
  intro v hv
  unfold Cell.own at hv
  split at hv
  · rename_i q hq
    split at hv
    · exact h hrec q hq v hv
    · simp at hv
  · simp at hv

/-- One step keeps to it, and loses no reconciliation. -/
theorem ReconciliationKept.step (h : ReconciliationKept c)
    (hstep : Cell.Step KeepsReconciliation t c c') :
    ReconciliationKept c' ∧
      (RecordsReconciliation c.committed → RecordsReconciliation c'.committed) := by
  cases hstep with
  | same => exact ⟨h, id⟩
  | lock hfree =>
      refine ⟨?_, id⟩
      intro hrec q hq v hv
      simp only [Cell.lock, Option.some.injEq] at hq
      rw [← hq] at hv
      exact h.own hrec v hv
  | write v hfree hw =>
      refine ⟨?_, id⟩
      intro hrec q hq u hu
      simp only [Cell.write, Option.some.injEq] at hq
      rw [← hq] at hu
      rcases List.mem_cons.mp hu with hu | hu
      · rw [hu]
        exact hw (h.visible hrec)
      · exact h.own hrec u hu
  | commit =>
      refine ⟨?_, ?_⟩
      · by_cases hl : c.locked t
        · obtain ⟨vs, hvs⟩ := hl
          rw [Cell.commit_of_locked hvs]
          intro _ q hq
          cases hq
        · rw [Cell.commit_of_not_locked hl]
          exact h
      · intro hrec
        rw [Cell.committed_commit]
        exact h.visible hrec
  | rollback =>
      refine ⟨?_, ?_⟩
      · by_cases hl : c.locked t
        · obtain ⟨vs, hvs⟩ := hl
          rw [Cell.rollback_of_locked hvs]
          intro _ q hq
          cases hq
        · rw [Cell.rollback_of_not_locked hl]
          exact h
      · intro hrec
        rw [Cell.committed_rollback]
        exact hrec

end Cells

/-- What a crash does to a command, as steps of the transactions that die. -/
theorem ReconciliationKept.crash {p : Nat} {s : Db} {i : Nat}
    (h : ReconciliationKept (s.commands i)) :
    ReconciliationKept ((s.crash p).commands i) ∧
      (RecordsReconciliation (s.command i) → RecordsReconciliation ((s.crash p).command i)) := by
  obtain ⟨h₁, hrec₁⟩ := h.step (Cell.Step.rollback (t := ⟨p, 0⟩) (s.commands i))
  obtain ⟨h₂, hrec₂⟩ := h₁.step (Cell.Step.rollback (t := ⟨p, 1⟩) _)
  exact ⟨h₂, fun hrec => hrec₂ (hrec₁ hrec)⟩

def reconciliationProtocol : Protocol World DemoRequest Nat Db where
  machine := consoleMachine AnswersOpen
  guar := CommandWrites
  inv := fun s => ∀ i, ReconciliationKept (s.commands i)
  inv_guar := fun _ _ _ hinv h _ i => ((hinv i).step (h.cells i)).1
  inv_crash := fun _ _ hinv i => (hinv i).crash.1
  inv_env := by
    intro elapsed s s' hinv henv _
    simp only [consoleMachine, Option.some.injEq] at henv
    rw [← henv]
    exact hinv

/-! ### The programs keep to it

Each program is gone through once, with what it has read of the command as an assertion.  A write
is made of what was read, so it keeps what was there at that time; and a reconciliation that has
come in since would be lost, if the write replaced the result.
-/

section Programs

variable {p : Nat}

theorem CommandWrites.same {s s' : Db} (h : s'.commands = s.commands) : CommandWrites p s s' := by
  refine ⟨fun i => ?_⟩
  rw [h]
  exact Cell.Step.same _

theorem CommandWrites.write {s s' : Db} {i : Nat} {v : Option DemoCommand}
    (hfree : (s.commands i).free ⟨p, 0⟩ = true)
    (hv : KeepsReconciliation ((s.commands i).visible ⟨p, 0⟩) v)
    (h : s'.commands = Function.update s.commands i ((s.commands i).write ⟨p, 0⟩ v)) :
    CommandWrites p s s' := by
  refine ⟨fun j => ?_⟩
  rw [h]
  by_cases hj : j = i
  · subst hj
    rw [Function.update_self]
    exact Cell.Step.write _ v hfree hv
  · rw [Function.update_of_ne hj]
    exact Cell.Step.same _

/-- A program of which nothing need be known but that its steps lose no reconciliation. -/
def Keeping (p : Nat) {α : Type} (x : Prog α) : Prop :=
  reconciliationProtocol.Triple p (fun _ => True) x (fun _ _ => True) (fun _ _ => True)

theorem Keeping.bind {α β : Type} {x : Prog α} {g : α → Prog β} (hx : Keeping p x)
    (hg : ∀ a, Keeping p (g a)) : Keeping p (x >>= g) :=
  Triple.bind hx hg

theorem keeping_pure {α : Type} (a : α) : Keeping p (pure a : Prog α) :=
  triple_pure a (fun _ _ _ => trivial)

theorem keeping_throw {α : Type} (e : Err) : Keeping p (throw e : Prog α) :=
  triple_throw e (fun _ _ _ => trivial)

theorem keeping_check {α : Type} (x : Except Err α) : Keeping p (check x) :=
  triple_check (fun _ _ _ _ _ => trivial) (fun _ _ _ _ _ => trivial)

theorem keeping_stmt {α : Type} {f : World → Db → Option (Except Err α × Db)}
    (h : ∀ w s r s', f w s = some (r, s') → AnswersOpen s s' → CommandWrites p s s') :
    Keeping p (Interleaving.Prog.stmt f) := by
  refine triple_stmt (stable_const True) ?_
  intro s w r s' _ _ hf hadm
  refine ⟨h w s r s' hf hadm, ?_⟩
  cases r with
  | ok a => trivial
  | error e => trivial

theorem keeping_sql {α : Type} {f : Db → Option (Except Err α × Db)}
    (h : ∀ s r s', f s = some (r, s') → AnswersOpen s s' → CommandWrites p s s') :
    Keeping p (sql f) := by
  refine keeping_stmt ?_
  intro w s r s' hf hadm
  split at hf
  · simp only [Option.some.injEq, Prod.mk.injEq] at hf
    rw [← hf.2]
    exact CommandWrites.same rfl
  · exact h s r s' hf hadm

theorem keeping_select {α : Type} (f : Db → α) : Keeping p (select f) := by
  refine keeping_sql ?_
  intro s r s' hf _
  simp only [Option.some.injEq, Prod.mk.injEq] at hf
  rw [← hf.2]
  exact CommandWrites.same rfl

theorem keeping_unitOfWork {α : Type} {actor : String} {body : Prog α} {seen : α → List Event}
    (h : Keeping p body) : Keeping p (unitOfWork ⟨p, 0⟩ actor body seen) := by
  refine triple_unitOfWork (B := fun _ => True) (F := fun _ => True) (G := fun _ => True)
    (M := fun _ _ => True) ?_ h (fun a => ?_) ?_ (fun _ _ _ => trivial)
  · exact triple_beginTx (stable_const True) (fun s _ _ => CommandWrites.same rfl)
      (fun _ _ _ => trivial) (fun s _ _ _ => ⟨CommandWrites.same rfl, trivial⟩)
  · exact triple_commitTx (stable_const True)
      (fun s _ _ _ => ⟨⟨fun i => Cell.Step.rollback _⟩, trivial⟩)
      (fun s _ _ _ => ⟨⟨fun i => Cell.Step.commit _⟩, trivial⟩)
  · exact triple_rollbackTx (stable_const True)
      (fun s _ _ _ => ⟨⟨fun i => Cell.Step.rollback _⟩, trivial⟩)

theorem keeping_flushCommand {loaded changed : DemoCommand} {evs : List Event}
    (h : ∀ s row, (s.commands loaded.id).visible ⟨p, 0⟩ = some row →
      evs = [] ∨ evs.head?.all (Event.answersOpen s) = true →
      KeepsReconciliation (some row) (some (DemoCommand.flushed loaded changed row))) :
    Keeping p (flushCommand ⟨p, 0⟩ loaded changed evs) := by
  unfold flushCommand
  split
  · exact keeping_pure ()
  refine keeping_sql ?_
  intro s r s' hf hadm
  simp only at hf
  split at hf
  · simp only [Option.some.injEq, Prod.mk.injEq] at hf
    rw [← hf.2]
    exact CommandWrites.same rfl
  · rename_i row hrow
    split at hf
    · rename_i hfree
      simp only [Option.some.injEq, Prod.mk.injEq] at hf
      rw [← hf.2] at hadm ⊢
      refine CommandWrites.write hfree ?_ rfl
      rw [hrow]
      refine h s row hrow ?_
      cases evs with
      | nil => exact Or.inl rfl
      | cons e rest =>
          right
          rcases hadm with hlog | hopen
          · have hlen := congrArg List.length hlog
            simp [Db.record, Db.setCommand] at hlen
            omega
          · simpa [Db.record] using hopen
    · simp at hf

theorem keeping_registerCommand (actor : String) (body : FaultCommand) :
    Keeping p (registerCommand ⟨p, 0⟩ actor body) := by
  have hadd : Keeping p (addCommand ⟨p, 0⟩ actor body) := by
    unfold addCommand
    refine Keeping.bind (keeping_stmt ?_) (fun id => (keeping_select _).bind (fun now => ?_))
    · intro w s r s' hf _
      simp only [Option.some.injEq, Prod.mk.injEq] at hf
      rw [← hf.2]
      exact CommandWrites.same rfl
    refine Keeping.bind (keeping_sql ?_) (fun _ => keeping_pure _)
    intro s r s' hf _
    simp only at hf
    split at hf
    · simp at hf
    · rename_i hfree
      simp only [Bool.or_eq_true, not_or, Bool.not_eq_true', Bool.not_eq_false] at hfree
      split at hf
      · simp only [Option.some.injEq, Prod.mk.injEq] at hf
        rw [← hf.2]
        exact CommandWrites.same rfl
      · rename_i habsent
        simp only [Bool.or_eq_true, not_or, Bool.not_eq_true, Option.isSome_eq_false_iff,
          Option.isNone_iff_eq_none] at habsent
        simp only [Option.some.injEq, Prod.mk.injEq] at hf
        rw [← hf.2]
        refine CommandWrites.write hfree.1 ?_ rfl
        rw [habsent.1]
        rintro ⟨command, hbad, -⟩
        cases hbad
  unfold registerCommand
  refine Keeping.bind (keeping_sql ?_) (fun _ => (keeping_select _).bind (fun existing => ?_))
  · intro s r s' hf _
    split at hf
    · simp only [Option.some.injEq, Prod.mk.injEq] at hf
      rw [← hf.2]
      exact CommandWrites.same rfl
    · simp at hf
  cases existing with
  | some existing => exact keeping_check _
  | none =>
      refine (keeping_select _).bind (fun pending => ?_)
      cases pending with
      | some pending =>
          refine Keeping.bind (keeping_stmt ?_) (fun now => (keeping_check _).bind (fun _ => ?_))
          · intro w s r s' hf _
            simp only [Option.some.injEq, Prod.mk.injEq] at hf
            rw [← hf.2]
            exact CommandWrites.same rfl
          · refine Keeping.bind (keeping_flushCommand (fun _ _ _ _ => keeps_flushed_same ?_))
              (fun _ => hadd)
            rfl
      | none =>
          by_cases haction : body.action = .inject
          · simp only [if_pos haction]
            refine Keeping.bind ?_ (fun _ => hadd)
            unfold admitInject
            refine (keeping_select _).bind (fun _ => (keeping_check _).bind
              (fun _ => keeping_stmt ?_))
            intro w s r s' hf _
            simp only [Option.some.injEq, Prod.mk.injEq] at hf
            rw [← hf.2]
            exact CommandWrites.same rfl
          · simp only [if_neg haction]
            exact hadd

theorem keeping_reconcileCommands (commandId : Nat) (uncertain : List DemoCommand) :
    Keeping p (reconcileCommands ⟨p, 0⟩ commandId uncertain) := by
  induction uncertain with
  | nil => exact keeping_pure ()
  | cons prior rest ih =>
      refine (keeping_flushCommand (fun _ _ _ _ => keeps_flushed_reconciled ?_)).bind (fun _ => ih)
      exact astext_set _ _ _

/-- The answer replaces the whole result, of a command that was not reconciled meanwhile. -/
theorem keeping_finalizeCommand (body : FaultCommand) (commandId : Nat) (payload : JsonObject)
    (status : DemoStatus) :
    Keeping p (finalizeCommand ⟨p, 0⟩ body commandId payload status) := by
  unfold finalizeCommand
  refine (keeping_select _).bind (fun found => ?_)
  cases found with
  | none => exact keeping_throw _
  | some item =>
      refine Keeping.bind (keeping_flushCommand ?_) (fun _ => ?_)
      · intro s row hrow hopen
        rcases hopen with hbad | hopen
        · cases hbad
        rintro ⟨command, hcommand, hrec⟩
        simp only [Option.some.injEq] at hcommand
        simp only [List.head?_cons, Option.all_some, Event.answersOpen, hrow,
          decide_eq_true_eq] at hopen
        rw [← hcommand, hopen] at hrec
        cases hrec
      · by_cases hclear : body.action = .clear ∧ status = .succeeded
        · simp only [if_pos hclear]
          refine (keeping_select _).bind (fun uncertain => ?_)
          exact (keeping_reconcileCommands commandId uncertain).bind (fun _ => keeping_pure _)
        · simp only [if_neg hclear]
          exact keeping_pure _

theorem reconciliationProtocol_verified : reconciliationProtocol.Verified := by
  intro p request s hinv _
  refine triple_ignore (?_ : Keeping p _) hinv trivial
  unfold demoCommand
  by_cases hoff : (!request.settings.demoControlsEnabled || request.settings.production) = true
  · simp only [if_pos hoff]
    exact triple_throw_bind (fun _ _ _ => trivial)
  simp only [if_neg hoff]
  refine (keeping_unitOfWork (keeping_registerCommand _ _)).bind (fun registration => ?_)
  cases registration with
  | existing command => exact keeping_pure command
  | registered id =>
      refine Keeping.bind ?_ (fun outcome => keeping_unitOfWork (keeping_finalizeCommand _ _ _ _))
      unfold postCommand
      refine Keeping.bind (keeping_stmt ?_) (fun _ => keeping_stmt ?_)
      · intro w s r s' hf _
        simp only [Option.some.injEq, Prod.mk.injEq] at hf
        rw [← hf.2]
        exact CommandWrites.same rfl
      · intro w s r s' hf _
        simp only [Option.some.injEq, Prod.mk.injEq] at hf
        rw [← hf.2]
        exact CommandWrites.same rfl

end Programs

/-- What the system does, step after step, loses no reconciliation. -/
theorem recordsReconciliation_acts {s s' : Db} {i : Nat} (hinv : reconciliationProtocol.inv s)
    (hrec : RecordsReconciliation (s.command i))
    (h : Relation.ReflTransGen reconciliationProtocol.Act s s') :
    reconciliationProtocol.inv s' ∧ RecordsReconciliation (s'.command i) := by
  induction h with
  | refl => exact ⟨hinv, hrec⟩
  | tail _ hact ih =>
      obtain ⟨hkept, hrec⟩ := ih
      cases hact with
      | proc p h _ =>
          exact ⟨fun j => ((hkept j).step (h.cells j)).1, ((hkept i).step (h.cells i)).2 hrec⟩
      | crash p => exact ⟨fun j => (hkept j).crash.1, (hkept i).crash.2 hrec⟩
      | env elapsed henv _ =>
          simp only [reconciliationProtocol, consoleMachine, Option.some.injEq] at henv
          rw [← henv]
          exact ⟨hkept, hrec⟩

/-- **A reconciliation is durable**, in every run in which no answer is written to a command that was
reconciled while the call was out. -/
theorem reconciliation_durable (db₀ : Db) (h₀ : ∀ i, (db₀.commands i).pending = none)
    (c c' : Config World Db) (hr : Reaches (consoleMachine AnswersOpen) (Config.idle db₀) c)
    (hr' : Reaches (consoleMachine AnswersOpen) c c') (i : Nat)
    (hrec : RecordsReconciliation (c.state.command i)) :
    RecordsReconciliation (c'.state.command i) := by
  have hinit : reconciliationProtocol.inv db₀ := by
    intro j _ q hq
    rw [h₀ j] at hq
    cases hq
  have hsound : reconciliationProtocol.Sound c :=
    (sound_idle hinit).reaches reconciliationProtocol_verified hr
  exact (recordsReconciliation_acts hsound.inv hrec
    (hsound.acts reconciliationProtocol_verified hr')).2

/-- An inject whose call is still out, and a clear of its scenario after half a minute. -/
def slowInject : List (Move World DemoRequest Nat) :=
  .start 0 ⟨⟨true, false⟩, "ada", ⟨.scn001, .inject, 1⟩⟩ :: List.replicate 11 (.run 0 {}) ++
    .env 31000000 :: .start 1 ⟨⟨true, false⟩, "bob", ⟨.scn001, .clear, 2⟩⟩ ::
    List.replicate 18 (.run 1 {})

theorem recordsReconciliation_of_any {row : Option DemoCommand}
    (h : row.any (fun command => command.reconciledBy.isSome) = true) :
    RecordsReconciliation row := by
  cases row with
  | none => cases h
  | some command => exact ⟨command, rfl, by simpa using h⟩

/-- The API process that waits for the answer dies. -/
theorem reconciliation_durable_unanswered : ∃ c c',
    Reaches (consoleMachine AnswersOpen) (Config.idle (Db.init 0)) c ∧
      Reaches (consoleMachine AnswersOpen) c c' ∧ RecordsReconciliation (c.state.command 0) ∧
      RecordsReconciliation (c'.state.command 0) := by
  obtain ⟨c, c', hr, htest, hr', -⟩ := Machine.reaches_of_exec_on (consoleMachine AnswersOpen)
    (Config.idle (Db.init 0)) slowInject [.crash 0, .env 1]
    (fun db => (db.command 0).any fun command => command.reconciledBy.isSome) (fun _ => true)
    (by decide +kernel)
  have hrec := recordsReconciliation_of_any htest
  exact ⟨c, c', hr, hr', hrec,
    reconciliation_durable (Db.init 0) (fun _ => rfl) c c' hr hr' 0 hrec⟩

/-- **A reconciliation may be lost**: the answer to the inject comes at last, and replaces the whole
result. -/
theorem reconciliation_overwritten :
    ¬ ∀ db₀ : Db, (∀ i, (db₀.commands i).pending = none) → ∀ c c' : Config World Db,
      Reaches (consoleMachine (fun _ _ => True)) (Config.idle db₀) c →
      Reaches (consoleMachine (fun _ _ => True)) c c' → ∀ i,
      RecordsReconciliation (c.state.command i) → RecordsReconciliation (c'.state.command i) := by
  intro hall
  obtain ⟨c, c', hr, htest, hr', hlost⟩ := Machine.reaches_of_exec_on
    (consoleMachine (fun _ _ => True)) (Config.idle (Db.init 0)) slowInject
    (List.replicate 5 (.run 0 { command := .succeeded [("status", "\"injected\"")] }))
    (fun db => (db.command 0).any fun command => command.reconciledBy.isSome)
    (fun db => (db.command 0).all fun command => command.reconciledBy.isNone) (by decide +kernel)
  obtain ⟨command, hcommand, hrec⟩ := hall (Db.init 0) (fun _ => rfl) c c' hr hr' 0
    (recordsReconciliation_of_any htest)
  rw [hcommand] at hlost
  simp only [Option.all_some, Option.isNone_iff_eq_none] at hlost
  rw [hlost] at hrec
  cases hrec

end SelfHealing
