/-
What a transaction on incidents does to the shared tables, step by step.

`RepoStep` lists the steps that a transaction can make with what it knows when it makes them:
a new incident, a write to one, a message, another row, and its end.  The triples show, once and
for every protocol that is about such transactions, that the calls of the repository make no
other; a protocol then derives whatever it is after from the list.

An incident may have any row to begin with.  All that is needed of the rows is that the versions
rise, for then the row that a call writes over is the row that it has read.

`IsRepoProtocol` is what a protocol has to allow.  A result then brings its invariant and shows that
these few steps keep it, and has all interleavings of the calls for that.
-/
import SelfHealing.Lib.UniqueIndex
import SelfHealing.Proofs.IncidentHistory

namespace SelfHealing

open Interleaving Interleaving.Protocol Interleaving.Prog ReadCommitted

/-! ### Steps -/

/-- The rows that transactions on incidents write are as they were. -/
structure SameRows (s s' : Db) : Prop where
  incidents : s'.incidents = s.incidents
  incidentIds : s'.incidentIds = s.incidentIds
  outbox : s'.outbox = s.outbox
  added : s'.added = s.added
  plans : s'.plans = s.plans
  approvals : s'.approvals = s.approvals

/-- The rows are as they were, and at most an identifier has been drawn. -/
structure Idle (p : Nat) (s s' : Db) : Prop extends SameRows s s' where
  numbers : s'.nextId = s.nextId ∧ s'.drawnBy = s.drawnBy ∨
    s'.nextId = (s.draw p).nextId ∧ s'.drawnBy = (s.draw p).drawnBy

theorem SameRows.refl (s : Db) : SameRows s s := ⟨rfl, rfl, rfl, rfl, rfl, rfl⟩

theorem Idle.refl (p : Nat) (s : Db) : Idle p s s := ⟨SameRows.refl s, Or.inl ⟨rfl, rfl⟩⟩

theorem idle_draw (p : Nat) (s : Db) : Idle p s (s.draw p) :=
  ⟨⟨rfl, rfl, rfl, rfl, rfl, rfl⟩, Or.inr ⟨rfl, rfl⟩⟩

/-- The identifier is the process's own, and there is no row under it yet. -/
structure Unused (p id : Nat) (s : Db) : Prop where
  mine : s.drawnBy id = some p
  incident : s.incidents id = Cell.empty
  outbox : s.outbox id = Cell.empty

/-- No row of the index stands in the way of a new incident under this key, neither in sight of
the transaction nor in the hands of another one. -/
structure KeyOpen (t : TxId) (key : String) (s : Db) : Prop where
  uncontended : ∀ j ∈ s.incidentIds, Incident.contended t key (s.incidents j) = false
  unseen : ∀ j ∈ s.incidentIds, ((s.incidents j).visible t).any (Incident.active key) = false

/-- The table with a new incident. -/
def Db.withIncident (t : TxId) (r : Incident) (s : Db) : Db :=
  { s.setIncident r.id ((s.incidents r.id).write t (some r)) with
    incidentIds := r.id :: s.incidentIds }

/-- One step of a transaction of process `p`, which has to have its rows in order, as far as that
is `due`, before it commits. -/
inductive RepoStep (due : Nat → Db → Prop) (p : Nat) : Db → Db → Prop
  | idle {s s' : Db} (h : Idle p s s') : RepoStep due p s s'
  | insert (s : Db) (r : Incident) (hnew : IncidentWrite none (some r)) (hunused : Unused p r.id s)
      (hopen : KeyOpen ⟨p, 0⟩ r.correlationKey s) : RepoStep due p s (s.withIncident ⟨p, 0⟩ r)
  | update (s : Db) (i : Nat) (q r : Incident) (hfree : (s.incidents i).free ⟨p, 0⟩ = true)
      (hvis : (s.incidents i).visible ⟨p, 0⟩ = some q) (hw : IncidentWrite (some q) (some r)) :
      RepoStep due p s (s.setIncident i ((s.incidents i).write ⟨p, 0⟩ (some r)))
  | post (s : Db) (o : Nat) (e : OutboxEvent) (hunused : Unused p o s) :
      RepoStep due p s (s.setOutbox o ((s.outbox o).write ⟨p, 0⟩ (some e)))
  | add (s : Db) (row : NewRow) : RepoStep due p s (s.add ⟨p, 0⟩ row)
  | commit (s : Db) (evs : List Event) (hdue : due p s) :
      RepoStep due p s ((s.commit ⟨p, 0⟩).record evs)
  | rollback (s : Db) : RepoStep due p s (s.rollback ⟨p, 0⟩)

variable {due : Nat → Db → Prop}

/-! ### What holds of the tables -/

/-- No row comes before all of them, and then they come by version. -/
def rowRank : Option Incident → Nat
  | none => 0
  | some r => r.version + 1

/-- Whatever is written has a higher version than what it is written over. -/
def Rises (v w : Option Incident) : Prop := rowRank v < rowRank w

theorem IncidentWrite.rises {v w : Option Incident} (h : IncidentWrite v w) : Rises v w := by
  cases h with
  | create r hstate hversion hattempts => simp [Rises, rowRank]
  | approval q now hstate => simp [Rises, rowRank]
  | move q now target hadm => simp [Rises, rowRank]

/-- Identifiers are handed out in order, nothing is known under those to come, and the versions of
an incident rise. -/
structure RepoInv (s : Db) : Prop where
  drawn : ∀ id q, s.drawnBy id = some q → id < s.nextId
  fresh : ∀ id, s.nextId ≤ id → s.incidents id = Cell.empty ∧ s.outbox id = Cell.empty
  rising : ∀ i, Linked Rises (s.incidents i).chain

section Cells

variable {V : Type} {t : TxId}

@[simp] theorem commit_empty : (Cell.empty : Cell TxId V).commit t = Cell.empty := rfl

@[simp] theorem rollback_empty : (Cell.empty : Cell TxId V).rollback t = Cell.empty := rfl

end Cells

/-- A write to an incident as a step on its row. -/
theorem step_setIncident {t : TxId} {s : Db} {i : Nat} {r : Incident}
    {W : Option Incident → Option Incident → Prop} (hfree : (s.incidents i).free t = true)
    (hw : W ((s.incidents i).visible t) (some r)) (j : Nat) :
    Cell.Step W t (s.incidents j)
      ((s.setIncident i ((s.incidents i).write t (some r))).incidents j) := by
  by_cases hj : j = i
  · subst hj
    simp only [Db.setIncident, Function.update_self]
    exact Cell.Step.write _ _ hfree hw
  · simp only [Db.setIncident, Function.update_of_ne hj]
    exact Cell.Step.same _

theorem Unused.visible {p id : Nat} {s : Db} (h : Unused p id s) (t : TxId) :
    (s.incidents id).visible t = none := by
  rw [h.incident]
  rfl

theorem Unused.free {p id : Nat} {s : Db} (h : Unused p id s) (t : TxId) :
    (s.incidents id).free t = true := by
  rw [h.incident]
  rfl

/-- **What a step does to an incident**: it is a permitted write, or none. -/
theorem RepoStep.incident {p : Nat} {s s' : Db} (h : RepoStep due p s s') (i : Nat) :
    Cell.Step IncidentWrite ⟨p, 0⟩ (s.incidents i) (s'.incidents i) := by
  cases h with
  | idle h =>
      rw [h.incidents]
      exact Cell.Step.same _
  | insert r hnew hunused hopen =>
      refine step_setIncident (hunused.free _) ?_ i
      rw [hunused.visible]
      exact hnew
  | update j q r hfree hvis hw =>
      refine step_setIncident hfree ?_ i
      rw [hvis]
      exact hw
  | post o e hunused => exact Cell.Step.same _
  | add row => exact Cell.Step.same _
  | commit evs hdue => exact Cell.Step.commit _
  | rollback => exact Cell.Step.rollback _

/-- A message is written once. -/
def Posted (v w : Option OutboxEvent) : Prop := v = none ∧ w ≠ none

/-- And to a message: it is new, or it stays. -/
theorem RepoStep.message {p : Nat} {s s' : Db} (h : RepoStep due p s s') (o : Nat) :
    Cell.Step Posted ⟨p, 0⟩ (s.outbox o) (s'.outbox o) := by
  cases h with
  | idle h =>
      rw [h.outbox]
      exact Cell.Step.same _
  | insert r hnew hunused hopen => exact Cell.Step.same _
  | update j q r hfree hvis hw => exact Cell.Step.same _
  | post o' e hunused =>
      by_cases ho : o = o'
      · subst ho
        simp only [Db.setOutbox, Function.update_self]
        refine Cell.Step.write _ _ ?_ ⟨?_, by simp⟩
        · rw [hunused.outbox]
          rfl
        · rw [hunused.outbox]
          rfl
      · simp only [Db.setOutbox, Function.update_of_ne ho]
        exact Cell.Step.same _
  | add row => exact Cell.Step.same _
  | commit evs hdue => exact Cell.Step.commit _
  | rollback => exact Cell.Step.rollback _

theorem Idle.drawnBy {p q id : Nat} {s s' : Db} (hinv : RepoInv s) (h : Idle q s s')
    (hid : s.drawnBy id = some p) : s'.drawnBy id = some p := by
  rcases h.numbers with ⟨-, hsame⟩ | ⟨-, hdraw⟩
  · rw [hsame]
    exact hid
  · have hlt := hinv.drawn id p hid
    rw [hdraw]
    simp only [Db.draw]
    rw [Function.update_of_ne (by omega)]
    exact hid

theorem RepoInv.idle {q : Nat} {s s' : Db} (hinv : RepoInv s) (h : Idle q s s') : RepoInv s' := by
  refine ⟨?_, ?_, ?_⟩
  · intro id r hid
    rcases h.numbers with ⟨hnext, hsame⟩ | ⟨hnext, hdraw⟩
    · rw [hsame] at hid
      rw [hnext]
      exact hinv.drawn id r hid
    · rw [hdraw] at hid
      rw [hnext]
      simp only [Db.draw] at hid ⊢
      by_cases heq : id = s.nextId
      · omega
      · rw [Function.update_of_ne heq] at hid
        have := hinv.drawn id r hid
        omega
  · intro id hid
    rw [h.incidents, h.outbox]
    refine hinv.fresh id ?_
    rcases h.numbers with ⟨hnext, -⟩ | ⟨hnext, -⟩
    · omega
    · simp only [Db.draw] at hnext
      omega
  · intro i
    rw [h.incidents]
    exact hinv.rising i

/-- A row under an identifier that is in use is not one of those to come. -/
theorem fresh_update {V : Type} {f : Nat → Cell TxId V} {i n : Nat} {c : Cell TxId V}
    (hf : ∀ id, n ≤ id → f id = Cell.empty) (hi : i < n) :
    ∀ id, n ≤ id → Function.update f i c id = Cell.empty := by
  intro id hid
  rw [Function.update_of_ne (by omega)]
  exact hf id hid

theorem RepoInv.step {p : Nat} {s s' : Db} (hinv : RepoInv s) (h : RepoStep due p s s') :
    RepoInv s' := by
  have hrising : ∀ i, Linked Rises (s'.incidents i).chain := by
    intro i
    have hstep : Cell.Step Rises ⟨p, 0⟩ (s.incidents i) (s'.incidents i) :=
      (h.incident i).mono (fun _ _ hw => hw.rises)
    exact hstep.linked (hinv.rising i)
  have hinc : ∀ id, s.nextId ≤ id → s.incidents id = Cell.empty :=
    fun id hid => (hinv.fresh id hid).1
  have hout : ∀ id, s.nextId ≤ id → s.outbox id = Cell.empty := fun id hid => (hinv.fresh id hid).2
  cases h with
  | idle h => exact hinv.idle h
  | insert r hnew hunused hopen =>
      exact ⟨hinv.drawn, fun id hid =>
        ⟨fresh_update hinc (hinv.drawn _ _ hunused.mine) id hid, hout id hid⟩, hrising⟩
  | update i q r hfree hvis hw =>
      have hi : i < s.nextId := by
        by_contra hge
        rw [hinc i (by omega)] at hvis
        simp at hvis
      exact ⟨hinv.drawn, fun id hid => ⟨fresh_update hinc hi id hid, hout id hid⟩, hrising⟩
  | post o e hunused =>
      exact ⟨hinv.drawn, fun id hid =>
        ⟨hinc id hid, fresh_update hout (hinv.drawn _ _ hunused.mine) id hid⟩, hrising⟩
  | add row => exact ⟨hinv.drawn, hinv.fresh, hrising⟩
  | commit evs hdue =>
      refine ⟨hinv.drawn, ?_, hrising⟩
      intro id hid
      show (s.incidents id).commit _ = Cell.empty ∧ (s.outbox id).commit _ = Cell.empty
      rw [hinc id hid, hout id hid]
      exact ⟨rfl, rfl⟩
  | rollback =>
      refine ⟨hinv.drawn, ?_, hrising⟩
      intro id hid
      show (s.incidents id).rollback _ = Cell.empty ∧ (s.outbox id).rollback _ = Cell.empty
      rw [hinc id hid, hout id hid]
      exact ⟨rfl, rfl⟩

theorem RepoInv.crash {s : Db} (hinv : RepoInv s) (p : Nat) : RepoInv (s.crash p) := by
  refine ⟨hinv.drawn, ?_, ?_⟩
  · intro id hid
    show ((s.incidents id).rollback _).rollback _ = Cell.empty ∧
      ((s.outbox id).rollback _).rollback _ = Cell.empty
    rw [(hinv.fresh id hid).1, (hinv.fresh id hid).2]
    exact ⟨rfl, rfl⟩
  · intro i
    have h1 : Linked Rises ((s.incidents i).rollback ⟨p, 0⟩).chain :=
      (Cell.Step.rollback (s.incidents i)).linked (hinv.rising i)
    exact (Cell.Step.rollback (W := Rises) _).linked h1

/-! ### What others leave alone

A row that a transaction has written is locked for it, and so it stays as it is until that
transaction ends.  What a program knows of its own writes is therefore stable against all steps of
the list, whoever makes them.
-/

/-- What a transaction of `p` finds of the steps of others. -/
structure Aside (p : Nat) (s s' : Db) : Prop where
  incidents : ∀ i, Cell.Others (fun _ _ => True) (fun t => t.pid = p) (s.incidents i)
    (s'.incidents i)
  outbox : ∀ o, Cell.Others (fun _ _ => True) (fun t => t.pid = p) (s.outbox o) (s'.outbox o)
  added : ∀ t : TxId, t.pid = p → s'.added t = s.added t
  unused : ∀ id, Unused p id s → Unused p id s'

theorem Idle.aside {p q : Nat} {s s' : Db} (hinv : RepoInv s) (h : Idle q s s') : Aside p s s' := by
  refine ⟨?_, ?_, ?_, ?_⟩
  · intro i
    rw [h.incidents]
    exact Relation.ReflTransGen.refl
  · intro o
    rw [h.outbox]
    exact Relation.ReflTransGen.refl
  · intro t _
    rw [h.added]
  · intro id hid
    refine ⟨h.drawnBy hinv hid.mine, ?_, ?_⟩
    · rw [h.incidents]
      exact hid.incident
    · rw [h.outbox]
      exact hid.outbox

theorem RepoStep.aside {p q : Nat} (hq : q ≠ p) {s s' : Db} (hinv : RepoInv s)
    (h : RepoStep due q s s') : Aside p s s' := by
  have hnot : ¬ (⟨q, 0⟩ : TxId).pid = p := hq
  have hinc : ∀ i, Cell.Others (fun _ _ => True) (fun t => t.pid = p) (s.incidents i)
      (s'.incidents i) :=
    fun i => ((h.incident i).mono (fun _ _ _ => trivial)).others hnot
  have hout : ∀ o, Cell.Others (fun _ _ => True) (fun t => t.pid = p) (s.outbox o)
      (s'.outbox o) :=
    fun o => ((h.message o).mono (fun _ _ _ => trivial)).others hnot
  have hadded : ∀ (rows : List NewRow) (t : TxId), t.pid = p →
      Function.update s.added ⟨q, 0⟩ rows t = s.added t := by
    intro rows t ht
    refine Function.update_of_ne ?_ _ _
    intro heq
    rw [heq] at ht
    exact hq ht
  have hmine : ∀ {id id' : Nat}, s.drawnBy id = some p → s.drawnBy id' = some q → id ≠ id' := by
    intro id id' hid hid' heq
    rw [heq, hid'] at hid
    simp only [Option.some.injEq] at hid
    exact hq hid
  cases h with
  | idle h => exact h.aside hinv
  | insert r hnew hunused hopen =>
      refine ⟨hinc, hout, fun t _ => rfl, fun id hid => ⟨hid.mine, ?_, hid.outbox⟩⟩
      show Function.update s.incidents r.id _ id = Cell.empty
      rw [Function.update_of_ne (hmine hid.mine hunused.mine)]
      exact hid.incident
  | update i q' r hfree hvis hw =>
      refine ⟨hinc, hout, fun t _ => rfl, fun id hid => ⟨hid.mine, ?_, hid.outbox⟩⟩
      have hne : id ≠ i := by
        intro heq
        rw [← heq, hid.visible] at hvis
        simp at hvis
      show Function.update s.incidents i _ id = Cell.empty
      rw [Function.update_of_ne hne]
      exact hid.incident
  | post o e hunused =>
      refine ⟨hinc, hout, fun t _ => rfl, fun id hid => ⟨hid.mine, hid.incident, ?_⟩⟩
      show Function.update s.outbox o _ id = Cell.empty
      rw [Function.update_of_ne (hmine hid.mine hunused.mine)]
      exact hid.outbox
  | add row =>
      exact ⟨hinc, hout, hadded _, fun id hid => ⟨hid.mine, hid.incident, hid.outbox⟩⟩
  | commit evs hdue =>
      refine ⟨hinc, hout, hadded _, fun id hid => ⟨hid.mine, ?_, ?_⟩⟩
      · show (s.incidents id).commit _ = Cell.empty
        rw [hid.incident]
        rfl
      · show (s.outbox id).commit _ = Cell.empty
        rw [hid.outbox]
        rfl
  | rollback =>
      refine ⟨hinc, hout, hadded _, fun id hid => ⟨hid.mine, ?_, ?_⟩⟩
      · show (s.incidents id).rollback _ = Cell.empty
        rw [hid.incident]
        rfl
      · show (s.outbox id).rollback _ = Cell.empty
        rw [hid.outbox]
        rfl

theorem aside_crash {p q : Nat} (hq : q ≠ p) (s : Db) : Aside p s (s.crash q) := by
  have hnot : ∀ l : Nat, ¬ (⟨q, l⟩ : TxId).pid = p := fun _ h => hq h
  have hroll : ∀ {V : Type} (c : Cell TxId V), Cell.Others (fun _ _ => True) (fun t => t.pid = p) c
      ((c.rollback ⟨q, 0⟩).rollback ⟨q, 1⟩) := by
    intro V c
    have h0 : Cell.Others (fun _ _ => True) (fun t => t.pid = p) c (c.rollback ⟨q, 0⟩) :=
      Cell.others_rollback (hnot 0)
    exact h0.trans (Cell.others_rollback (hnot 1))
  refine ⟨fun i => hroll _, fun o => hroll _, ?_, ?_⟩
  · intro t ht
    have hne : ∀ l : Nat, t ≠ ⟨q, l⟩ := by
      intro l heq
      rw [heq] at ht
      exact hq ht
    show Function.update (Function.update s.added ⟨q, 0⟩ []) ⟨q, 1⟩ [] t = s.added t
    rw [Function.update_of_ne (hne 1), Function.update_of_ne (hne 0)]
  · intro id hid
    refine ⟨hid.mine, ?_, ?_⟩
    · show ((s.incidents id).rollback _).rollback _ = Cell.empty
      rw [hid.incident]
      rfl
    · show ((s.outbox id).rollback _).rollback _ = Cell.empty
      rw [hid.outbox]
      rfl

/-- A process that has died has nothing pending. -/
theorem own_crash {V : Type} (p : Nat) (c : Cell TxId V) :
    ((c.rollback ⟨p, 0⟩).rollback ⟨p, 1⟩).own ⟨p, 0⟩ = [] := by
  have hne : (⟨p, 1⟩ : TxId) ≠ ⟨p, 0⟩ := by simp
  rw [(Cell.Step.rollback (W := fun _ _ => True) (c.rollback ⟨p, 0⟩)).own_eq hne, Cell.own_rollback]

/-! ### The programs keep to it -/

/-- A protocol about transactions on incidents. -/
structure IsRepoProtocol {A E : Type} (due : Nat → Db → Prop) (P : Protocol World A E Db) :
    Prop where
  guar : ∀ p s s', RepoStep due p s s' → P.guar p s s'
  others : ∀ p s s', P.inv s → P.Other p s s' → Aside p s s'
  inv : ∀ s, P.inv s → RepoInv s

/-- An assertion that looks at the rows only. -/
def OnRows (R : Db → Prop) : Prop := ∀ s s', SameRows s s' → R s → R s'

section Programs

variable {A E : Type} {P : Protocol World A E Db} (hP : IsRepoProtocol due P) {p : Nat}

/-- The transaction of `p` has seen this row. -/
def SawIncident (p i : Nat) (r : Incident) (s : Db) : Prop := some r ∈ (s.incidents i).view ⟨p, 0⟩

include hP

theorem stable_sawIncident (i : Nat) (r : Incident) : P.Stable p (SawIncident p i r) := by
  intro s s' hinv h hother
  exact ((hP.others p s s' hinv hother).incidents i).mem_view rfl h

theorem stable_unused (id : Nat) : P.Stable p (Unused p id) := by
  intro s s' hinv h hother
  exact (hP.others p s s' hinv hother).unused id h

section Idle

variable {R : Db → Prop} (hst : P.Stable p R)

include hst

theorem repo_select {α : Type} {f : Db → α} :
    P.Triple p R (select f) (fun a s => R s ∧ a = f s) (fun _ => R) :=
  triple_select hst (fun s _ _ => hP.guar _ _ _ (.idle (Idle.refl p s))) (fun _ _ h => h)
    (fun _ _ h => ⟨h, rfl⟩)

/-- A statement that leaves the rows alone. -/
theorem repo_idle (hR : OnRows R) {α : Type} {f : Db → Option (Except Err α × Db)}
    (hf : ∀ s r s', f s = some (r, s') →
      SameRows s s' ∧ s'.nextId = s.nextId ∧ s'.drawnBy = s.drawnBy) :
    P.Triple p R (sql f) (fun _ => R) (fun _ => R) := by
  refine triple_sql hst (fun s _ _ => hP.guar _ _ _ (.idle (Idle.refl p s))) (fun _ _ h => h) ?_
  intro s r s' _ h hstep _
  obtain ⟨hsame, hnext, hdrawn⟩ := hf s r s' hstep
  refine ⟨hP.guar _ _ _ (.idle ⟨hsame, Or.inl ⟨hnext, hdrawn⟩⟩), ?_⟩
  cases r with
  | ok a => exact hR s s' hsame h
  | error e => exact hR s s' hsame h

theorem repo_uuid4 (hR : OnRows R) :
    P.Triple p R (uuid4 p) (fun id s => R s ∧ Unused p id s) (fun _ => R) := by
  refine triple_uuid4 hst ?_
  intro s hinv h _
  have hfresh := (hP.inv s hinv).fresh s.nextId (Nat.le_refl _)
  refine ⟨hP.guar _ _ _ (.idle (idle_draw p s)), hR s _ (idle_draw p s).toSameRows h, ?_⟩
  exact ⟨by simp [Db.draw], hfresh.1, hfresh.2⟩

theorem repo_beginTx (hR : OnRows R) :
    P.Triple p R (beginTx ⟨p, 0⟩) (fun _ => R) (fun _ => R) := by
  have hsame : ∀ s : Db, SameRows s (s.started ⟨p, 0⟩) := fun s => ⟨rfl, rfl, rfl, rfl, rfl, rfl⟩
  refine triple_beginTx hst (fun s _ _ => hP.guar _ _ _ (.idle (Idle.refl p s)))
    (fun _ _ h => h) ?_
  intro s _ h _
  exact ⟨hP.guar _ _ _ (.idle ⟨hsame s, Or.inl ⟨rfl, rfl⟩⟩), hR s _ (hsame s) h⟩

end Idle

/-- What holds after an `UPDATE`, whether it has found the row or not. -/
def Updated (M : Incident → Db → Prop) (R : Db → Prop) : Option Incident → Db → Prop
  | some r, s => M r s
  | none, s => R s

/-- An `UPDATE` of an incident, all of whose writes are permitted. -/
theorem updateIncident_triple {R : Db → Prop} {Q : Option Incident → Db → Prop} {i : Nat}
    {set : Int → Incident → Option Incident} (hst : P.Stable p R)
    (hset : ∀ s q r, P.inv s → R s → (s.incidents i).free ⟨p, 0⟩ = true →
      (s.incidents i).visible ⟨p, 0⟩ = some q → set (s.txTime ⟨p, 0⟩) q = some r →
      IncidentWrite (some q) (some r) ∧
        Q (some r) (s.setIncident i ((s.incidents i).write ⟨p, 0⟩ (some r))))
    (hnone : ∀ s, P.inv s → R s → Q none s) :
    P.Triple p R (updateIncident ⟨p, 0⟩ i set) Q (fun _ => R) := by
  refine triple_sql hst (fun s _ _ => hP.guar _ _ _ (.idle (Idle.refl p s))) (fun _ _ h => h) ?_
  intro s r s' hinv hR hf _
  simp only at hf
  split at hf
  · rename_i row hrow
    split at hf
    · rename_i hfree
      simp only [Option.some.injEq, Prod.mk.injEq] at hf
      obtain ⟨rfl, rfl⟩ := hf
      obtain ⟨q, hq, hwritten⟩ := Option.bind_eq_some_iff.mp hrow
      obtain ⟨hw, hQ⟩ := hset s q row hinv hR hfree hq hwritten
      exact ⟨hP.guar _ _ _ (.update s i q row hfree hq hw), hQ⟩
    · simp at hf
  · simp only [Option.some.injEq, Prod.mk.injEq] at hf
    obtain ⟨rfl, rfl⟩ := hf
    exact ⟨hP.guar _ _ _ (.idle (Idle.refl p s)), hnone s hinv hR⟩

/-- A message under an identifier of its own. -/
theorem insertOutboxEvent_triple {R Q : Db → Prop} {o : Nat} {e : OutboxEvent}
    (hst : P.Stable p R)
    (hpost : ∀ s, P.inv s → R s → Unused p o s →
      Q (s.setOutbox o ((s.outbox o).write ⟨p, 0⟩ (some e)))) :
    P.Triple p (fun s => R s ∧ Unused p o s) (insertOutboxEvent ⟨p, 0⟩ o e) (fun _ => Q)
      (fun _ => R) := by
  refine triple_sql (hst.and (stable_unused hP o))
    (fun s _ _ => hP.guar _ _ _ (.idle (Idle.refl p s))) (fun _ _ h => h.1) ?_
  intro s r s' hinv hR hf _
  simp only [Option.some.injEq, Prod.mk.injEq] at hf
  obtain ⟨rfl, rfl⟩ := hf
  exact ⟨hP.guar _ _ _ (.post s o e hR.2), hpost s hinv hR.1 hR.2⟩

/-- A row of another table. -/
theorem insertRow_triple {R Q : Db → Prop} {row : NewRow} (hst : P.Stable p R)
    (hadd : ∀ s, P.inv s → R s → Q (s.add ⟨p, 0⟩ row)) :
    P.Triple p R (insertRow ⟨p, 0⟩ row) (fun _ => Q) (fun _ => R) := by
  refine triple_sql hst (fun s _ _ => hP.guar _ _ _ (.idle (Idle.refl p s))) (fun _ _ h => h) ?_
  intro s r s' hinv h hf _
  simp only [Option.some.injEq, Prod.mk.injEq] at hf
  obtain ⟨rfl, rfl⟩ := hf
  exact ⟨hP.guar _ _ _ (.add s row), hadd s hinv h⟩

/-- A new incident, under an identifier of its own; or one is there already. -/
theorem insertIncident_triple {R : Db → Prop} {Q : Db → Prop} {r : Incident} (hst : P.Stable p R)
    (hnew : IncidentWrite none (some r))
    (hins : ∀ s, P.inv s → R s → Unused p r.id s → KeyOpen ⟨p, 0⟩ r.correlationKey s →
      Q (s.withIncident ⟨p, 0⟩ r)) :
    P.Triple p (fun s => R s ∧ Unused p r.id s) (insertIncident ⟨p, 0⟩ r) (fun _ => Q)
      (fun _ => R) := by
  refine triple_sql (hst.and (stable_unused hP r.id))
    (fun s _ _ => hP.guar _ _ _ (.idle (Idle.refl p s))) (fun _ _ h => h.1) ?_
  intro s q s' hinv hR hf _
  simp only at hf
  split at hf
  · simp at hf
  · rename_i hwait
    split at hf
    · simp only [Option.some.injEq, Prod.mk.injEq] at hf
      obtain ⟨rfl, rfl⟩ := hf
      exact ⟨hP.guar _ _ _ (.idle (Idle.refl p s)), hR.1⟩
    · rename_i hdup
      simp only [Option.some.injEq, Prod.mk.injEq] at hf
      obtain ⟨rfl, rfl⟩ := hf
      simp only [Bool.or_eq_true, not_or, List.any_eq_true, not_exists, not_and,
        Bool.not_eq_true] at hwait hdup
      have hopen : KeyOpen ⟨p, 0⟩ r.correlationKey s := ⟨hwait.2, hdup.2⟩
      exact ⟨hP.guar _ _ _ (.insert s r hnew hR.2 hopen), hins s hinv hR.1 hR.2 hopen⟩

theorem createIncident_triple {R : Db → Prop} {Q : Incident → Db → Prop} (resourceId : Nat)
    (key : String) (severity : Severity) (approvalRequired : Bool) (retryLimit : Int)
    (hst : P.Stable p R) (hR : OnRows R)
    (hins : ∀ s r, P.inv s → R s → Unused p r.id s → KeyOpen ⟨p, 0⟩ key s →
      IncidentWrite none (some r) → r.correlationKey = key → Q r (s.withIncident ⟨p, 0⟩ r)) :
    P.Triple p R (createIncident ⟨p, 0⟩ resourceId key severity approvalRequired retryLimit) Q
      (fun _ => R) := by
  unfold createIncident
  refine Triple.bind (repo_uuid4 hP hst hR) (fun id => ?_)
  have hst' : P.Stable p (fun s => R s ∧ Unused p id s) := hst.and (stable_unused hP id)
  refine Triple.bind (M := fun _ s => R s ∧ Unused p id s) ?_ (fun now => ?_)
  · exact (repo_select hP hst').conseq (fun _ _ h => h) (fun _ _ _ h => h.1) (fun _ _ _ h => h.1)
  by_cases hneg : retryLimit < 0
  · simp only [if_pos hneg]
    exact triple_throw_bind (fun _ _ h => h.1)
  · simp only [if_neg hneg]
    have hnew : IncidentWrite none (some
        { id := id, resourceId := resourceId, correlationKey := key, severity := severity,
          state := .detected, approvalRequired := approvalRequired,
          retryLimit := retryLimit.toNat, updatedAt := now }) :=
      IncidentWrite.create _ rfl rfl rfl
    refine Triple.bind (insertIncident_triple hP hst hnew
      (fun s hinv h hun hopen => hins s _ hinv h hun hopen hnew rfl)) (fun _ => ?_)
    exact triple_pure _ (fun _ _ h => h)

/-- `get_or_create_incident` makes an incident where nothing stood in the way of it, or has seen
one. -/
theorem getOrCreateIncident_triple {R : Db → Prop} {Q : Incident → Db → Prop} (resourceId : Nat)
    (key : String) (severity : Severity) (approvalRequired : Bool) (hst : P.Stable p R)
    (hR : OnRows R)
    (hins : ∀ s r, P.inv s → R s → Unused p r.id s → KeyOpen ⟨p, 0⟩ key s →
      IncidentWrite none (some r) → r.correlationKey = key → Q r (s.withIncident ⟨p, 0⟩ r)) :
    P.Triple p R (getOrCreateIncident ⟨p, 0⟩ resourceId key severity approvalRequired)
      (fun result s => if result.2 then Q result.1 s else R s) (fun _ => R) := by
  have hfind : P.Triple p R (getActiveIncidentByCorrelationKey ⟨p, 0⟩ key) (fun _ => R)
      (fun _ => R) :=
    (repo_select hP hst).conseq (fun _ _ h => h) (fun _ _ _ h => h.1) (fun _ _ _ h => h)
  have hfound : ∀ incident : Incident, P.Triple p R (pure (incident, false) : Prog _)
      (fun result s => if result.2 then Q result.1 s else R s) (fun _ => R) := by
    intro incident
    refine triple_pure _ ?_
    intro s _ h
    simpa using h
  unfold getOrCreateIncident
  refine Triple.bind hfind (fun found => ?_)
  cases found with
  | some incident => exact hfound incident
  | none =>
      refine Triple.handle (M := fun _ => R) ?_ ?_
      · refine Triple.bind (createIncident_triple hP resourceId key severity approvalRequired 2 hst
          hR hins) (fun incident => ?_)
        refine triple_pure _ ?_
        intro s _ h
        simpa using h
      · intro e
        by_cases he : e.exc = .integrityError
        · simp only [if_pos he]
          refine Triple.bind hfind (fun again => ?_)
          cases again with
          | some incident => exact hfound incident
          | none => exact triple_throw e (fun _ _ h => h)
        · simp only [if_neg he]
          exact triple_throw e (fun _ _ h => h)

theorem requireIncidentApproval_triple {R : Db → Prop} {M : Incident → Db → Prop} (i : Nat)
    (expectedVersion : Int) (hst : P.Stable p R)
    (hset : ∀ s q r, P.inv s → R s → (s.incidents i).free ⟨p, 0⟩ = true →
      (s.incidents i).visible ⟨p, 0⟩ = some q → IncidentWrite (some q) (some r) →
      M r (s.setIncident i ((s.incidents i).write ⟨p, 0⟩ (some r)))) :
    P.Triple p R (requireIncidentApproval ⟨p, 0⟩ i expectedVersion) M (fun _ => R) := by
  unfold requireIncidentApproval
  refine Triple.bind (M := Updated M R) (updateIncident_triple hP hst ?_ (fun _ _ h => h))
    (fun result => ?_)
  swap
  · cases result with
    | some incident => exact triple_pure incident (fun _ _ h => h)
    | none => exact triple_throw _ (fun _ _ h => h)
  · intro s q r hinv h hfree hvis hwritten
    split at hwritten
    · rename_i hc
      simp only [Option.some.injEq] at hwritten
      have hw : IncidentWrite (some q) (some r) := by
        rw [← hwritten, ← hc.1]
        exact IncidentWrite.approval q _ hc.2.1
      exact ⟨hw, hset s q r hinv h hfree hvis hw⟩
    · simp at hwritten

/-- **`transition`** writes over the row that it has checked: it has its version. -/
theorem transition_triple {R F : Db → Prop} {M : Incident → Db → Prop} (actor : String) (i : Nat)
    (expectedVersion : Int) (target : IncidentState) (hst : P.Stable p R) (hRF : ∀ s, R s → F s)
    (hM : ∀ r, P.Stable p (M r)) (hrows : ∀ r, OnRows (M r)) (hMF : ∀ r s, M r s → F s)
    (hmove : ∀ s q, P.inv s → R s → (s.incidents i).free ⟨p, 0⟩ = true →
      (s.incidents i).visible ⟨p, 0⟩ = some q → (q.version : Int) = expectedVersion →
      Admitted q target →
      M (q.transitioned (s.txTime ⟨p, 0⟩) q.version target q) (s.setIncident i
        ((s.incidents i).write ⟨p, 0⟩
          (some (q.transitioned (s.txTime ⟨p, 0⟩) q.version target q)))))
    (hpost : ∀ r s o e, P.inv s → M r s → Unused p o s → e.eventType = "incident.approved" →
      M r (s.setOutbox o ((s.outbox o).write ⟨p, 0⟩ (some e)))) :
    P.Triple p R (transition ⟨p, 0⟩ actor i expectedVersion target) M (fun _ => F) := by
  unfold transition getIncident
  have hread : P.Triple p R (select fun db => (db.incidents i).visible ⟨p, 0⟩)
      (fun found s => R s ∧ ∀ r, found = some r → SawIncident p i r s) (fun _ => F) := by
    refine (repo_select hP hst).conseq (fun _ _ h => h) ?_ (fun _ s _ h => hRF s h)
    intro found s _ h
    refine ⟨h.1, ?_⟩
    intro r hr
    rw [hr] at h
    exact Cell.visible_mem h.2.symm
  refine hread.bind (fun found => ?_)
  cases found with
  | none => exact triple_throw _ (fun s _ h => hRF s h.1)
  | some incident =>
      have hcheck : P.Triple p
          (fun s => R s ∧ ∀ r, some incident = some r → SawIncident p i r s)
          (check (incident.admitsTransition expectedVersion target))
          (fun _ s => R s ∧ SawIncident p i incident s ∧
            ((incident.version : Int) = expectedVersion ∧ Admitted incident target))
          (fun _ => F) :=
        triple_check (fun _ s hok _ h => ⟨h.1, h.2 incident rfl, admitted_of_ok hok⟩)
          (fun _ s _ _ h => hRF s h.1)
      refine hcheck.bind (fun _ => ?_)
      have hst' : P.Stable p (fun s => R s ∧ SawIncident p i incident s ∧
          ((incident.version : Int) = expectedVersion ∧ Admitted incident target)) :=
        hst.and ((stable_sawIncident hP i incident).and (stable_const _))
      refine Triple.bind (M := Updated M R) (Triple.conseq (Q := Updated M R)
        (updateIncident_triple hP hst' ?_ (fun _ _ h => h.1)) (fun _ _ h => h)
        (fun _ _ _ h => h) (fun _ s _ h => hRF s h.1)) (fun result => ?_)
      swap
      · cases result with
        | none => exact triple_throw _ (fun s _ h => hRF s h)
        | some updated =>
            by_cases htarget : target = .approved
            · simp only [if_pos htarget]
              refine Triple.bind ((repo_uuid4 hP (hM updated) (hrows updated)).conseq
                (fun _ _ h => h) (fun _ _ _ h => h) (fun _ s _ h => hMF updated s h)) (fun o => ?_)
              refine Triple.bind ((insertOutboxEvent_triple hP (hM updated)
                (fun s hinv h hun => hpost updated s o _ hinv h hun rfl)).conseq (fun _ _ h => h)
                (fun _ _ _ h => h) (fun _ s _ h => hMF updated s h)) (fun _ => ?_)
              exact triple_pure updated (fun _ _ h => h)
            · simp only [if_neg htarget]
              exact triple_pure updated (fun _ _ h => h)
      · intro s q r hinv h hfree hvis hwritten
        obtain ⟨hR, hsaw, hver, hadm⟩ := h
        split at hwritten
        · rename_i hc
          simp only [Option.some.injEq] at hwritten
          have hsame : incident = q := by
            refine Cell.eq_of_seen rowRank (fun _ _ h => h) ((hP.inv s hinv).rising i)
              hsaw hvis ?_
            simp only [rowRank]
            omega
          subst hsame
          rw [← hver] at hwritten
          rw [← hwritten]
          exact ⟨IncidentWrite.move incident _ target hadm,
            hmove s incident hinv hR hfree hvis hver hadm⟩
        · simp at hwritten

/-- An assertion that lasts while a transaction moves incidents. -/
structure Lasting (P : Protocol World A E Db) (p : Nat) (R : Db → Prop) : Prop where
  stable : P.Stable p R
  rows : OnRows R
  update : ∀ s i q r, P.inv s → R s → (s.incidents i).free ⟨p, 0⟩ = true →
    (s.incidents i).visible ⟨p, 0⟩ = some q → IncidentWrite (some q) (some r) →
    R (s.setIncident i ((s.incidents i).write ⟨p, 0⟩ (some r)))
  post : ∀ s o e, P.inv s → R s → Unused p o s → e.eventType = "incident.approved" →
    R (s.setOutbox o ((s.outbox o).write ⟨p, 0⟩ (some e)))

omit hP in
theorem lasting_true : Lasting P p (fun _ => True) :=
  ⟨stable_const True, fun _ _ _ _ => trivial, fun _ _ _ _ _ _ _ _ _ => trivial,
    fun _ _ _ _ _ _ _ => trivial⟩

theorem transition_lasts {R : Db → Prop} (hR : Lasting P p R) (actor : String) (i : Nat)
    (expectedVersion : Int) (target : IncidentState) :
    P.Triple p R (transition ⟨p, 0⟩ actor i expectedVersion target) (fun _ => R) (fun _ => R) :=
  transition_triple hP actor i expectedVersion target hR.stable (fun _ h => h)
    (fun _ => hR.stable) (fun _ => hR.rows) (fun _ _ h => h)
    (fun s q hinv h hfree hvis _ hadm =>
      hR.update s i q _ hinv h hfree hvis (IncidentWrite.move q _ target hadm))
    (fun _ s o e hinv h hun he => hR.post s o e hinv h hun he)

theorem requireIncidentApproval_lasts {R : Db → Prop} (hR : Lasting P p R) (i : Nat)
    (expectedVersion : Int) :
    P.Triple p R (requireIncidentApproval ⟨p, 0⟩ i expectedVersion) (fun _ => R) (fun _ => R) :=
  requireIncidentApproval_triple hP i expectedVersion hR.stable
    (fun s q r hinv h hfree hvis hw => hR.update s i q r hinv h hfree hvis hw)

/-! ### Blocks -/

/-- A block, with what holds of its own rows when it is entered and when it commits. -/
theorem repo_unitOfWork {α : Type} {actor : String} {body : Prog α} {B R G : Db → Prop}
    {seen : α → List Event} (hB : P.Stable p B) (hrows : OnRows B) (hst : P.Stable p R)
    (hdue : ∀ s, P.inv s → R s → due p s)
    (hbody : P.Triple p B body (fun _ => R) (fun _ _ => True))
    (hcommit : ∀ s evs, P.inv s → R s → G ((s.commit ⟨p, 0⟩).record evs))
    (hback : ∀ s, P.inv s → G (s.rollback ⟨p, 0⟩)) (hrefused : ∀ s, P.inv s → B s → G s) :
    P.Triple p B (unitOfWork ⟨p, 0⟩ actor body seen) (fun _ => G) (fun _ => G) := by
  refine triple_unitOfWork (F := fun _ => True) (M := fun _ => R) ?_ hbody (fun a => ?_) ?_ hrefused
  · exact (repo_beginTx hP hB hrows).conseq (fun _ _ h => h) (fun _ _ _ h => h)
      (fun _ _ _ _ => trivial)
  · exact triple_commitTx hst (fun s _ _ _ => ⟨hP.guar _ _ _ (.rollback s), trivial⟩)
      (fun s hinv h _ => ⟨hP.guar _ _ _ (.commit s _ (hdue s hinv h)), hcommit s _ hinv h⟩)
  · exact triple_rollbackTx (stable_const True)
      (fun s hinv _ _ => ⟨hP.guar _ _ _ (.rollback s), hback s hinv⟩)

end Programs

end SelfHealing
