/-
When `hold` blocks exclude each other.

They do not always: the lease may be taken again by its own owner, and the tasks of
one worker process share a worker id.  They do when no lease is taken while the
body of another block of the same worker runs on that incident, and no lease lapses
under a running body (`Disciplined`).

`LeaseAct` is what a task can do to the leases in one step, with all that it knows
when it does it.  `Exclusive` is kept by every such step, and every task is shown to
do nothing else; both together give the claim for all interleavings.
-/
import SelfHealing.Leases
import SelfHealing.Proofs.Rules

namespace SelfHealing

open Interleaving Interleaving.Protocol ReadCommitted

/-- The steps under which bodies exclude each other. -/
structure Disciplined (s s' : Db) : Prop where
  /-- No lease lapses under a running body. -/
  timely : ∀ i p w l, inBody p i w s'.log = true → s'.lease i = some l → s'.now < l.expiresAt
  /-- No lease is written for a worker while the body of another of its blocks runs. -/
  apart : ∀ i t l rest, (s'.leases i).pending = some ⟨t, some l :: rest⟩ →
    (s.leases i).pending ≠ (s'.leases i).pending →
      ∀ p w, p ≠ t.pid → inBody p i w s.log = true → l.owner ≠ w

/-! ### Where bodies run, after one more event -/

section InBody

variable {p q i j : Nat} {w w' : String} {log : List Event}

theorem inBody_entered_ne (hne : q ≠ p) :
    inBody p i w (.entered q j w' :: log) = inBody p i w log := by
  simp [inBody, hne]

theorem inBody_left_ne (hne : q ≠ p) : inBody p i w (.left q j :: log) = inBody p i w log := by
  simp [inBody, hne]

theorem inBody_crashed_ne (hne : q ≠ p) : inBody p i w (.crashed q :: log) = inBody p i w log := by
  simp [inBody, hne]

/-- An end of a body, or a crash, starts no other. -/
theorem inBody_of_left (h : inBody p i w (.left q j :: log) = true) :
    inBody p i w log = true := by
  simp only [inBody] at h
  split at h
  · simp at h
  · exact h

theorem inBody_of_crashed (h : inBody p i w (.crashed q :: log) = true) :
    inBody p i w log = true := by
  simp only [inBody] at h
  split at h
  · simp at h
  · exact h

theorem not_inBody_of_unseen (h : ∀ e ∈ log, e.proc ≠ p) : inBody p i w log = false := by
  induction log with
  | nil => rfl
  | cons e rest ih =>
      have hrest := ih (fun e' he' => h e' (List.mem_cons_of_mem _ he'))
      have he := h e List.mem_cons_self
      cases e with
      | entered q j u => rw [inBody_entered_ne (by simpa [Event.proc] using he)]; exact hrest
      | left q j => rw [inBody_left_ne (by simpa [Event.proc] using he)]; exact hrest
      | crashed q => rw [inBody_crashed_ne (by simpa [Event.proc] using he)]; exact hrest
      | _ => exact hrest

end InBody

/-! ### What a task does in one step -/

/-- No body of process `p` is running. -/
def Outside (p : Nat) (s : Db) : Prop := ∀ i w, inBody p i w s.log = false

/-- The writes to the lease of incident `i`, and what the task knows when it makes them. -/
inductive LeaseWrite (p i : Nat) (s : Db) : Option WorkflowLease → Prop
  | acquire (l : WorkflowLease) (hout : Outside p s) (hdrawn : s.drawnBy l.token = some p)
      (havail : ∀ cur, (s.leases i).visible ⟨p, 0⟩ = some cur →
        cur.available (s.txTime ⟨p, 0⟩) l.owner = true) : LeaseWrite p i s (some l)
  | renew (w : String) (l l' : WorkflowLease) (hin : inBody p i w s.log = true)
      (hvis : (s.leases i).visible ⟨p, 0⟩ = some l) (howner : l'.owner = l.owner)
      (htoken : l'.token = l.token) : LeaseWrite p i s (some l')
  | release (l : WorkflowLease) (hout : Outside p s)
      (hvis : (s.leases i).visible ⟨p, 0⟩ = some l) (hdrawn : s.drawnBy l.token = some p) :
      LeaseWrite p i s none
  | cleanup (l : WorkflowLease) (hout : Outside p s)
      (hvis : (s.leases i).visible ⟨p, 0⟩ = some l)
      (hlapsed : l.expiresAt ≤ s.txTime ⟨p, 0⟩) : LeaseWrite p i s none

/-- One step of a task. -/
inductive LeaseAct (p : Nat) : Db → Db → Prop
  | idle (s : Db) : LeaseAct p s s
  | draw (s : Db) : LeaseAct p s (s.draw p)
  | started (s : Db) : LeaseAct p s (s.started ⟨p, 0⟩)
  | lock (s : Db) (i : Nat) (hfree : (s.leases i).free ⟨p, 0⟩ = true) :
      LeaseAct p s (s.setLease i ((s.leases i).lock ⟨p, 0⟩))
  | write (s : Db) (i : Nat) (v : Option WorkflowLease)
      (hfree : (s.leases i).free ⟨p, 0⟩ = true) (hw : LeaseWrite p i s v) :
      LeaseAct p s (s.setLease i ((s.leases i).write ⟨p, 0⟩ v))
  | commit (s : Db) : LeaseAct p s ((s.commit ⟨p, 0⟩).record [])
  | enter (s : Db) (i : Nat) (l : WorkflowLease) (rest : List (Option WorkflowLease))
      (hpend : (s.leases i).pending = some ⟨⟨p, 0⟩, some l :: rest⟩)
      (hdrawn : s.drawnBy l.token = some p) :
      LeaseAct p s ((s.commit ⟨p, 0⟩).record [.entered p i l.owner])
  | rollback (s : Db) : LeaseAct p s (s.rollback ⟨p, 0⟩)
  | leave (s : Db) (i : Nat) : LeaseAct p s (s.record [.left p i])

/-! ### The invariant

For every body that is running, the lease of its incident is held by its owner and has not lapsed.
With that two bodies of different workers cannot run on one incident, as there is one row; and two
of the same worker are what the discipline excludes.
-/

/-- The lease of a body: its worker's, with a token that this process drew. -/
def BodyLease (s : Db) (p : Nat) (w : String) (l : WorkflowLease) : Prop :=
  l.owner = w ∧ s.drawnBy l.token = some p

structure Exclusive (s : Db) : Prop where
  clock : ∀ t, s.txTime t ≤ s.now
  drawn : ∀ id q, s.drawnBy id = some q → id < s.nextId
  timely : ∀ i p w l, inBody p i w s.log = true → s.lease i = some l → s.now < l.expiresAt
  one : ExclusiveBodies s
  /-- The committed lease is that of the body. -/
  row : ∀ i p w, inBody p i w s.log = true → ∃ l, s.lease i = some l ∧ BodyLease s p w l
  /-- Nobody but the process of the body has anything but a bare lock on it. -/
  pend : ∀ i p w t vs, inBody p i w s.log = true → (s.leases i).pending = some ⟨t, vs⟩ →
    vs = [] ∨ t.pid = p ∧ ∀ v ∈ vs, ∃ l, v = some l ∧ BodyLease s p w l

namespace Exclusive

variable {s s' : Db} {p q i : Nat} {w : String}

/-- What process `p` itself has written to a row under a running body. -/
theorem own (h : Exclusive s) (hb : inBody q i w s.log = true) (t : TxId) :
    (s.leases i).own t = [] ∨
      t.pid = q ∧ ∀ v ∈ (s.leases i).own t, ∃ l, v = some l ∧ BodyLease s q w l := by
  by_cases hl : (s.leases i).locked t
  · obtain ⟨vs, hvs⟩ := hl
    rw [Cell.own_of_locked hvs]
    exact h.pend i q w t vs hb hvs
  · exact Or.inl (Cell.own_eq_nil_of_not_locked hl)

/-- What process `p` sees of a row under a running body. -/
theorem visible (h : Exclusive s) (hb : inBody q i w s.log = true) (t : TxId) :
    ∃ l, (s.leases i).visible t = some l ∧ BodyLease s q w l ∧
      ((s.leases i).own t = [] → s.lease i = some l) := by
  obtain ⟨l₀, hl₀, hbl₀⟩ := h.row i q w hb
  rcases h.own hb t with hnil | ⟨-, hgood⟩
  · refine ⟨l₀, ?_, hbl₀, fun _ => hl₀⟩
    rw [Cell.visible_eq_committed hnil]
    exact hl₀
  · cases hown : (s.leases i).own t with
    | nil =>
        refine ⟨l₀, ?_, hbl₀, fun _ => hl₀⟩
        rw [Cell.visible_eq_committed hown]
        exact hl₀
    | cons v rest =>
        obtain ⟨l, hv, hbl⟩ := hgood v (by rw [hown]; exact List.mem_cons_self)
        refine ⟨l, ?_, hbl, fun hnil => by simp at hnil⟩
        unfold Cell.visible Cell.view
        rw [hown, hv]
        rfl

/-- Nobody else may write to a row under a running body. -/
theorem write_own (h : Exclusive s) (hb : inBody q i w s.log = true) {v : Option WorkflowLease}
    (hw : LeaseWrite p i s v)
    (hapart : ∀ l, v = some l → p ≠ q → l.owner ≠ w) :
    p = q ∧ ∃ l, v = some l ∧ BodyLease s q w l := by
  obtain ⟨l₀, hvis₀, hbl₀, hcom₀⟩ := h.visible hb ⟨p, 0⟩
  -- a process that is not in the body has written nothing, so it looks at the committed lease
  have hother : Outside p s → p ≠ q ∧ s.lease i = some l₀ := by
    intro hout
    have hne : p ≠ q := by
      intro heq
      rw [heq] at hout
      rw [hout i w] at hb
      simp at hb
    refine ⟨hne, hcom₀ ?_⟩
    rcases h.own hb ⟨p, 0⟩ with hnil | ⟨heq, -⟩
    · exact hnil
    · exact absurd heq hne
  cases hw with
  | acquire l hout hdrawn havail =>
      obtain ⟨hne, hcom⟩ := hother hout
      have havail' := havail l₀ hvis₀
      simp only [WorkflowLease.available, Bool.or_eq_true, decide_eq_true_eq] at havail'
      rcases havail' with hle | heq
      · have h1 := h.timely i q w l₀ hb hcom
        have h2 := h.clock ⟨p, 0⟩
        omega
      · exact absurd (heq.symm.trans hbl₀.1) (hapart l rfl hne)
  | renew w' l l' hin hvis howner htoken =>
      have hpq := h.one i p q w' w hin hb
      rw [hvis] at hvis₀
      simp only [Option.some.injEq] at hvis₀
      subst hvis₀
      refine ⟨hpq, l', rfl, ?_, ?_⟩
      · rw [howner]; exact hbl₀.1
      · rw [htoken]; exact hbl₀.2
  | release l hout hvis hdrawn =>
      obtain ⟨hne, -⟩ := hother hout
      rw [hvis] at hvis₀
      simp only [Option.some.injEq] at hvis₀
      subst hvis₀
      have := hdrawn.symm.trans hbl₀.2
      simp only [Option.some.injEq] at this
      exact absurd this hne
  | cleanup l hout hvis hlapsed =>
      obtain ⟨-, hcom⟩ := hother hout
      rw [hvis] at hvis₀
      simp only [Option.some.injEq] at hvis₀
      subst hvis₀
      have h1 := h.timely i q w l hb hcom
      have h2 := h.clock ⟨p, 0⟩
      omega

/-! #### Each step keeps it -/

/-- A step that touches neither leases nor bodies. -/
theorem of_same (h : Exclusive s) (hleases : s'.leases = s.leases) (hlog : s'.log = s.log)
    (hclock : ∀ t, s'.txTime t ≤ s'.now)
    (hdrawn : ∀ id q, s.drawnBy id = some q → s'.drawnBy id = some q)
    (hids : ∀ id q, s'.drawnBy id = some q → id < s'.nextId)
    (htimely : ∀ i p w l, inBody p i w s'.log = true → s'.lease i = some l → s'.now < l.expiresAt) :
    Exclusive s' where
  clock := hclock
  drawn := hids
  timely := htimely
  one := by
    intro i p q w w' hp hq
    rw [hlog] at hp hq
    exact h.one i p q w w' hp hq
  row := by
    intro i p w hp
    rw [hlog] at hp
    obtain ⟨l, hl, hbl⟩ := h.row i p w hp
    refine ⟨l, ?_, hbl.1, hdrawn _ _ hbl.2⟩
    unfold Db.lease
    rw [hleases]
    exact hl
  pend := by
    intro i p w t vs hp hpend
    rw [hlog] at hp
    rw [hleases] at hpend
    rcases h.pend i p w t vs hp hpend with hnil | ⟨heq, hgood⟩
    · exact Or.inl hnil
    · refine Or.inr ⟨heq, ?_⟩
      intro v hv
      obtain ⟨l, hl, hbl⟩ := hgood v hv
      exact ⟨l, hl, hbl.1, hdrawn _ _ hbl.2⟩

/-- A row that process `p` locks or writes to. -/
theorem of_setLease (h : Exclusive s) (i : Nat) (c : Cell TxId WorkflowLease)
    (hver : c.versions = (s.leases i).versions)
    (hpend : ∀ q w t vs, inBody q i w s.log = true → c.pending = some ⟨t, vs⟩ →
      vs = [] ∨ t.pid = q ∧ ∀ v ∈ vs, ∃ l, v = some l ∧ BodyLease s q w l) :
    Exclusive (s.setLease i c) where
  clock := h.clock
  drawn := h.drawn
  timely := by
    intro j q w l hq hl
    refine h.timely j q w l hq ?_
    by_cases hj : j = i
    · subst hj
      unfold Db.lease Cell.committed at hl ⊢
      simp only [Db.setLease, Function.update_self, hver] at hl
      exact hl
    · simpa only [Db.lease, Db.setLease, Function.update_of_ne hj] using hl
  one := h.one
  row := by
    intro j q w hq
    obtain ⟨l, hl, hbl⟩ := h.row j q w hq
    refine ⟨l, ?_, hbl⟩
    by_cases hj : j = i
    · subst hj
      unfold Db.lease Cell.committed at hl ⊢
      simp only [Db.setLease, Function.update_self, hver]
      exact hl
    · simpa only [Db.lease, Db.setLease, Function.update_of_ne hj] using hl
  pend := by
    intro j q w t vs hq hp
    by_cases hj : j = i
    · subst hj
      simp only [Db.setLease, Function.update_self] at hp
      exact hpend q w t vs hq hp
    · simp only [Db.setLease, Function.update_of_ne hj] at hp
      exact h.pend j q w t vs hq hp

theorem lock (h : Exclusive s) (i : Nat) :
    Exclusive (s.setLease i ((s.leases i).lock ⟨p, 0⟩)) := by
  refine h.of_setLease i _ rfl ?_
  intro q w t vs hq hp
  simp only [Cell.lock, Option.some.injEq, Pending.mk.injEq] at hp
  obtain ⟨rfl, rfl⟩ := hp
  exact h.own hq ⟨p, 0⟩

theorem write (h : Exclusive s) (i : Nat) {v : Option WorkflowLease} (hw : LeaseWrite p i s v)
    (hadm : Disciplined s (s.setLease i ((s.leases i).write ⟨p, 0⟩ v))) :
    Exclusive (s.setLease i ((s.leases i).write ⟨p, 0⟩ v)) := by
  refine h.of_setLease i _ rfl ?_
  intro q w t vs hq hp
  simp only [Cell.write, Option.some.injEq, Pending.mk.injEq] at hp
  obtain ⟨rfl, rfl⟩ := hp
  have hown := h.own hq ⟨p, 0⟩
  obtain ⟨hpq, l, hv, hbl⟩ := h.write_own hq hw (by
    intro l hv hne
    refine hadm.apart i ⟨p, 0⟩ l ((s.leases i).own ⟨p, 0⟩) ?_ ?_ q w (fun heq => hne heq.symm) hq
    · simp only [Db.setLease, Function.update_self, Cell.write, hv]
    · simp only [Db.setLease, Function.update_self, Cell.write, hv]
      intro heq
      have := congrArg List.length (Cell.own_of_locked heq)
      simp at this)
  refine Or.inr ⟨hpq, ?_⟩
  intro u hu
  rcases List.mem_cons.mp hu with heq | hmem
  · exact ⟨l, heq.trans hv, hbl⟩
  · rcases hown with hnil | ⟨-, hgood⟩
    · rw [hnil] at hmem
      exact absurd hmem List.not_mem_nil
    · exact hgood u hmem

/-- The row of a body once process `p` has committed or rolled back. -/
theorem pend_ended {c : Cell TxId WorkflowLease} {t t' : TxId} {vs : List (Option WorkflowLease)}
    (hend : c = (s.leases i).commit t ∨ c = (s.leases i).rollback t)
    (hp : c.pending = some ⟨t', vs⟩) : (s.leases i).pending = some ⟨t', vs⟩ := by
  by_cases hl : (s.leases i).locked t
  · obtain ⟨us, hus⟩ := hl
    rcases hend with heq | heq
    · rw [heq, Cell.commit_of_locked hus] at hp
      simp at hp
    · rw [heq, Cell.rollback_of_locked hus] at hp
      simp at hp
  · rcases hend with heq | heq
    · rw [heq, Cell.commit_of_not_locked hl] at hp
      exact hp
    · rw [heq, Cell.rollback_of_not_locked hl] at hp
      exact hp

theorem commit (h : Exclusive s) (t : TxId) (hadm : Disciplined s ((s.commit t).record [])) :
    Exclusive ((s.commit t).record []) where
  clock := h.clock
  drawn := h.drawn
  timely := hadm.timely
  one := h.one
  row := by
    intro i q w hq
    obtain ⟨l, hvis, hbl, -⟩ := h.visible hq t
    refine ⟨l, ?_, hbl⟩
    show ((s.leases i).commit t).committed = some l
    rw [Cell.committed_commit]
    exact hvis
  pend := by
    intro i q w t' vs hq hp
    exact h.pend i q w t' vs hq (pend_ended (Or.inl rfl) hp)

theorem rollback (h : Exclusive s) (t : TxId) : Exclusive (s.rollback t) where
  clock := h.clock
  drawn := h.drawn
  timely := by
    intro i q w l hq hl
    refine h.timely i q w l hq ?_
    rw [← hl]
    exact Cell.committed_rollback.symm
  one := h.one
  row := by
    intro i q w hq
    obtain ⟨l, hl, hbl⟩ := h.row i q w hq
    refine ⟨l, ?_, hbl⟩
    rw [← hl]
    exact Cell.committed_rollback
  pend := by
    intro i q w t' vs hq hp
    exact h.pend i q w t' vs hq (pend_ended (Or.inr rfl) hp)

/-- Fewer bodies. -/
theorem of_log (h : Exclusive s) (log : List Event) (stamps : List (Event × Int))
    (hlog : ∀ i q w, inBody q i w log = true → inBody q i w s.log = true) :
    Exclusive { s with log := log, stamps := stamps } where
  clock := h.clock
  drawn := h.drawn
  timely := fun i q w l hq hl => h.timely i q w l (hlog i q w hq) hl
  one := fun i q q' w w' hq hq' => h.one i q q' w w' (hlog i q w hq) (hlog i q' w' hq')
  row := fun i q w hq => h.row i q w (hlog i q w hq)
  pend := fun i q w t vs hq hp => h.pend i q w t vs (hlog i q w hq) hp

/-- A body begins: its lease is committed, and no other body was running. -/
theorem enter (h : Exclusive s) {l : WorkflowLease} {rest : List (Option WorkflowLease)}
    (hpend : (s.leases i).pending = some ⟨⟨p, 0⟩, some l :: rest⟩)
    (hdrawn : s.drawnBy l.token = some p)
    (hadm : Disciplined s ((s.commit ⟨p, 0⟩).record [.entered p i l.owner])) :
    Exclusive ((s.commit ⟨p, 0⟩).record [.entered p i l.owner]) := by
  -- whoever was in the body before the commit was this process
  have hself : ∀ q w, inBody q i w s.log = true → q = p := by
    intro q w hq
    rcases h.pend i q w _ _ hq hpend with hnil | ⟨heq, -⟩
    · simp at hnil
    · exact heq.symm
  have hlog : ∀ j q w, inBody q j w (.entered p i l.owner :: s.log) = true →
      (q = p ∧ j = i ∧ w = l.owner) ∨ (¬ (p = q ∧ i = j) ∧ inBody q j w s.log = true) := by
    intro j q w hq
    simp only [inBody] at hq
    split at hq
    · rename_i hc
      simp only [decide_eq_true_eq] at hq
      exact Or.inl ⟨hc.1.symm, hc.2.symm, hq.symm⟩
    · rename_i hc
      exact Or.inr ⟨hc, hq⟩
  refine ⟨h.clock, h.drawn, hadm.timely, ?_, ?_, ?_⟩
  · intro j q q' w w' hq hq'
    rcases hlog j q w hq with ⟨hqp, hji, -⟩ | ⟨hne, hq₀⟩
    · rcases hlog j q' w' hq' with ⟨hq'p, -, -⟩ | ⟨hne', hq'₀⟩
      · rw [hqp, hq'p]
      · rw [hji] at hq'₀
        rw [hqp, hself q' w' hq'₀]
    · rcases hlog j q' w' hq' with ⟨hq'p, hji, -⟩ | ⟨hne', hq'₀⟩
      · rw [hji] at hq₀
        rw [hq'p, hself q w hq₀]
      · exact h.one j q q' w w' hq₀ hq'₀
  · intro j q w hq
    rcases hlog j q w hq with ⟨hqp, hji, hwl⟩ | ⟨hne, hq₀⟩
    · refine ⟨l, ?_, hwl.symm, by rw [hqp]; exact hdrawn⟩
      show ((s.leases j).commit ⟨p, 0⟩).committed = some l
      rw [hji, Cell.committed_commit]
      unfold Cell.visible Cell.view
      rw [Cell.own_of_locked hpend]
      rfl
    · obtain ⟨l', hvis, hbl, -⟩ := h.visible hq₀ ⟨p, 0⟩
      refine ⟨l', ?_, hbl⟩
      show ((s.leases j).commit ⟨p, 0⟩).committed = some l'
      rw [Cell.committed_commit]
      exact hvis
  · intro j q w t vs hq hp
    rcases hlog j q w hq with ⟨hqp, hji, -⟩ | ⟨hne, hq₀⟩
    · have hp' : ((s.leases i).commit ⟨p, 0⟩).pending = some ⟨t, vs⟩ := by
        rw [← hji]
        exact hp
      rw [Cell.commit_of_locked hpend] at hp'
      simp at hp'
    · exact h.pend j q w t vs hq₀ (pend_ended (Or.inl rfl) hp)

/-- **One step of a task keeps the invariant.** -/
theorem act (h : Exclusive s) (hact : LeaseAct p s s') (hadm : Disciplined s s') :
    Exclusive s' := by
  cases hact with
  | idle => exact h
  | draw =>
      refine h.of_same rfl rfl h.clock ?_ ?_ h.timely
      · intro id q hid
        have hlt := h.drawn id q hid
        have hne : id ≠ s.nextId := by omega
        simp only [Db.draw, Function.update_of_ne hne]
        exact hid
      · intro id q hid
        by_cases hid' : id = s.nextId
        · rw [hid']
          exact Nat.lt_succ_self _
        · simp only [Db.draw, Function.update_of_ne hid'] at hid
          have := h.drawn id q hid
          show id < s.nextId + 1
          omega
  | started =>
      refine h.of_same rfl rfl ?_ (fun _ _ hid => hid) h.drawn h.timely
      intro t
      by_cases ht : t = ⟨p, 0⟩
      · rw [ht]
        simp only [Db.started, Function.update_self]
        exact Int.le_refl _
      · simp only [Db.started, Function.update_of_ne ht]
        exact h.clock t
  | lock i hfree => exact h.lock i
  | write i v hfree hw => exact h.write i hw hadm
  | commit => exact h.commit _ hadm
  | enter i l rest hpend hdrawn => exact h.enter hpend hdrawn hadm
  | rollback => exact h.rollback _
  | leave i => exact h.of_log _ _ (fun j q w hq => inBody_of_left hq)

theorem crash (h : Exclusive s) (p : Nat) : Exclusive (s.crash p) := by
  have h' : Exclusive ((s.rollback ⟨p, 0⟩).rollback ⟨p, 1⟩) := (h.rollback _).rollback _
  have hlog := h'.of_log (.crashed p :: s.log) s.stamps (fun i q w hq => inBody_of_crashed hq)
  exact hlog.of_same rfl rfl h.clock (fun _ _ hid => hid) h.drawn hlog.timely

theorem env (h : Exclusive s) {e : LeaseEnv} (he : e.apply s = some s') (hadm : Disciplined s s') :
    Exclusive s' := by
  cases e with
  | tick elapsed =>
      simp only [LeaseEnv.apply, Option.some.injEq] at he
      subst he
      refine h.of_same rfl rfl ?_ (fun _ _ hid => hid) h.drawn hadm.timely
      intro t
      have := h.clock t
      show s.txTime t ≤ s.now + (elapsed : Int)
      omega
  | incident i c =>
      simp only [LeaseEnv.apply, Option.some.injEq] at he
      subst he
      exact h.of_same rfl rfl h.clock (fun _ _ hid => hid) h.drawn hadm.timely

theorem initial (h : s.Initial) : Exclusive s := by
  have hno : ∀ i p w, ¬ inBody p i w s.log = true := by
    intro i p w hp
    rw [h.log] at hp
    simp [inBody] at hp
  exact ⟨h.clock, h.drawn, fun i p w _ hp => absurd hp (hno i p w),
    fun i p q w w' hp => absurd hp (hno i p w), fun i p w hp => absurd hp (hno i p w),
    fun i p w _ _ hp => absurd hp (hno i p w)⟩

end Exclusive

/-! ### The tasks do nothing else -/

/-- The tasks of disciplined runs, what they guarantee and what holds throughout. -/
def leaseProtocol : Protocol World LeaseTask LeaseEnv Db where
  machine := leaseMachine Disciplined
  guar := LeaseAct
  inv := Exclusive
  inv_guar := fun _ _ _ h hact hadm => h.act hact hadm
  inv_crash := fun p _ h => h.crash p
  inv_env := fun _ _ _ h he hadm => h.env he hadm

/-- What process `p` finds unchanged when others have moved. -/
structure Unmoved (p : Nat) (s s' : Db) : Prop where
  bodies : ∀ i w, inBody p i w s'.log = inBody p i w s.log
  drawn : ∀ id q, s.drawnBy id = some q → s'.drawnBy id = some q
  locked : ∀ i, (s.leases i).locked ⟨p, 0⟩ → s'.leases i = s.leases i

theorem unmoved_of_other {p : Nat} {s s' : Db} (hinv : Exclusive s)
    (h : leaseProtocol.Other p s s') : Unmoved p s s' := by
  have hset : ∀ {q i : Nat} {c : Cell TxId WorkflowLease}, q ≠ p →
      (s.leases i).free ⟨q, 0⟩ = true → Unmoved p s (s.setLease i c) := by
    intro q i c hne hfree
    refine ⟨fun _ _ => rfl, fun _ _ hid => hid, ?_⟩
    intro j hl
    by_cases hj : j = i
    · subst hj
      obtain ⟨vs, hvs⟩ := hl
      simp only [Cell.free, hvs, decide_eq_true_eq, TxId.mk.injEq] at hfree
      exact absurd hfree.1.symm hne
    · simp only [Db.setLease, Function.update_of_ne hj]
  have htx : ∀ {q k : Nat}, q ≠ p → (⟨q, k⟩ : TxId) ≠ ⟨p, 0⟩ := by
    intro q k hne heq
    simp only [TxId.mk.injEq] at heq
    exact hne heq.1
  cases h with
  | proc q hne hact hadm =>
      cases hact with
      | idle => exact ⟨fun _ _ => rfl, fun _ _ hid => hid, fun _ _ => rfl⟩
      | draw =>
          refine ⟨fun _ _ => rfl, ?_, fun _ _ => rfl⟩
          intro id r hid
          have hlt := hinv.drawn id r hid
          have hidne : id ≠ s.nextId := by omega
          simp only [Db.draw, Function.update_of_ne hidne]
          exact hid
      | started => exact ⟨fun _ _ => rfl, fun _ _ hid => hid, fun _ _ => rfl⟩
      | lock i hfree => exact hset hne hfree
      | write i v hfree hw => exact hset hne hfree
      | commit =>
          refine ⟨fun _ _ => rfl, fun _ _ hid => hid, ?_⟩
          intro i hl
          exact Cell.commit_of_not_locked (Cell.not_locked_of_locked (htx hne) hl)
      | enter i l rest hpend hdrawn =>
          refine ⟨fun _ _ => inBody_entered_ne hne, fun _ _ hid => hid, ?_⟩
          intro i hl
          exact Cell.commit_of_not_locked (Cell.not_locked_of_locked (htx hne) hl)
      | rollback =>
          refine ⟨fun _ _ => rfl, fun _ _ hid => hid, ?_⟩
          intro i hl
          exact Cell.rollback_of_not_locked (Cell.not_locked_of_locked (htx hne) hl)
      | leave i => exact ⟨fun _ _ => inBody_left_ne hne, fun _ _ hid => hid, fun _ _ => rfl⟩
  | crash q s hne =>
      refine ⟨fun _ _ => inBody_crashed_ne hne, fun _ _ hid => hid, ?_⟩
      intro i hl
      show ((s.leases i).rollback ⟨q, 0⟩).rollback ⟨q, 1⟩ = s.leases i
      rw [Cell.rollback_of_not_locked (Cell.not_locked_of_locked (htx hne) hl),
        Cell.rollback_of_not_locked (Cell.not_locked_of_locked (htx hne) hl)]
  | env e he hadm =>
      cases e with
      | tick elapsed =>
          have he' : some _ = some s' := he
          simp only [Option.some.injEq] at he'
          subst he'
          exact ⟨fun _ _ => rfl, fun _ _ hid => hid, fun _ _ => rfl⟩
      | incident i c =>
          have he' : some _ = some s' := he
          simp only [Option.some.injEq] at he'
          subst he'
          exact ⟨fun _ _ => rfl, fun _ _ hid => hid, fun _ _ => rfl⟩

section Tasks

variable {p i : Nat} {w : String} {ttl : Int} {token : Nat}

/-- The token is one that this process drew. -/
def Drew (p token : Nat) (s : Db) : Prop := s.drawnBy token = some p

/-- The lease is written, and not committed yet. -/
def Taken (p i : Nat) (w : String) (s : Db) : Prop :=
  ∃ l rest, (s.leases i).pending = some ⟨⟨p, 0⟩, some l :: rest⟩ ∧ l.owner = w ∧
    s.drawnBy l.token = some p

/-- The body runs, and no other of this process. -/
def Inside (p i : Nat) (w : String) (s : Db) : Prop :=
  inBody p i w s.log = true ∧ ∀ j w', inBody p j w' s.log = true → j = i

theorem stable_outside : leaseProtocol.Stable p (Outside p) := by
  intro s s' hinv hout hother j u
  rw [(unmoved_of_other hinv hother).bodies]
  exact hout j u

theorem stable_drew : leaseProtocol.Stable p (Drew p token) := by
  intro s s' hinv hdrew hother
  exact (unmoved_of_other hinv hother).drawn _ _ hdrew

theorem stable_inside : leaseProtocol.Stable p (Inside p i w) := by
  intro s s' hinv hin hother
  have hsame := (unmoved_of_other hinv hother).bodies
  refine ⟨by rw [hsame]; exact hin.1, ?_⟩
  intro j u hj
  rw [hsame] at hj
  exact hin.2 j u hj

theorem stable_taken : leaseProtocol.Stable p (Taken p i w) := by
  intro s s' hinv htaken hother
  obtain ⟨l, rest, hpend, howner, hdrawn⟩ := htaken
  have hun := unmoved_of_other hinv hother
  refine ⟨l, rest, ?_, howner, hun.drawn _ _ hdrawn⟩
  rw [hun.locked i ⟨_, hpend⟩]
  exact hpend

/-- What the upsert writes, and when it does. -/
theorem acquire_some {now : Int} {version : Nat} {row : Option WorkflowLease} {l : WorkflowLease}
    (h : WorkflowLease.acquire now w token ttl version row = some l) :
    l.owner = w ∧ l.token = token ∧
      ∀ cur, row = some cur → cur.available now w = true := by
  unfold WorkflowLease.acquire at h
  cases row with
  | none =>
      simp only [Option.some.injEq] at h
      subst h
      exact ⟨rfl, rfl, fun cur hcur => by simp at hcur⟩
  | some current =>
      simp only at h
      split at h
      · rename_i hav
        simp only [Option.some.injEq] at h
        subst h
        refine ⟨rfl, rfl, ?_⟩
        intro cur hcur
        simp only [Option.some.injEq] at hcur
        rw [← hcur]
        exact hav
      · simp at h

theorem acquireIncidentLease_triple (version : Option Nat) :
    leaseProtocol.Triple p (Outside p) (acquireIncidentLease ⟨p, 0⟩ i w ttl version)
      (fun token s => Outside p s ∧ Drew p token s ∧ Taken p i w s) (fun _ => Outside p) := by
  unfold acquireIncidentLease
  have hdraw : leaseProtocol.Triple p (Outside p) (uuid4 p)
      (fun token s => Outside p s ∧ Drew p token s) (fun _ => Outside p) := by
    refine triple_uuid4 stable_outside ?_
    intro s hinv hout hadm
    refine ⟨LeaseAct.draw s, hout, ?_⟩
    simp only [Drew, Db.draw, Function.update_self]
  refine hdraw.bind (fun token => ?_)
  have hst : leaseProtocol.Stable p (fun s => Outside p s ∧ Drew p token s) :=
    stable_outside.and stable_drew
  have hread : leaseProtocol.Triple p (fun s => Outside p s ∧ Drew p token s)
      (select fun db => (db.incidents i).visible ⟨p, 0⟩)
      (fun _ s => Outside p s ∧ Drew p token s) (fun _ => Outside p) :=
    triple_select hst (fun s _ _ => LeaseAct.idle s) (fun s _ h => h.1) (fun s _ h => h)
  refine hread.bind (fun incident => ?_)
  cases incident with
  | none => exact triple_throw _ (fun s _ h => h.1)
  | some incident =>
      simp only
      split
      · exact triple_throw _ (fun s _ h => h.1)
      · have hupsert : leaseProtocol.Triple p (fun s => Outside p s ∧ Drew p token s)
            (upsertLease ⟨p, 0⟩ i w token ttl incident.version)
            (fun result s => Outside p s ∧
              ∀ tok, result = some tok → Drew p tok s ∧ Taken p i w s)
            (fun _ => Outside p) := by
          refine triple_sql hst (fun s _ _ => LeaseAct.idle s) (fun s _ h => h.1) ?_
          intro s r s' hinv hR hf hadm
          simp only at hf
          split at hf
          swap
          · simp at hf
          rename_i hfree
          split at hf
          · simp only [Option.some.injEq, Prod.mk.injEq] at hf
            obtain ⟨rfl, rfl⟩ := hf
            exact ⟨LeaseAct.idle s, hR.1⟩
          · split at hf
            · rename_i l hl
              simp only [Option.some.injEq, Prod.mk.injEq] at hf
              obtain ⟨rfl, rfl⟩ := hf
              obtain ⟨howner, htok, havail⟩ := acquire_some hl
              refine ⟨LeaseAct.write s i _ hfree (LeaseWrite.acquire l hR.1 ?_ ?_), ?_⟩
              · rw [htok]; exact hR.2
              · intro cur hcur
                rw [howner]
                exact havail cur hcur
              · refine ⟨hR.1, ?_⟩
                intro tok htok'
                simp only [Option.some.injEq] at htok'
                subst htok'
                refine ⟨hR.2, l, (s.leases i).own ⟨p, 0⟩, ?_, howner, ?_⟩
                · simp only [Db.setLease, Function.update_self]
                  rfl
                · rw [htok]; exact hR.2
            · simp only [Option.some.injEq, Prod.mk.injEq] at hf
              obtain ⟨rfl, rfl⟩ := hf
              exact ⟨LeaseAct.lock s i hfree, hR.1, fun tok htok => by simp at htok⟩
        refine hupsert.bind (fun result => ?_)
        cases result with
        | none => exact triple_throw _ (fun s _ h => h.1)
        | some tok => exact triple_pure tok (fun s _ h => ⟨h.1, h.2 tok rfl⟩)

/-- An assertion that looks at bodies and drawn tokens only. -/
def Local (R : Db → Prop) : Prop :=
  ∀ s s' : Db, s'.log = s.log → s'.drawnBy = s.drawnBy → R s → R s'

theorem local_outside : Local (Outside p) := by
  intro s s' hlog _ h
  unfold Outside
  rw [hlog]
  exact h

theorem local_working : Local (fun s => Inside p i w s ∧ Drew p token s) := by
  intro s s' hlog hdrawn h
  unfold Inside Drew at h ⊢
  rw [hlog, hdrawn]
  exact h

theorem local_done : Local (fun s => Outside p s ∧ Drew p token s) := by
  intro s s' hlog hdrawn h
  unfold Outside Drew at h ⊢
  rw [hlog, hdrawn]
  exact h

section Blocks

variable {R : Db → Prop} (hst : leaseProtocol.Stable p R) (hloc : Local R)

include hst hloc

/-- A block whose body keeps such an assertion keeps it. -/
theorem unitOfWork_triple {α : Type} {body : Prog α} {actor : String}
    (hbody : leaseProtocol.Triple p R body (fun _ => R) (fun _ => R)) :
    leaseProtocol.Triple p R (unitOfWork ⟨p, 0⟩ actor body) (fun _ => R) (fun _ => R) := by
  refine triple_unitOfWork (B := R) (F := R) (M := fun _ => R) ?_ hbody (fun _ => ?_) ?_
    (fun s _ h => h)
  · exact triple_beginTx hst (fun s _ _ => LeaseAct.idle s) (fun s _ h => h)
      (fun s _ h _ => ⟨LeaseAct.started s, hloc s _ rfl rfl h⟩)
  · exact triple_commitTx hst (fun s _ h _ => ⟨LeaseAct.rollback s, hloc s _ rfl rfl h⟩)
      (fun s _ h _ => ⟨LeaseAct.commit s, hloc s _ rfl rfl h⟩)
  · exact triple_rollbackTx hst (fun s _ h _ => ⟨LeaseAct.rollback s, hloc s _ rfl rfl h⟩)

theorem renewIncidentLease_triple (hin : ∀ s, R s → Inside p i w s) :
    leaseProtocol.Triple p R (renewIncidentLease ⟨p, 0⟩ i token ttl) (fun _ => R) (fun _ => R) := by
  refine triple_sql hst (fun s _ _ => LeaseAct.idle s) (fun s _ h => h) ?_
  intro s r s' hinv hR hf hadm
  simp only at hf
  split at hf
  · rename_i l' hl'
    split at hf
    swap
    · simp at hf
    rename_i hfree
    split at hf
    · simp only [Option.some.injEq, Prod.mk.injEq] at hf
      obtain ⟨rfl, rfl⟩ := hf
      unfold WorkflowLease.renew at hl'
      split at hl'
      · simp at hl'
      · rename_i l hl
        split at hl'
        · simp only [Option.some.injEq] at hl'
          subst hl'
          exact ⟨LeaseAct.write s i _ hfree (LeaseWrite.renew w l _ (hin s hR).1 hl rfl rfl),
            hloc s _ rfl rfl hR⟩
        · simp at hl'
    · simp only [Option.some.injEq, Prod.mk.injEq] at hf
      obtain ⟨rfl, rfl⟩ := hf
      exact ⟨LeaseAct.idle s, hR⟩
  · simp only [Option.some.injEq, Prod.mk.injEq] at hf
    obtain ⟨rfl, rfl⟩ := hf
    exact ⟨LeaseAct.idle s, hR⟩

/-- A `DELETE` of rows that a condition picks out. -/
theorem delete_triple {C : Db → Option WorkflowLease → Bool}
    (hC : ∀ s, R s → C s ((s.leases i).visible ⟨p, 0⟩) = true → LeaseWrite p i s none) :
    leaseProtocol.Triple p R
      (sql fun db =>
        let c := db.leases i
        if C db (c.visible ⟨p, 0⟩) then
          if c.free ⟨p, 0⟩ then some (.ok (), db.setLease i (c.write ⟨p, 0⟩ none)) else none
        else some (.ok (), db))
      (fun _ => R) (fun _ => R) := by
  refine triple_sql hst (fun s _ _ => LeaseAct.idle s) (fun s _ h => h) ?_
  intro s r s' hinv hR hf hadm
  simp only at hf
  split at hf
  · rename_i hc
    split at hf
    · rename_i hfree
      simp only [Option.some.injEq, Prod.mk.injEq] at hf
      obtain ⟨rfl, rfl⟩ := hf
      exact ⟨LeaseAct.write s i none hfree (hC s hR hc), hloc s _ rfl rfl hR⟩
    · simp at hf
  · simp only [Option.some.injEq, Prod.mk.injEq] at hf
    obtain ⟨rfl, rfl⟩ := hf
    exact ⟨LeaseAct.idle s, hR⟩

end Blocks

/-- The heartbeat renews only while its body runs. -/
theorem renewLoop_triple (n : Nat) :
    leaseProtocol.Triple p (fun s => Inside p i w s ∧ Drew p token s)
      (renewLoop p i w ttl token n) (fun _ s => Inside p i w s ∧ Drew p token s)
      (fun _ s => Inside p i w s ∧ Drew p token s) := by
  have hst : leaseProtocol.Stable p (fun s => Inside p i w s ∧ Drew p token s) :=
    stable_inside.and stable_drew
  induction n with
  | zero => exact triple_pure () (fun s _ h => h)
  | succ n ih =>
      unfold renewLoop
      have hrenew : leaseProtocol.Triple p (fun s => Inside p i w s ∧ Drew p token s)
          (unitOfWork ⟨p, 0⟩ w (renewIncidentLease ⟨p, 0⟩ i token ttl))
          (fun _ s => Inside p i w s ∧ Drew p token s)
          (fun _ s => Inside p i w s ∧ Drew p token s) :=
        unitOfWork_triple hst local_working
          (renewIncidentLease_triple hst local_working (fun s h => h.1))
      refine Triple.bind (hrenew.handle (fun _ => triple_pure true (fun s _ h => h)))
        (fun success => ?_)
      cases success with
      | true => exact ih
      | false => exact triple_pure () (fun s _ h => h)

/-- `hold` takes its lease outside any body, enters, and leaves before it releases. -/
theorem hold_triple (expectedVersion : Option Nat) (beats : Nat) :
    leaseProtocol.Triple p (Outside p) (hold p i w ttl expectedVersion beats)
      (fun _ _ => True) (fun _ _ => True) := by
  unfold hold
  have hacquire : leaseProtocol.Triple p (Outside p)
      (unitOfWork ⟨p, 0⟩ w (acquireIncidentLease ⟨p, 0⟩ i w ttl expectedVersion)
        (fun _ => [.entered p i w]))
      (fun token s => Inside p i w s ∧ Drew p token s) (fun _ _ => True) := by
    refine (triple_unitOfWork (B := Outside p) (F := Outside p) (G := Outside p)
      (M := fun token s => Outside p s ∧ Drew p token s ∧ Taken p i w s) ?_
      (acquireIncidentLease_triple expectedVersion) (fun token => ?_) ?_ (fun s _ h => h)).conseq
      (fun s _ h => h) (fun _ _ _ h => h) (fun _ _ _ _ => trivial)
    · exact triple_beginTx stable_outside (fun s _ _ => LeaseAct.idle s) (fun s _ h => h)
        (fun s _ h _ => ⟨LeaseAct.started s, h⟩)
    · refine triple_commitTx (stable_outside.and (stable_drew.and stable_taken))
        (fun s _ h _ => ⟨LeaseAct.rollback s, h.1⟩) ?_
      intro s hinv hR hadm
      obtain ⟨hout, hdrew, l, rest, hpend, howner, hdrawn⟩ := hR
      subst howner
      refine ⟨LeaseAct.enter s i l rest hpend hdrawn, ⟨?_, ?_⟩, hdrew⟩
      · simp [Db.record, Db.commit, inBody]
      · intro j w' hj
        simp only [Db.record, Db.commit, List.cons_append, List.nil_append, inBody] at hj
        split at hj
        · rename_i hc
          exact hc.2.symm
        · rw [hout j w'] at hj
          simp at hj
    · exact triple_rollbackTx stable_outside (fun s _ h _ => ⟨LeaseAct.rollback s, h⟩)
  refine hacquire.bind (fun token => ?_)
  have hloop : leaseProtocol.Triple p (fun s => Inside p i w s ∧ Drew p token s)
      (renewLoop p i w ttl token beats) (fun _ s => Inside p i w s ∧ Drew p token s)
      (fun _ _ => True) :=
    (renewLoop_triple beats).conseq (fun s _ h => h) (fun _ _ _ h => h) (fun _ _ _ _ => trivial)
  refine hloop.bind (fun _ => ?_)
  have hleave : leaseProtocol.Triple p (fun s => Inside p i w s ∧ Drew p token s)
      (observe [.left p i]) (fun _ s => Outside p s ∧ Drew p token s) (fun _ _ => True) := by
    refine triple_observe (stable_inside.and stable_drew) ?_
    intro s hinv hR hadm
    refine ⟨LeaseAct.leave s i, ?_, hR.2⟩
    intro j w'
    simp only [Db.record, List.cons_append, List.nil_append, inBody]
    split
    · rfl
    · rename_i hc
      by_contra hj
      exact hc ⟨trivial, (hR.1.2 j w' (by simpa using hj)).symm⟩
  refine hleave.bind (fun _ => ?_)
  have hst : leaseProtocol.Stable p (fun s => Outside p s ∧ Drew p token s) :=
    stable_outside.and stable_drew
  have hrelease : leaseProtocol.Triple p (fun s => Outside p s ∧ Drew p token s)
      (releaseIncidentLease ⟨p, 0⟩ i token) (fun _ s => Outside p s ∧ Drew p token s)
      (fun _ s => Outside p s ∧ Drew p token s) := by
    refine delete_triple (C := fun _ => WorkflowLease.released token) hst local_done ?_
    intro s hR hc
    unfold WorkflowLease.released at hc
    split at hc
    · simp at hc
    · rename_i l hl
      simp only [decide_eq_true_eq] at hc
      exact LeaseWrite.release l hR.1 hl (by rw [hc]; exact hR.2)
  refine Triple.handle (M := fun _ _ => True) ?_ (fun _ => triple_pure () (fun _ _ _ => trivial))
  exact (unitOfWork_triple hst local_done hrelease).conseq (fun s _ h => h)
    (fun _ _ _ _ => trivial) (fun _ _ _ _ => trivial)

theorem cleanupRows_triple (is : List Nat) :
    leaseProtocol.Triple p (Outside p) (cleanupRows p is) (fun _ => Outside p)
      (fun _ => Outside p) := by
  induction is with
  | nil => exact triple_pure () (fun s _ h => h)
  | cons j rest ih =>
      unfold cleanupRows
      refine Triple.bind ?_ (fun _ => ih)
      refine delete_triple (C := fun db => WorkflowLease.lapsed (db.txTime ⟨p, 0⟩))
        stable_outside local_outside ?_
      intro s hR hc
      unfold WorkflowLease.lapsed at hc
      split at hc
      · simp at hc
      · rename_i l hl
        simp only [decide_eq_true_eq] at hc
        exact LeaseWrite.cleanup l hR hl hc

end Tasks

/-- Every task keeps to its guarantee. -/
theorem leaseProtocol_verified : leaseProtocol.Verified := by
  intro p task s hinv hready
  have hout : Outside p s := fun i w => not_inBody_of_unseen hready
  cases task with
  | hold incidentId workerId ttl expectedVersion beats =>
      exact triple_ignore (hold_triple expectedVersion beats) hinv hout
  | cleanup incidentIds =>
      have hcleanup : ∀ actor, leaseProtocol.Triple p (Outside p)
          (unitOfWork ⟨p, 0⟩ actor (cleanupRows p incidentIds))
          (fun _ => Outside p) (fun _ => Outside p) :=
        fun _ => unitOfWork_triple stable_outside local_outside (cleanupRows_triple incidentIds)
      exact triple_ignore (hcleanup "worker:recovery") hinv hout

/-- **Exclusive processing**, for disciplined runs: whatever the workers, their tasks, the
renewals that fail and the clock, no two bodies run on one incident at once. -/
theorem exclusiveBodies_of_disciplined (db₀ : Db) (h₀ : db₀.Initial) (c : Config World Db)
    (hr : Reaches (leaseMachine Disciplined) (Config.idle db₀) c) : ExclusiveBodies c.state :=
  (inv_of_reaches leaseProtocol_verified (Exclusive.initial h₀) hr).one

/-- An open incident that nobody works on. -/
def openIncidentDb : Db :=
  { Db.init 0 with
    incidents := fun _ => Cell.ofRow { id := 1, resourceId := 7, correlationKey := "demo", updatedAt := 0 } }

theorem openIncidentDb_initial : openIncidentDb.Initial :=
  ⟨rfl, fun _ => Int.le_refl _, fun _ _ h => by simp [openIncidentDb, Db.init] at h⟩

/-- The one body of worker `worker:a` runs on incident 1, its lease not lapsed. -/
def oneBody (s s' : Db) : Prop :=
  s.log = [] ∧ (s'.log = [] ∨ s'.log = [.entered 0 1 "worker:a"] ∧
    (s'.lease 1).all (fun l => s'.now < l.expiresAt) = true)

instance (s s' : Db) : Decidable (oneBody s s') := by
  unfold oneBody
  infer_instance

/-- A worker takes the lease, and is the one whose body runs. -/
theorem exclusiveBodies_one_worker : ∃ c, Reaches (leaseMachine Disciplined)
    (Config.idle openIncidentDb) c ∧ inBody 0 1 "worker:a" c.state.log = true ∧
    ExclusiveBodies c.state := by
  obtain ⟨c, hr, hbody⟩ := Machine.reaches_of_exec (leaseMachine oneBody)
    (Config.idle openIncidentDb)
    (.start 0 (.hold 1 "worker:a" 30 none 0) :: List.replicate 5 (.run 0 {}))
    (fun db => inBody 0 1 "worker:a" db.log) (by decide)
  have hmono : ∀ s s', oneBody s s' → Disciplined s s' := by
    intro s s' h
    obtain ⟨hlog, hlog'⟩ := h
    refine ⟨?_, ?_⟩
    · intro i p w l hp hl
      rcases hlog' with hnil | ⟨hone, hall⟩
      · rw [hnil] at hp
        simp [inBody] at hp
      · rw [hone] at hp
        simp only [inBody] at hp
        split at hp
        · rename_i hc
          rw [← hc.2] at hl
          rw [hl] at hall
          simpa using hall
        · simp at hp
    · intro i t l rest _ _ p w _ hp
      rw [hlog] at hp
      simp [inBody] at hp
  have hr' : Reaches (leaseMachine Disciplined) (Config.idle openIncidentDb) c := hr.mono hmono
  exact ⟨c, hr', hbody,
    exclusiveBodies_of_disciplined openIncidentDb openIncidentDb_initial c hr'⟩

/-- **Bodies may overlap**: the stream consumer and the recovery sweeper of one worker share its
id, and the second acquires the lease of the first. -/
theorem exclusiveBodies_same_worker :
    ¬ ∀ (db₀ : Db), db₀.Initial → ∀ c : Config World Db,
      Reaches (leaseMachine (fun _ _ => True)) (Config.idle db₀) c → ExclusiveBodies c.state := by
  intro hall
  obtain ⟨c, hr, hboth⟩ := Machine.reaches_of_exec (leaseMachine (fun _ _ => True))
    (Config.idle openIncidentDb)
    ([.start 0 (.hold 1 "worker:a" 30 none 0), .start 1 (.hold 1 "worker:a" 30 none 0)] ++
      List.replicate 5 (.run 0 {}) ++ List.replicate 5 (.run 1 {}))
    (fun db => inBody 0 1 "worker:a" db.log && inBody 1 1 "worker:a" db.log) (by decide)
  simp only [Bool.and_eq_true] at hboth
  have := hall openIncidentDb openIncidentDb_initial c hr 1 0 1 _ _ hboth.1 hboth.2
  omega

end SelfHealing
