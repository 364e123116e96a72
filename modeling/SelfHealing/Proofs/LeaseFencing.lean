/-
Lease tokens fence off their former holders.

Between operations the lease row of an incident is not locked and its token has
been handed out before (`Quiet`).  Every operation keeps that, and gives the row
either the token it had or a fresh one (`LeaseStep.token`).  A token that was once
in the row and has left it can therefore never come back, which is the whole of
fencing: the rest reads off what the statements do with a token that is not there.

The drawn tokens are kept in the state, newest first, so that being fresh is being in none of the
rows so far.  Nothing is asked of the clock: a token that was renewed or taken over late is fenced
off all the same, and what time does is only to say when somebody else may take the lease.

A block of operations may end in a rollback, and then the row has what it had before; or it is
committed, and the row has what the last operation has left.  In both cases the row is quiet again,
and so sequences of blocks need no more than one lemma about each of them.
-/
import SelfHealing.Leases
import SelfHealing.Proofs.Transactions

namespace SelfHealing

open Interleaving Interleaving.Prog ReadCommitted

/-- Between operations: the row is not locked, and its token has been handed out. -/
structure Quiet (i : Nat) (db : Db) : Prop where
  idle : (db.leases i).pending = none
  issued : ∀ l, db.lease i = some l → l.token < db.nextId

variable {i : Nat} {t : TxId} {db db' db₂ : Db}

/-! ### The end of a transaction on one row -/

section Cells

variable {V : Type} {c c' : Cell TxId V}

theorem visible_of_idle (h : c.pending = none) : c.visible t = c.committed :=
  Cell.visible_eq_committed (by simp [Cell.own, h])

theorem free_of_idle (h : c.pending = none) : c.free t = true := by
  simp [Cell.free, h]

/-- What a transaction can have done to a row that was idle when it began. -/
inductive Touched (t : TxId) (c : Cell TxId V) : Cell TxId V → Prop
  | same : Touched t c c
  | locked : Touched t c (c.lock t)
  | written (v : Option V) : Touched t c (c.write t v)

theorem Touched.rollback (h : Touched t c c') (hidle : c.pending = none) :
    c'.rollback t = c := by
  obtain ⟨vs, q⟩ := c
  subst hidle
  cases h with
  | same => rfl
  | locked => simp [Cell.rollback, Cell.lock]
  | written v => simp [Cell.rollback, Cell.write]

theorem rollback_of_idle (hidle : c.pending = none) : c.rollback t = c :=
  Touched.same.rollback hidle

theorem commit_of_idle (hidle : c.pending = none) : c.commit t = c := by
  simp [Cell.commit, hidle]

theorem Touched.commit_idle (h : Touched t c c') (hidle : c.pending = none) :
    (c'.commit t).pending = none := by
  cases h with
  | same => simp [Cell.commit, hidle]
  | locked => simp [Cell.commit, Cell.lock]
  | written v => simp [Cell.commit, Cell.write]

end Cells

/-! ### What the statements do to the row

For each of the operations it is said in which states of the row it can end, and nothing more is
used of it.
-/

/-- What `acquire_incident_lease` has done when it returns, and that it has written nothing when
it raises. -/
theorem acquireIncidentLease_ends {owner : String} {ttl : Int} {version : Option Nat}
    {r : Except Err Nat} (hidle : (db.leases i).pending = none)
    (h : (acquireIncidentLease t i owner ttl version).Ends db r db₂) :
    db₂.nextId = db.nextId + 1 ∧
    ((∃ l : WorkflowLease, r = .ok l.token ∧ l.token = db.nextId ∧
        (∀ cur, db.lease i = some cur → cur.available (db.txTime t) owner = true) ∧
        db₂.leases i = (db.leases i).write t (some l)) ∨
      (∃ e, r = .error e) ∧ Touched t (db.leases i) (db₂.leases i) ∧
        (db₂.leases i).visible t = (db.leases i).visible t) := by
  unfold acquireIncidentLease at h
  rw [ends_bind] at h
  rcases h with ⟨token, db₁, hid, h⟩ | ⟨e, hid, -⟩
  swap
  · obtain ⟨hbad, -⟩ := ends_uuid4.mp hid
    cases hbad
  obtain ⟨htok, rfl⟩ := ends_uuid4.mp hid
  cases htok
  rw [ends_bind] at h
  rcases h with ⟨incident, db₁, hsel, h⟩ | ⟨e, hsel, rfl⟩
  swap
  · obtain ⟨rfl, -⟩ := ends_select.mp hsel
    exact ⟨rfl, Or.inr ⟨⟨e, rfl⟩, Touched.same, rfl⟩⟩
  obtain ⟨rfl, -⟩ := ends_select.mp hsel
  cases incident with
  | none =>
      obtain ⟨rfl, rfl⟩ := ends_throw.mp h
      exact ⟨rfl, Or.inr ⟨⟨_, rfl⟩, Touched.same, rfl⟩⟩
  | some incident =>
      simp only at h
      split at h
      · obtain ⟨rfl, rfl⟩ := ends_throw.mp h
        exact ⟨rfl, Or.inr ⟨⟨_, rfl⟩, Touched.same, rfl⟩⟩
      · have hidle' : ((db.draw t.pid).leases i).pending = none := hidle
        rw [ends_bind] at h
        unfold upsertLease at h
        simp only [ends_sql, free_of_idle hidle', if_true] at h
        rcases h with ⟨result, db₁, hup, h⟩ | ⟨e, hup, rfl⟩
        · rcases hup with ⟨hbad, -⟩ | hup
          · cases hbad
          · split at hup
            · cases hup
            · split at hup
              · rename_i l hl
                cases hup
                obtain ⟨rfl, rfl⟩ := ends_pure.mp h
                unfold WorkflowLease.acquire at hl
                have hl' : l.token = db.nextId ∧
                    ∀ cur, db.lease i = some cur → cur.available (db.txTime t) owner = true := by
                  split at hl
                  · rename_i hrow
                    rw [visible_of_idle hidle'] at hrow
                    cases hl
                    refine ⟨rfl, ?_⟩
                    intro cur hcur
                    rw [show db.lease i = none from hrow] at hcur
                    cases hcur
                  · rename_i current hrow
                    rw [visible_of_idle hidle'] at hrow
                    split at hl
                    · rename_i hav
                      cases hl
                      refine ⟨rfl, ?_⟩
                      intro cur hcur
                      rw [show db.lease i = some current from hrow] at hcur
                      cases hcur
                      exact hav
                    · cases hl
                refine ⟨rfl, Or.inl ⟨l, by rw [hl'.1], hl'.1, hl'.2, ?_⟩⟩
                simp only [Db.setLease, Function.update_self]
                rfl
              · cases hup
                obtain ⟨rfl, rfl⟩ := ends_throw.mp h
                refine ⟨rfl, Or.inr ⟨⟨_, rfl⟩, ?_, ?_⟩⟩
                · simp only [Db.setLease, Function.update_self]
                  exact Touched.locked
                · simp only [Db.setLease, Function.update_self, Cell.visible_lock]
                  rfl
        · rcases hup with ⟨-, rfl⟩ | hup
          · exact ⟨rfl, Or.inr ⟨⟨_, rfl⟩, Touched.same, rfl⟩⟩
          · split at hup
            · cases hup
              exact ⟨rfl, Or.inr ⟨⟨_, rfl⟩, Touched.same, rfl⟩⟩
            · split at hup <;> cases hup

/-- `verify_incident_lease` writes nothing, and says yes only to the token of a live lease. -/
theorem verifyIncidentLease_ends {token : Nat} {version : Option Nat} {r : Except Err Bool}
    (hidle : (db.leases i).pending = none)
    (h : (verifyIncidentLease t i token version).Ends db r db₂) :
    db₂ = db ∧ (r = .ok true → WorkflowLease.verifies db.now token (db.lease i) = true) := by
  unfold verifyIncidentLease at h
  rw [ends_bind] at h
  rcases h with ⟨lease, db₁, hsel, h⟩ | ⟨e, hsel, rfl⟩
  swap
  · obtain ⟨rfl, -⟩ := ends_select.mp hsel
    exact ⟨rfl, fun hbad => by cases hbad⟩
  obtain ⟨rfl, hlease⟩ := ends_select.mp hsel
  rw [ends_bind] at h
  rcases h with ⟨now, db₁, hnow, h⟩ | ⟨e, hnow, rfl⟩
  swap
  · obtain ⟨hbad, -⟩ := ends_datetimeNow.mp hnow
    cases hbad
  obtain ⟨hn, rfl⟩ := ends_datetimeNow.mp hnow
  cases hn
  have hrow : lease = db₁.lease i := by
    rcases hlease with hbad | hl
    · cases hbad
    · cases hl
      exact visible_of_idle hidle
  rw [hrow] at h
  split at h
  · rename_i hv
    refine ⟨?_, fun _ => hv⟩
    cases version with
    | none => exact (ends_pure.mp h).2
    | some v =>
        simp only at h
        rw [ends_bind] at h
        rcases h with ⟨incident, db₂', hsel', h⟩ | ⟨e, hsel', -⟩
        · obtain ⟨rfl, -⟩ := ends_select.mp hsel'
          exact (ends_pure.mp h).2
        · exact (ends_select.mp hsel').1
  · obtain ⟨rfl, rfl⟩ := ends_pure.mp h
    exact ⟨rfl, fun hbad => by cases hbad⟩

/-- `renew_incident_lease` keeps the token, and says yes only to the token of a live lease. -/
theorem renewIncidentLease_ends {token : Nat} {ttl : Int} {r : Except Err Bool}
    (hidle : (db.leases i).pending = none)
    (h : (renewIncidentLease t i token ttl).Ends db r db₂) :
    db₂.nextId = db.nextId ∧
    (db₂ = db ∧ r ≠ .ok true ∨
      ∃ l l' : WorkflowLease, db.lease i = some l ∧ l.token = token ∧ l'.token = token ∧
        r = .ok true ∧ db₂.leases i = (db.leases i).write t (some l')) := by
  unfold renewIncidentLease at h
  simp only [ends_sql, free_of_idle hidle, if_true, visible_of_idle hidle] at h
  rcases h with ⟨rfl, rfl⟩ | h
  · exact ⟨rfl, Or.inl ⟨rfl, fun hbad => by cases hbad⟩⟩
  · split at h
    · rename_i l' hl'
      split at h
      · cases h
        refine ⟨rfl, Or.inr ?_⟩
        unfold WorkflowLease.renew at hl'
        split at hl'
        · cases hl'
        · rename_i l hl
          split at hl'
          · rename_i hcond
            cases hl'
            exact ⟨l, { l with expiresAt := db.txTime t + seconds ttl }, hl, hcond.1, hcond.1, rfl,
              by simp [Db.setLease]⟩
          · cases hl'
      · cases h
        exact ⟨rfl, Or.inl ⟨rfl, fun hbad => by cases hbad⟩⟩
    · cases h
      exact ⟨rfl, Or.inl ⟨rfl, fun hbad => by cases hbad⟩⟩

/-- A `DELETE` removes the row if its condition holds, and does nothing else. -/
theorem delete_ends {P : Db → Option WorkflowLease → Bool} {r : Except Err Unit}
    (hidle : (db.leases i).pending = none)
    (h : (sql fun db =>
      let c := db.leases i
      if P db (c.visible t) then
        if c.free t then some (.ok (), db.setLease i (c.write t none)) else none
      else some (.ok (), db)).Ends db r db₂) :
    db₂.nextId = db.nextId ∧
    (db₂ = db ∧ (r = .ok () → P db (db.lease i) = false) ∨
      P db (db.lease i) = true ∧ r = .ok () ∧ db₂.leases i = (db.leases i).write t none) := by
  simp only [ends_sql, free_of_idle hidle, if_true, visible_of_idle hidle] at h
  rcases h with ⟨rfl, rfl⟩ | h
  · exact ⟨rfl, Or.inl ⟨rfl, fun hbad => by cases hbad⟩⟩
  · by_cases hP : P db (db.lease i) = true
    · rw [show P db (db.leases i).committed = true from hP] at h
      simp only [if_true] at h
      cases h
      exact ⟨rfl, Or.inr ⟨hP, rfl, by simp [Db.setLease]⟩⟩
    · rw [show P db (db.leases i).committed = false from Bool.eq_false_iff.mpr hP] at h
      simp only [Bool.false_eq_true, if_false] at h
      cases h
      exact ⟨rfl, Or.inl ⟨rfl, fun _ => Bool.eq_false_iff.mpr hP⟩⟩

theorem releaseIncidentLease_ends {token : Nat} {r : Except Err Unit}
    (hidle : (db.leases i).pending = none)
    (h : (releaseIncidentLease t i token).Ends db r db₂) :
    db₂.nextId = db.nextId ∧
    (db₂ = db ∧ (r = .ok () → WorkflowLease.released token (db.lease i) = false) ∨
      WorkflowLease.released token (db.lease i) = true ∧ r = .ok () ∧
        db₂.leases i = (db.leases i).write t none) :=
  delete_ends (P := fun _ => WorkflowLease.released token) hidle h

theorem cleanupExpiredLease_ends {r : Except Err Unit} (hidle : (db.leases i).pending = none)
    (h : (cleanupExpiredLease t i).Ends db r db₂) :
    db₂.nextId = db.nextId ∧
    (db₂ = db ∧ (r = .ok () → WorkflowLease.lapsed (db.txTime t) (db.lease i) = false) ∨
      WorkflowLease.lapsed (db.txTime t) (db.lease i) = true ∧ r = .ok () ∧
        db₂.leases i = (db.leases i).write t none) :=
  delete_ends (P := fun db => WorkflowLease.lapsed (db.txTime t)) hidle h

/-! ### One operation -/

/-- What an operation does to the row: it has the token it had, or a fresh one, or none. -/
structure LeaseMove (i : Nat) (db db' : Db) : Prop where
  idle : (db'.leases i).pending = none
  ids : db.nextId ≤ db'.nextId
  token : ∀ l', db'.lease i = some l' →
    (∃ l, db.lease i = some l ∧ l.token = l'.token) ∨
    (db.nextId ≤ l'.token ∧ l'.token < db'.nextId)

theorem LeaseMove.quiet (h : LeaseMove i db db') (hq : Quiet i db) : Quiet i db' := by
  refine ⟨h.idle, ?_⟩
  intro l' hl'
  rcases h.token l' hl' with ⟨l, hl, heq⟩ | ⟨-, hlt⟩
  · have := hq.issued l hl
    have := h.ids
    omega
  · exact hlt

theorem Quiet.started (hq : Quiet i db) (t : TxId) : Quiet i (db.started t) :=
  ⟨hq.idle, hq.issued⟩

theorem LeaseMove.refl (hq : Quiet i db) (hcell : db'.leases i = db.leases i)
    (hids : db'.nextId = db.nextId) : LeaseMove i db db' := by
  refine ⟨by rw [hcell]; exact hq.idle, by omega, ?_⟩
  intro l' hl'
  refine Or.inl ⟨l', ?_, rfl⟩
  unfold Db.lease at hl' ⊢
  rw [← hcell]
  exact hl'

/-- A block whose body touches the row in an acceptable way is an acceptable operation. -/
theorem Block.leaseMove {α : Type} {body : Prog α} {seen : α → List Event} {r : Except Err α}
    (hq : Quiet i db) (h : Block t body seen db r db')
    (hbody : ∀ r db₂, body.Ends (db.started t) r db₂ →
      Touched t (db.leases i) (db₂.leases i) ∧ db.nextId ≤ db₂.nextId ∧
      ∀ l', (db₂.leases i).visible t = some l' →
        (∃ l, db.lease i = some l ∧ l.token = l'.token) ∨
        (db.nextId ≤ l'.token ∧ l'.token < db₂.nextId)) :
    LeaseMove i db db' := by
  have hback : ∀ {d : Db}, Touched t (db.leases i) (d.leases i) → db.nextId ≤ d.nextId →
      LeaseMove i db (d.rollback t) := by
    intro d htouch hids
    have hcell : (d.rollback t).leases i = db.leases i := htouch.rollback hq.idle
    refine ⟨by rw [hcell]; exact hq.idle, hids, ?_⟩
    intro l' hl'
    refine Or.inl ⟨l', ?_, rfl⟩
    unfold Db.lease at hl' ⊢
    rw [← hcell]
    exact hl'
  cases h with
  | refused => exact hback Touched.same (Nat.le_refl _)
  | raised e db₂ hb =>
      obtain ⟨htouch, hids, -⟩ := hbody _ _ hb
      exact hback htouch hids
  | lost a db₂ hb =>
      obtain ⟨htouch, hids, -⟩ := hbody _ _ hb
      have hcell : (db₂.rollback t).leases i = db.leases i := htouch.rollback hq.idle
      refine hback ?_ hids
      rw [hcell]
      exact Touched.same
  | committed a db₂ hb =>
      obtain ⟨htouch, hids, htoken⟩ := hbody _ _ hb
      refine ⟨htouch.commit_idle hq.idle, hids, ?_⟩
      intro l' hl'
      refine htoken l' ?_
      rw [← Cell.committed_commit]
      exact hl'

theorem touched_tokens (hq : Quiet i db) (hids : db.nextId ≤ db₂.nextId)
    (hcell : db₂.leases i = db.leases i ∨ db₂.leases i = (db.leases i).write t none) :
    Touched t (db.leases i) (db₂.leases i) ∧ db.nextId ≤ db₂.nextId ∧
      ∀ l', (db₂.leases i).visible t = some l' →
        (∃ l, db.lease i = some l ∧ l.token = l'.token) ∨
        (db.nextId ≤ l'.token ∧ l'.token < db₂.nextId) := by
  rcases hcell with hcell | hcell
  · rw [hcell]
    refine ⟨Touched.same, hids, ?_⟩
    intro l' hl'
    left
    exact ⟨l', (visible_of_idle hq.idle).symm.trans hl', rfl⟩
  · rw [hcell]
    refine ⟨Touched.written _, hids, ?_⟩
    intro l' hl'
    rw [Cell.visible_write] at hl'
    cases hl'

/-- **One operation** leaves the row quiet and never brings back a token. -/
theorem LeaseStep.move (hq : Quiet i db) (h : LeaseStep i db db') : LeaseMove i db db' := by
  cases h with
  | env e hstep =>
      cases e with
      | tick elapsed => cases hstep; exact LeaseMove.refl hq rfl rfl
      | incident j c => cases hstep; exact LeaseMove.refl hq rfl rfl
  | acquire t actor owner ttl version r hrun =>
      rcases ends_unitOfWork hrun with ⟨-, rfl⟩ | hblock
      · exact LeaseMove.refl hq rfl rfl
      · refine hblock.leaseMove hq ?_
        intro r db₂ hb
        obtain ⟨hids, ⟨l, -, htok, -, hcell⟩ | ⟨-, htouch, hvis⟩⟩ :=
          acquireIncidentLease_ends (hq.started t).idle hb
        · have hcell' : db₂.leases i = (db.leases i).write t (some l) := hcell
          have htok' : l.token = db.nextId := htok
          have hids' : db₂.nextId = db.nextId + 1 := hids
          refine ⟨?_, by omega, ?_⟩
          · rw [hcell']; exact Touched.written _
          · intro l' hl'
            rw [hcell', Cell.visible_write] at hl'
            cases hl'
            right
            omega
        · have hids' : db₂.nextId = db.nextId + 1 := hids
          refine ⟨htouch, by omega, ?_⟩
          intro l' hl'
          left
          rw [hvis] at hl'
          exact ⟨l', (visible_of_idle hq.idle).symm.trans hl', rfl⟩
  | verify t actor token version r hrun =>
      rcases ends_unitOfWork hrun with ⟨-, rfl⟩ | hblock
      · exact LeaseMove.refl hq rfl rfl
      · refine hblock.leaseMove hq ?_
        intro r db₂ hb
        obtain ⟨rfl, -⟩ := verifyIncidentLease_ends (hq.started t).idle hb
        exact touched_tokens hq (Nat.le_refl _) (Or.inl rfl)
  | renew t actor token ttl r hrun =>
      rcases ends_unitOfWork hrun with ⟨-, rfl⟩ | hblock
      · exact LeaseMove.refl hq rfl rfl
      · refine hblock.leaseMove hq ?_
        intro r db₂ hb
        obtain ⟨hids, ⟨rfl, -⟩ | ⟨l, l', hl, htok, htok', -, hcell⟩⟩ :=
          renewIncidentLease_ends (hq.started t).idle hb
        · exact touched_tokens hq (Nat.le_refl _) (Or.inl rfl)
        · have hcell' : db₂.leases i = (db.leases i).write t (some l') := hcell
          refine ⟨by rw [hcell']; exact Touched.written _, Nat.le_of_eq hids.symm, ?_⟩
          intro l'' hl''
          rw [hcell', Cell.visible_write] at hl''
          cases hl''
          exact Or.inl ⟨l, hl, by rw [htok, htok']⟩
  | release t actor token r hrun =>
      rcases ends_unitOfWork hrun with ⟨-, rfl⟩ | hblock
      · exact LeaseMove.refl hq rfl rfl
      · refine hblock.leaseMove hq ?_
        intro r db₂ hb
        obtain ⟨hids, ⟨rfl, -⟩ | ⟨-, -, hcell⟩⟩ := releaseIncidentLease_ends (hq.started t).idle hb
        · exact touched_tokens hq (Nat.le_refl _) (Or.inl rfl)
        · exact touched_tokens hq (Nat.le_of_eq hids.symm) (Or.inr hcell)
  | cleanup t actor r hrun =>
      rcases ends_unitOfWork hrun with ⟨-, rfl⟩ | hblock
      · exact LeaseMove.refl hq rfl rfl
      · refine hblock.leaseMove hq ?_
        intro r db₂ hb
        obtain ⟨hids, ⟨rfl, -⟩ | ⟨-, -, hcell⟩⟩ := cleanupExpiredLease_ends (hq.started t).idle hb
        · exact touched_tokens hq (Nat.le_refl _) (Or.inl rfl)
        · exact touched_tokens hq (Nat.le_of_eq hids.symm) (Or.inr hcell)

/-- **Any sequence of operations** leaves the row quiet. -/
theorem LeaseRun.quiet (hq : Quiet i db) (h : LeaseRun i db db') :
    Quiet i db' ∧ db.nextId ≤ db'.nextId := by
  induction h with
  | refl => exact ⟨hq, Nat.le_refl _⟩
  | tail _ hstep ih =>
      have hmove := hstep.move ih.1
      exact ⟨hmove.quiet ih.1, Nat.le_trans ih.2 hmove.ids⟩

/-! ### Tokens that have left the row

A token that has been in the row and is not there any more has been drawn, and will not be drawn
again.  Every later row has the token of the row before it or a fresh one, and so none has this
one; and each statement that names it looks for a row that is not there.
-/

/-- The token is the one in the row. -/
def HasToken (i token : Nat) (db : Db) : Prop := ∃ l, db.lease i = some l ∧ l.token = token

/-- How a token leaves the row: another is acquired, or it is released, or its lease has lapsed
and is cleaned up. -/
inductive Retires (i token : Nat) : Db → Db → Prop
  | superseded {db db' : Db} (t : TxId) (actor owner : String) (ttl : Int) (version : Option Nat)
      (token' : Nat)
      (h : (unitOfWork t actor (acquireIncidentLease t i owner ttl version)).Ends db
        (.ok token') db') : Retires i token db db'
  | released {db db' : Db} (t : TxId) (actor : String)
      (h : (unitOfWork t actor (releaseIncidentLease t i token)).Ends db (.ok ()) db') :
      Retires i token db db'
  | cleaned {db db' : Db} (t : TxId) (actor : String)
      (hlapsed : WorkflowLease.lapsed db.now (db.lease i) = true)
      (h : (unitOfWork t actor (cleanupExpiredLease t i)).Ends db (.ok ()) db') :
      Retires i token db db'

/-- A block that returned was committed. -/
theorem ends_unitOfWork_ok {α : Type} {actor : String} {body : Prog α} {seen : α → List Event}
    {a : α} (h : (unitOfWork t actor body seen).Ends db (.ok a) db') :
    ∃ db₂, body.Ends (db.started t) (.ok a) db₂ ∧ db' = (db₂.commit t).record (seen a) := by
  rcases ends_unitOfWork h with ⟨⟨e, hbad⟩, -⟩ | hblock
  · cases hbad
  · cases hblock with
    | committed _ db₂ hbody => exact ⟨db₂, hbody, rfl⟩

/-- What is in the row after a block whose body left it at `v`. -/
theorem lease_commit {v : Option WorkflowLease} {evs : List Event}
    (h : (db₂.leases i).visible t = v) : ((db₂.commit t).record evs).lease i = v := by
  show ((db₂.leases i).commit t).committed = v
  rw [Cell.committed_commit, h]

theorem retires_gone {token : Nat} (hq : Quiet i db) (hhas : HasToken i token db)
    (h : Retires i token db db') : LeaseStep i db db' ∧ ¬ HasToken i token db' := by
  obtain ⟨cur, hcur, hcurtok⟩ := hhas
  have hissued := hq.issued cur hcur
  cases h with
  | superseded t actor owner ttl version token' hrun =>
      refine ⟨LeaseStep.acquire t actor owner ttl version _ hrun, ?_⟩
      obtain ⟨db₂, hb, rfl⟩ := ends_unitOfWork_ok hrun
      obtain ⟨-, ⟨l, -, htok, -, hcell⟩ | ⟨⟨e, hbad⟩, -⟩⟩ :=
        acquireIncidentLease_ends (hq.started t).idle hb
      · rintro ⟨l', hl', hl'tok⟩
        rw [lease_commit (by rw [hcell, Cell.visible_write])] at hl'
        cases hl'
        have htok' : l.token = db.nextId := htok
        omega
      · cases hbad
  | released t actor hrun =>
      refine ⟨LeaseStep.release t actor token _ hrun, ?_⟩
      obtain ⟨db₂, hb, rfl⟩ := ends_unitOfWork_ok hrun
      obtain ⟨-, ⟨-, hnot⟩ | ⟨-, -, hcell⟩⟩ := releaseIncidentLease_ends (hq.started t).idle hb
      · have : WorkflowLease.released token (db.lease i) = false := hnot rfl
        rw [hcur] at this
        simp [WorkflowLease.released, hcurtok] at this
      · rintro ⟨l', hl', -⟩
        rw [lease_commit (by rw [hcell, Cell.visible_write])] at hl'
        cases hl'
  | cleaned t actor hlapsed hrun =>
      refine ⟨LeaseStep.cleanup t actor _ hrun, ?_⟩
      obtain ⟨db₂, hb, rfl⟩ := ends_unitOfWork_ok hrun
      obtain ⟨-, ⟨-, hnot⟩ | ⟨-, -, hcell⟩⟩ := cleanupExpiredLease_ends (hq.started t).idle hb
      · have : WorkflowLease.lapsed ((db.started t).txTime t) (db.lease i) = false := hnot rfl
        simp only [Db.started, Function.update_self] at this
        rw [this] at hlapsed
        cases hlapsed
      · rintro ⟨l', hl', -⟩
        rw [lease_commit (by rw [hcell, Cell.visible_write])] at hl'
        cases hl'

/-- A token that is not in the row, and was handed out, never enters it again. -/
theorem not_hasToken_of_run {token : Nat} (hq : Quiet i db) (hissued : token < db.nextId)
    (hgone : ¬ HasToken i token db) (h : LeaseRun i db db') : ¬ HasToken i token db' := by
  have key : Quiet i db' ∧ token < db'.nextId ∧ ¬ HasToken i token db' := by
    induction h with
    | refl => exact ⟨hq, hissued, hgone⟩
    | tail _ hstep ih =>
        obtain ⟨hq', hlt, hgone'⟩ := ih
        have hmove := hstep.move hq'
        refine ⟨hmove.quiet hq', Nat.lt_of_lt_of_le hlt hmove.ids, ?_⟩
        rintro ⟨l', hl', htok⟩
        rcases hmove.token l' hl' with ⟨l, hl, heq⟩ | ⟨hle, -⟩
        · exact hgone' ⟨l, hl, by rw [heq, htok]⟩
        · omega
  exact key.2.2

/-- What the repository answers to a token that is not in the row: no, and it keeps the row. -/
structure Fenced (i token : Nat) (db : Db) : Prop where
  verify_not_true : ∀ t actor version db',
    ¬ (unitOfWork t actor (verifyIncidentLease t i token version)).Ends db (.ok true) db'
  verify_false : ∀ t actor version, validActor actor = true →
    ∃ db', (unitOfWork t actor (verifyIncidentLease t i token version)).Ends db (.ok false) db'
  renew_not_true : ∀ t actor ttl db',
    ¬ (unitOfWork t actor (renewIncidentLease t i token ttl)).Ends db (.ok true) db'
  renew_false : ∀ t actor ttl, validActor actor = true →
    ∃ db', (unitOfWork t actor (renewIncidentLease t i token ttl)).Ends db (.ok false) db'
  release_keeps : ∀ t actor r db',
    (unitOfWork t actor (releaseIncidentLease t i token)).Ends db r db' →
      db'.lease i = db.lease i

theorem fenced_of_not_hasToken {token : Nat} (hq : Quiet i db) (h : ¬ HasToken i token db) :
    Fenced i token db where
  verify_not_true := by
    intro t actor version db' hrun
    obtain ⟨db₂, hb, -⟩ := ends_unitOfWork_ok hrun
    have hv := (verifyIncidentLease_ends (hq.started t).idle hb).2 rfl
    have hrow : (db.started t).lease i = db.lease i := rfl
    rw [hrow] at hv
    unfold WorkflowLease.verifies at hv
    split at hv
    · cases hv
    · rename_i l hl
      simp only [Bool.and_eq_true, decide_eq_true_eq] at hv
      exact h ⟨l, hl, hv.1⟩
  verify_false := by
    intro t actor version hactor
    have hno : WorkflowLease.verifies db.now token (db.lease i) = false := by
      unfold WorkflowLease.verifies
      split
      · rfl
      · rename_i l hl
        have hne : l.token ≠ token := fun heq => h ⟨l, hl, heq⟩
        simp [hne]
    have hbody : (verifyIncidentLease t i token version).Ends (db.started t) (.ok false)
        (db.started t) := by
      unfold verifyIncidentLease
      rw [ends_bind]
      refine Or.inl ⟨db.lease i, db.started t, ?_, ?_⟩
      · rw [ends_select]
        exact ⟨rfl, Or.inr (by rw [visible_of_idle (hq.started t).idle]; rfl)⟩
      · rw [ends_bind]
        refine Or.inl ⟨db.now, db.started t, ends_datetimeNow.mpr ⟨rfl, rfl⟩, ?_⟩
        rw [hno]
        exact ends_pure.mpr ⟨rfl, rfl⟩
    exact ⟨_, unitOfWork_commits hactor hbody⟩
  renew_not_true := by
    intro t actor ttl db' hrun
    obtain ⟨db₂, hb, -⟩ := ends_unitOfWork_ok hrun
    obtain ⟨-, ⟨-, hne⟩ | ⟨l, l', hl, htok, -⟩⟩ := renewIncidentLease_ends (hq.started t).idle hb
    · exact hne rfl
    · exact h ⟨l, hl, htok⟩
  renew_false := by
    intro t actor ttl hactor
    have hno : WorkflowLease.renew db.now token ttl (db.lease i) = none := by
      unfold WorkflowLease.renew
      split
      · rfl
      · rename_i l hl
        rw [if_neg]
        rintro ⟨htok, -⟩
        exact h ⟨l, hl, htok⟩
    have hrow : WorkflowLease.renew ((db.started t).txTime t) token ttl
        ((db.started t).leases i).committed = none := by
      simp only [Db.started, Function.update_self]
      exact hno
    have hbody : (renewIncidentLease t i token ttl).Ends (db.started t) (.ok false)
        (db.started t) := by
      unfold renewIncidentLease
      simp only [ends_sql, free_of_idle (hq.started t).idle, if_true,
        visible_of_idle (hq.started t).idle]
      right
      rw [hrow]
    exact ⟨_, unitOfWork_commits hactor hbody⟩
  release_keeps := by
    intro t actor r db' hrun
    have hback : (db.rollback t).lease i = db.lease i := Cell.committed_rollback
    rcases ends_unitOfWork hrun with ⟨-, rfl⟩ | hblock
    · rfl
    · have hbody : ∀ r db₂, (releaseIncidentLease t i token).Ends (db.started t) r db₂ →
          db₂ = db.started t := by
        intro r db₂ hb
        obtain ⟨-, ⟨rfl, -⟩ | ⟨hrel, -⟩⟩ := releaseIncidentLease_ends (hq.started t).idle hb
        · rfl
        · have hrow : (db.started t).lease i = db.lease i := rfl
          rw [hrow] at hrel
          unfold WorkflowLease.released at hrel
          split at hrel
          · cases hrel
          · rename_i l hl
            exact absurd ⟨l, hl, by simpa using hrel⟩ h
      cases hblock with
      | refused => exact hback
      | raised e db₂ hb => rw [hbody _ _ hb]; exact hback
      | lost a db₂ hb =>
          rw [hbody _ _ hb]
          show (((db.leases i).rollback t).rollback t).committed = _
          rw [Cell.committed_rollback, Cell.committed_rollback]
          rfl
      | committed a db₂ hb =>
          rw [hbody _ _ hb]
          exact lease_commit (visible_of_idle hq.idle)

/-- **Lease fencing.**  In every state that operations by any owners lead to: at most one token
verifies; an acquisition by another owner succeeds only over a lease that has lapsed; and a token
that has left the row is refused in every later state, and releasing it removes nothing. -/
theorem lease_fencing (i : Nat) (db₀ db : Db) (h₀ : Quiet i db₀) (hrun : LeaseRun i db₀ db) :
    (∀ t t' actor actor' token token' version version' db₁ db₂,
      (unitOfWork t actor (verifyIncidentLease t i token version)).Ends db (.ok true) db₁ →
      (unitOfWork t' actor' (verifyIncidentLease t' i token' version')).Ends db (.ok true) db₂ →
        token = token') ∧
    (∀ t actor owner ttl version token db₁ l,
      (unitOfWork t actor (acquireIncidentLease t i owner ttl version)).Ends db (.ok token) db₁ →
      db.lease i = some l → l.owner ≠ owner → l.expiresAt ≤ db.now) ∧
    (∀ token db₁ db₂, HasToken i token db → Retires i token db db₁ → LeaseRun i db₁ db₂ →
      Fenced i token db₂) := by
  obtain ⟨hq, -⟩ := hrun.quiet h₀
  have hverified : ∀ t actor token version db₁,
      (unitOfWork t actor (verifyIncidentLease t i token version)).Ends db (.ok true) db₁ →
      HasToken i token db := by
    intro t actor token version db₁ hv
    by_contra hno
    exact (fenced_of_not_hasToken hq hno).verify_not_true t actor version db₁ hv
  refine ⟨?_, ?_, ?_⟩
  · intro t t' actor actor' token token' version version' db₁ db₂ hv hv'
    obtain ⟨l, hl, htok⟩ := hverified _ _ _ _ _ hv
    obtain ⟨l', hl', htok'⟩ := hverified _ _ _ _ _ hv'
    rw [hl] at hl'
    cases hl'
    rw [← htok, ← htok']
  · intro t actor owner ttl version token db₁ l hacq hl hne
    obtain ⟨db₂, hb, -⟩ := ends_unitOfWork_ok hacq
    obtain ⟨-, ⟨l', -, -, hav, -⟩ | ⟨⟨e, hbad⟩, -⟩⟩ :=
      acquireIncidentLease_ends (hq.started t).idle hb
    · have := hav l hl
      simp only [WorkflowLease.available, Db.started, Function.update_self, Bool.or_eq_true,
        decide_eq_true_eq] at this
      rcases this with h | h
      · exact h
      · exact absurd h hne
    · cases hbad
  · intro token db₁ db₂ hhas hret hlater
    obtain ⟨hstep, hgone⟩ := retires_gone hq hhas hret
    have hmove := hstep.move hq
    have hq₁ := hmove.quiet hq
    obtain ⟨l, hl, htok⟩ := hhas
    have hissued : token < db₁.nextId := by
      have := hq.issued l hl
      have := hmove.ids
      omega
    exact fenced_of_not_hasToken (hlater.quiet hq₁).1
      (not_hasToken_of_run hq₁ hissued hgone hlater)

/-- A worker's lease has lapsed on an open incident. -/
def lapsedLeaseDb : Db :=
  { Db.init (seconds 31) with
    nextId := 1
    incidents := fun _ => Cell.ofRow { id := 1, resourceId := 7, correlationKey := "demo", updatedAt := 0 }
    leases := fun _ => Cell.ofRow
      { owner := "worker:a", token := 0, acquiredAt := 0, expiresAt := seconds 30,
        incidentVersion := 1 } }

/-- Another worker takes the lease over, and the first one's token is fenced off. -/
theorem lease_fencing_takeover : ∃ db₁,
    (unitOfWork ⟨2, 0⟩ "worker:b" (acquireIncidentLease ⟨2, 0⟩ 1 "worker:b" 30 none)).Ends
      lapsedLeaseDb (.ok 1) db₁ ∧ Fenced 1 0 db₁ := by
  obtain ⟨r, db₁, hends, htest⟩ :=
    ends_of_solo
      (unitOfWork ⟨2, 0⟩ "worker:b" (acquireIncidentLease ⟨2, 0⟩ 1 "worker:b" 30 none))
      (List.replicate 5 {}) lapsedLeaseDb
      (fun r _ => match r with | .ok n => n == 1 | .error _ => false) (by decide)
  have hr : r = .ok 1 := by
    cases r with
    | ok n => simp only [beq_iff_eq] at htest; rw [htest]
    | error e => cases htest
  subst hr
  refine ⟨db₁, hends, ?_⟩
  have hquiet : Quiet 1 lapsedLeaseDb := ⟨rfl, by intro l hl; cases hl; decide⟩
  exact (lease_fencing 1 lapsedLeaseDb lapsedLeaseDb hquiet Relation.ReflTransGen.refl).2.2 0 db₁
    db₁ ⟨_, rfl, rfl⟩ (Retires.superseded ⟨2, 0⟩ "worker:b" "worker:b" 30 none 1 hends)
    Relation.ReflTransGen.refl

end SelfHealing
