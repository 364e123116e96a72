/-
A quarantine lasts until it is cleared.

Between operations no lock row is held, so an operation sees the row that everybody sees, and
leaves at most one row changed.  The service asks in every statement whether the row is
quarantined; the repository's own lock functions never ask.  They look at the time at which the
row lapses, and at its owner and token: it is there that a quarantine can be lost.

A quarantine is an owner that no worker has.  It is kept by those who ask for the owner before they
write, and lost to those who ask for the time alone: the row of a quarantine has a time at which it
lapses like any other.
-/
import SelfHealing.ResourceLocks
import SelfHealing.Proofs.LeaseFencing

namespace SelfHealing

open Interleaving Interleaving.Prog ReadCommitted

/-- The row is there and quarantined. -/
def IsQuarantined (row : Option ResourceLock) : Prop :=
  ∃ lock, row = some lock ∧ lock.quarantined = true

/-- No transaction is in the middle of changing a lock. -/
structure LocksIdle (db : Db) : Prop where
  idle : ∀ r, (db.locks r).pending = none

/-! ### What the statements do to the rows

For each statement there is a promise about all of its runs: which row it may change, and that a
row which is quarantined stays so, unless the statement is one that clears quarantines or one that
does not ask.  The condition of the main result is read off the second kind.
-/

/-- What a transaction has done to the locks so far: it has touched rows, and the row it leaves for
a quarantined resource is quarantined. -/
structure Sparing (t : TxId) (r : Nat) (db s : Db) : Prop where
  touched : ∀ j, Touched t (db.locks j) (s.locks j)
  kept : IsQuarantined (db.lock r) → IsQuarantined ((s.locks r).visible t)

section Statements

variable {t : TxId} {r : Nat} {db s : Db}

theorem Sparing.refl (h : LocksIdle db) : Sparing t r db db :=
  ⟨fun _ => Touched.same, fun hq => by rw [visible_of_idle (h.idle r)]; exact hq⟩

/-- A row is written that keeps a quarantine. -/
theorem Sparing.write (h : LocksIdle db) {j : Nat} {v : Option ResourceLock}
    (hv : j = r → IsQuarantined (db.lock r) → IsQuarantined v) :
    Sparing t r db (db.setLock j ((db.locks j).write t v)) := by
  refine ⟨?_, ?_⟩
  · intro k
    show Touched t (db.locks k) (Function.update db.locks j _ k)
    by_cases hk : k = j
    · subst hk
      rw [Function.update_self]
      exact Touched.written v
    · rw [Function.update_of_ne hk]
      exact Touched.same
  · intro hq
    show IsQuarantined ((Function.update db.locks j _ r).visible t)
    by_cases hr : r = j
    · subst hr
      rw [Function.update_self, Cell.visible_write]
      exact hv rfl hq
    · rw [Function.update_of_ne hr, visible_of_idle (h.idle r)]
      exact hq

/-- A row is locked and left as it is. -/
theorem Sparing.lock (h : LocksIdle db) (j : Nat) :
    Sparing t r db (db.setLock j ((db.locks j).lock t)) := by
  refine ⟨?_, ?_⟩
  · intro k
    show Touched t (db.locks k) (Function.update db.locks j _ k)
    by_cases hk : k = j
    · subst hk
      rw [Function.update_self]
      exact Touched.locked
    · rw [Function.update_of_ne hk]
      exact Touched.same
  · intro hq
    show IsQuarantined ((Function.update db.locks j _ r).visible t)
    by_cases hr : r = j
    · subst hr
      rw [Function.update_self, Cell.visible_lock, visible_of_idle (h.idle r)]
      exact hq
    · rw [Function.update_of_ne hr, visible_of_idle (h.idle r)]
      exact hq

variable {A : World → Prop} (actor : String) (j : Nat)

theorem always_checkSafety (h : LocksIdle db) :
    (checkSafety t j none).Always A
      (fun _ s => s = db ∧ ¬ IsQuarantined (db.lock j)) (fun _ s => s = db) db := by
  unfold checkSafety
  refine always_bind.mpr (always_select (fun _ _ _ => rfl) ?_)
  refine always_bind.mpr (always_check (fun _ _ => ?_) (fun _ _ => rfl))
  refine always_bind.mpr (always_select (fun _ _ _ => rfl) (always_check ?_ (fun _ _ => rfl)))
  intro u hu
  refine ⟨rfl, ?_⟩
  rintro ⟨lock, hlock, hq⟩
  rw [visible_of_idle (h.idle j), show (db.locks j).committed = some lock from hlock] at hu
  simp only [ResourceLock.checkSafety, hq, if_true] at hu
  cases hu

/-- An upsert that writes no row over a quarantined one leaves the quarantine, and then gives no
token. -/
theorem always_upsert {F : Int → Option ResourceLock → Option ResourceLock} (h : LocksIdle db)
    (token : Nat) (hF : j = r → IsQuarantined (db.lock r) → F (db.txTime t) (db.lock r) = none) :
    (sql fun db =>
      let c := db.locks j
      if c.free t then
        match F (db.txTime t) (c.visible t) with
        | some lock => some (.ok (some token), db.setLock j (c.write t (some lock)))
        | none => some (.ok none, db.setLock j (c.lock t))
      else none).Always A
      (fun result s => Sparing t r db s ∧
        (result.isSome = true → j = r → ¬ IsQuarantined (db.lock r)))
      (fun _ s => Sparing t r db s) db := by
  refine always_sql (fun _ _ _ => Sparing.refl h) ?_ ?_
  · intro result s hf
    simp only [free_of_idle (h.idle j), if_true, visible_of_idle (h.idle j)] at hf
    split at hf
    · rename_i lock hlock
      simp only [Option.some.injEq, Prod.mk.injEq, Except.ok.injEq] at hf
      have hnot : j = r → ¬ IsQuarantined (db.lock r) := by
        rintro rfl hq
        rw [show F (db.txTime t) (db.locks j).committed = none from hF rfl hq] at hlock
        cases hlock
      rw [← hf.2]
      exact ⟨Sparing.write h (fun hj hq => absurd hq (hnot hj)), fun _ => hnot⟩
    · simp only [Option.some.injEq, Prod.mk.injEq, Except.ok.injEq] at hf
      rw [← hf.1, ← hf.2]
      exact ⟨Sparing.lock h j, fun hsome => by simp at hsome⟩
  · intro e s hf
    simp only [free_of_idle (h.idle j), if_true] at hf
    split at hf
    · simp at hf
    · simp at hf

theorem always_acquireLock (h : LocksIdle db) (duration : Int) :
    (acquireLock t actor j duration).Always A
      (fun _ s => Sparing t r db s ∧ (j = r → ¬ IsQuarantined (db.lock r)))
      (fun _ s => Sparing t r db s) db := by
  have hsame : Sparing t r db db := Sparing.refl h
  unfold acquireLock
  by_cases hd : duration < 1 ∨ 3600 < duration
  · simp only [if_pos hd]
    exact always_bind.mpr ((always_throw _).mpr hsame)
  simp only [if_neg hd]
  refine always_bind.mpr ((always_checkSafety j h).mono ?_ ?_)
  swap
  · rintro e s rfl
    exact hsame
  rintro u s ⟨rfl, hfree⟩
  refine always_bind.mpr (always_uuid4 (always_bind.mpr ?_))
  have hidle : LocksIdle (s.draw t.pid) := ⟨h.idle⟩
  refine (always_upsert (F := fun now => ResourceLock.acquire now actor s.nextId duration) j hidle
    s.nextId ?_).mono ?_ (fun _ _ hs => ⟨hs.touched, hs.kept⟩)
  · rintro rfl hq
    exact absurd hq hfree
  rintro result s' ⟨hs', -⟩
  have hs' : Sparing t r s s' := ⟨hs'.touched, hs'.kept⟩
  cases result with
  | some token =>
      refine (always_pure _).mpr ⟨hs', ?_⟩
      rintro rfl
      exact hfree
  | none =>
      refine always_bind.mpr (always_select (fun _ _ _ => hs') ?_)
      refine always_bind.mpr (always_check (fun _ _ => ?_) (fun _ _ => hs'))
      exact (always_throw _).mpr hs'

theorem always_repository_acquireLock (h : LocksIdle db) (duration : Int)
    (hlive : j = r → ∀ lock, db.lock r = some lock → lock.quarantined = true →
      db.txTime t < lock.expiresAt) :
    (ControlPlaneRepository.acquireLock t actor j duration).Always A
      (fun _ s => Sparing t r db s ∧ (j = r → ¬ IsQuarantined (db.lock r)))
      (fun _ s => Sparing t r db s) db := by
  have hsame : Sparing t r db db := Sparing.refl h
  unfold ControlPlaneRepository.acquireLock
  by_cases hd : duration < 1 ∨ 3600 < duration
  · simp only [if_pos hd]
    exact always_bind.mpr ((always_throw _).mpr hsame)
  simp only [if_neg hd]
  refine always_bind.mpr (always_uuid4 (always_bind.mpr ?_))
  have hidle : LocksIdle (db.draw t.pid) := ⟨h.idle⟩
  refine (always_upsert (F := fun now => ResourceLock.takeOver now actor db.nextId duration) j hidle
    db.nextId ?_).mono ?_ (fun _ _ hs => ⟨hs.touched, hs.kept⟩)
  · rintro rfl ⟨lock, hlock, hq⟩
    have hlt := hlive rfl lock hlock hq
    rw [hlock]
    simp only [ResourceLock.takeOver]
    rw [if_neg]
    show ¬ lock.expiresAt ≤ db.txTime t
    omega
  rintro result s' ⟨hs', hnot⟩
  have hs' : Sparing t r db s' := ⟨hs'.touched, hs'.kept⟩
  cases result with
  | some token => exact (always_pure _).mpr ⟨hs', hnot rfl⟩
  | none => exact (always_throw _).mpr hs'

theorem always_renewLock (h : LocksIdle db) (token : Nat) (duration : Int) :
    (renewLock t actor j token duration).Always A
      (fun renewed s => Sparing t r db s ∧
        (j = r → IsQuarantined (db.lock r) → renewed = false))
      (fun _ s => Sparing t r db s) db := by
  have hno : j = r → IsQuarantined (db.lock r) →
      ResourceLock.renew (db.txTime t) actor token duration (db.lock j) = none := by
    rintro rfl ⟨lock, hlock, hq⟩
    rw [hlock]
    simp [ResourceLock.renew, hq]
  refine always_sql (fun _ _ _ => Sparing.refl h) ?_ ?_
  · intro renewed s hf
    simp only [free_of_idle (h.idle j), if_true, visible_of_idle (h.idle j)] at hf
    split at hf
    · rename_i lock hlock
      have hnot : j = r → ¬ IsQuarantined (db.lock r) := by
        intro hj hq
        rw [show ResourceLock.renew _ actor token duration (db.locks j).committed = none from
          hno hj hq] at hlock
        cases hlock
      split at hf
      · simp only [Option.some.injEq, Prod.mk.injEq, Except.ok.injEq] at hf
        rw [← hf.2]
        exact ⟨Sparing.write h (fun hj hq => absurd hq (hnot hj)),
          fun hj hq => absurd hq (hnot hj)⟩
      · simp at hf
    · simp only [Option.some.injEq, Prod.mk.injEq, Except.ok.injEq] at hf
      rw [← hf.1, ← hf.2]
      exact ⟨Sparing.refl h, fun _ _ => rfl⟩
  · intro e s hf
    simp only [free_of_idle (h.idle j), if_true] at hf
    split at hf
    · split at hf
      · simp at hf
      · simp only [Option.some.injEq, Prod.mk.injEq] at hf
        rw [← hf.2]
        exact Sparing.refl h
    · simp at hf

/-- Deleting a row that is not quarantined, or another one. -/
theorem always_deleteLock (h : LocksIdle db) (hnot : j = r → ¬ IsQuarantined (db.lock r)) :
    (deleteLock t j).Always A (fun _ s => Sparing t r db s) (fun _ s => Sparing t r db s) db := by
  refine always_sql (fun _ _ _ => Sparing.refl h) ?_ ?_
  · intro u s hf
    simp only [free_of_idle (h.idle j), if_true] at hf
    split at hf
    · simp only [Option.some.injEq, Prod.mk.injEq] at hf
      rw [← hf.2]
      exact Sparing.refl h
    · simp only [Option.some.injEq, Prod.mk.injEq] at hf
      rw [← hf.2]
      exact Sparing.write h (fun hj hq => absurd hq (hnot hj))
  · intro e s hf
    simp only [free_of_idle (h.idle j), if_true] at hf
    split at hf
    · simp at hf
    · simp at hf

theorem always_disownLock (h : LocksIdle db) (token : Nat) (expiresAt : Int) :
    (disownLock t j token expiresAt).Always A (fun _ s => Sparing t r db s)
      (fun _ s => Sparing t r db s) db := by
  refine always_sql (fun _ _ _ => Sparing.refl h) ?_ ?_
  · intro u s hf
    simp only [free_of_idle (h.idle j), if_true, visible_of_idle (h.idle j)] at hf
    split at hf
    · simp at hf
    · rename_i row hrow
      simp only [Option.some.injEq, Prod.mk.injEq] at hf
      rw [← hf.2]
      refine Sparing.write h ?_
      rintro rfl ⟨lock, hlock, hq⟩
      rw [show db.lock j = some row from hrow] at hlock
      cases hlock
      exact ⟨_, rfl, hq⟩
  · intro e s hf
    simp only [free_of_idle (h.idle j), if_true] at hf
    split at hf
    · simp only [Option.some.injEq, Prod.mk.injEq] at hf
      rw [← hf.2]
      exact Sparing.refl h
    · simp at hf

theorem always_releaseLock (h : LocksIdle db) (token : Nat) :
    (releaseLock t actor j token).Always A (fun _ s => Sparing t r db s)
      (fun _ s => Sparing t r db s) db := by
  have hsame : Sparing t r db db := Sparing.refl h
  unfold releaseLock
  refine always_bind.mpr (always_select (fun _ _ _ => hsame) ?_)
  rw [visible_of_idle (h.idle j)]
  cases hlock : (db.locks j).committed with
  | none => exact (always_pure _).mpr hsame
  | some lock =>
      simp only
      by_cases hown : lock.token ≠ token ∨ lock.owner ≠ actor
      · rw [if_pos hown]
        exact (always_throw _).mpr hsame
      rw [if_neg hown]
      by_cases hq : lock.quarantined = true
      · rw [if_pos hq]
        refine always_bind.mpr (always_uuid4 (always_bind.mpr ?_))
        refine always_stmt.mpr (fun w _ => ⟨?_, ?_⟩)
        · intro now s hf
          simp only [Option.some.injEq, Prod.mk.injEq] at hf
          rw [← hf.2]
          have hidle : LocksIdle (db.draw t.pid) := ⟨h.idle⟩
          exact (always_disownLock j hidle _ _).mono (fun _ _ hs => ⟨hs.touched, hs.kept⟩)
            (fun _ _ hs => ⟨hs.touched, hs.kept⟩)
        · intro e s hf
          simp at hf
      · rw [if_neg hq]
        refine always_deleteLock j h ?_
        rintro rfl ⟨lock', hlock', hq'⟩
        rw [show db.lock j = some lock from hlock] at hlock'
        cases hlock'
        exact hq hq'

theorem always_repository_releaseLock (h : LocksIdle db) (token : Nat)
    (hnot : j = r → IsQuarantined (db.lock r) →
      ResourceLock.ownedBy actor token (db.lock r) = false) :
    (ControlPlaneRepository.releaseLock t actor j token).Always A (fun _ s => Sparing t r db s)
      (fun _ s => Sparing t r db s) db := by
  unfold ControlPlaneRepository.releaseLock
  have hdel : (ControlPlaneRepository.deleteOwned t actor j token).Always A
      (fun _ s => Sparing t r db s) (fun _ s => Sparing t r db s) db := by
    refine always_sql (fun _ _ _ => Sparing.refl h) ?_ ?_
    · intro deleted s hf
      simp only [free_of_idle (h.idle j), if_true, visible_of_idle (h.idle j)] at hf
      split at hf
      · rename_i hown
        simp only [Option.some.injEq, Prod.mk.injEq] at hf
        rw [← hf.2]
        refine Sparing.write h ?_
        rintro rfl hq
        rw [show ResourceLock.ownedBy actor token (db.locks j).committed = false from
          hnot rfl hq] at hown
        cases hown
      · simp only [Option.some.injEq, Prod.mk.injEq] at hf
        rw [← hf.2]
        exact Sparing.refl h
    · intro e s hf
      simp only [free_of_idle (h.idle j), if_true] at hf
      split at hf
      · simp at hf
      · simp at hf
  refine always_bind.mpr (hdel.mono ?_ (fun _ _ hs => hs))
  intro deleted s hs
  cases deleted with
  | true => exact (always_pure _).mpr hs
  | false => exact (always_throw _).mpr hs

theorem always_quarantineResource (h : LocksIdle db) (reason : String) :
    (quarantineResource t j reason).Always A
      (fun _ s => Sparing t r db s ∧ (j = r → IsQuarantined ((s.locks r).visible t)))
      (fun _ s => Sparing t r db s) db := by
  unfold quarantineResource
  refine always_bind.mpr (always_uuid4 (always_sql (fun _ _ _ => ?_) ?_ ?_))
  · have hs : Sparing t r db db := Sparing.refl h
    exact ⟨hs.touched, hs.kept⟩
  · intro u s hf
    simp only [Db.draw, free_of_idle (h.idle j), if_true] at hf
    simp only [Option.some.injEq, Prod.mk.injEq] at hf
    rw [← hf.2]
    have hidle : LocksIdle (db.draw t.pid) := ⟨h.idle⟩
    have hs := Sparing.write (t := t) (r := r) hidle (j := j)
      (v := some (ResourceLock.quarantine (db.txTime t) db.nextId reason ((db.locks j).visible t)))
      (fun _ _ => ⟨_, rfl, rfl⟩)
    refine ⟨⟨hs.touched, hs.kept⟩, ?_⟩
    rintro rfl
    show IsQuarantined ((Function.update db.locks j _ j).visible t)
    rw [Function.update_self, Cell.visible_write]
    exact ⟨_, rfl, rfl⟩
  · intro e s hf
    simp only [Db.draw, free_of_idle (h.idle j), if_true] at hf
    simp at hf

theorem always_clearQuarantine (h : LocksIdle db) (hother : j ≠ r) :
    (clearQuarantine t j).Always A (fun _ s => Sparing t r db s) (fun _ s => Sparing t r db s)
      db := by
  unfold clearQuarantine
  refine always_bind.mpr (always_select (fun _ _ _ => Sparing.refl h) ?_)
  split
  · exact (always_pure _).mpr (Sparing.refl h)
  · rename_i lock _
    by_cases hq : lock.quarantined = true
    · rw [if_pos hq]
      exact always_deleteLock j h (fun hj => absurd hj hother)
    · rw [if_neg hq]
      exact (always_pure _).mpr (Sparing.refl h)

end Statements

/-! ### One operation -/

namespace LockOp

/-- The operation does not come upon what the repository's functions fail to see: to acquire, a
quarantine that has lapsed; to release, a quarantined row of the caller's name and token. -/
def spares (db : Db) : LockOp → Bool
  | .repositoryAcquire _ r _ =>
      (db.lock r).all fun lock => !lock.quarantined || decide (db.now < lock.expiresAt)
  | .repositoryRelease actor r token =>
      (db.lock r).all fun lock => !lock.quarantined || !ResourceLock.ownedBy actor token (some lock)
  | _ => true

/-- An acquisition that succeeds, or a renewal that does. -/
def grants (answer : Except Err LockAnswer) : LockOp → Bool
  | .acquire _ _ _ | .repositoryAcquire _ _ _ => answer.isOk
  | .renew _ _ _ _ => answer.toOption == some (.renewed true)
  | _ => false

/-- The operation is there to end the quarantine of `r`. -/
def clears (r : Nat) : LockOp → Bool
  | .clearQuarantine _ j => decide (j = r)
  | _ => false

/-- The operation is there to begin one. -/
def quarantines (r : Nat) : LockOp → Bool
  | .quarantine _ j _ => decide (j = r)
  | _ => false

end LockOp

/-- What a transaction that performs `op` has done before it commits. -/
structure Performed (t : TxId) (r : Nat) (op : LockOp) (db : Db) (a : LockAnswer) (s : Db) :
    Prop where
  touched : ∀ j, Touched t (db.locks j) (s.locks j)
  kept : op.clears r = false → IsQuarantined (db.lock r) → IsQuarantined ((s.locks r).visible t)
  refused : op.resourceId = r → IsQuarantined (db.lock r) → op.grants (.ok a) = false
  begun : op.quarantines r = true → IsQuarantined ((s.locks r).visible t)

theorem always_prog {A : World → Prop} {t : TxId} {r : Nat} {db : Db} (op : LockOp)
    (h : LocksIdle db) (htime : db.txTime t = db.now) (hspares : op.spares db = true) :
    (op.prog t).Always A (Performed t r op db) (fun _ s => ∀ j, Touched t (db.locks j) (s.locks j))
      db := by
  cases op with
  | acquire actor j duration =>
      refine always_bind.mpr ((always_acquireLock (r := r) actor j h duration).mono ?_
        (fun _ _ hs => hs.touched))
      rintro token s ⟨hs, hnot⟩
      exact (always_pure _).mpr ⟨hs.touched, fun _ => hs.kept, fun hj hq => absurd hq (hnot hj),
        fun hbad => by cases hbad⟩
  | renew actor j token duration =>
      refine always_bind.mpr ((always_renewLock (r := r) actor j h token duration).mono ?_
        (fun _ _ hs => hs.touched))
      rintro renewed s ⟨hs, hnot⟩
      refine (always_pure _).mpr ⟨hs.touched, fun _ => hs.kept, ?_, fun hbad => by cases hbad⟩
      intro hj hq
      rw [hnot hj hq]
      rfl
  | release actor j token =>
      refine always_bind.mpr ((always_releaseLock (r := r) actor j h token).mono ?_
        (fun _ _ hs => hs.touched))
      intro u s hs
      exact (always_pure _).mpr ⟨hs.touched, fun _ => hs.kept, fun _ _ => rfl,
        fun hbad => by cases hbad⟩
  | quarantine actor j reason =>
      refine always_bind.mpr ((always_quarantineResource (r := r) j h reason).mono ?_
        (fun _ _ hs => hs.touched))
      rintro u s ⟨hs, hbegun⟩
      exact (always_pure _).mpr ⟨hs.touched, fun _ => hs.kept, fun _ _ => rfl,
        fun hj => hbegun (by simpa [LockOp.quarantines] using hj)⟩
  | clearQuarantine actor j =>
      -- any resource but `j` shows what is touched, and `r` is one if it is not to be cleared
      have hall : ∀ k, j ≠ k → (clearQuarantine t j).Always A (fun _ s => Sparing t k db s)
          (fun _ s => Sparing t k db s) db := fun k hk => always_clearQuarantine j h hk
      by_cases hj : j = r
      · refine always_bind.mpr ((hall (j + 1) (by omega)).mono ?_ (fun _ _ hs => hs.touched))
        intro u s hs
        refine (always_pure _).mpr ⟨hs.touched, ?_, fun _ _ => rfl, fun hbad => by cases hbad⟩
        intro hbad
        simp [LockOp.clears, hj] at hbad
      · refine always_bind.mpr ((hall r hj).mono ?_ (fun _ _ hs => hs.touched))
        intro u s hs
        exact (always_pure _).mpr ⟨hs.touched, fun _ => hs.kept, fun _ _ => rfl,
          fun hbad => by cases hbad⟩
  | repositoryAcquire actor j duration =>
      refine always_bind.mpr ((always_repository_acquireLock (r := r) actor j h duration ?_).mono ?_
        (fun _ _ hs => hs.touched))
      · rintro rfl lock hlock hq
        simp only [LockOp.spares, hlock, Option.all_some, hq, Bool.not_true, Bool.false_or,
          decide_eq_true_eq] at hspares
        rw [htime]
        exact hspares
      · rintro token s ⟨hs, hnot⟩
        exact (always_pure _).mpr ⟨hs.touched, fun _ => hs.kept, fun hj hq => absurd hq (hnot hj),
          fun hbad => by cases hbad⟩
  | repositoryRelease actor j token =>
      refine always_bind.mpr ((always_repository_releaseLock (r := r) actor j h token ?_).mono ?_
        (fun _ _ hs => hs.touched))
      · rintro rfl ⟨lock, hlock, hq⟩
        simp only [LockOp.spares, hlock, Option.all_some, hq, Bool.not_true, Bool.false_or,
          Bool.not_eq_true'] at hspares
        rw [hlock]
        exact hspares
      · intro u s hs
        exact (always_pure _).mpr ⟨hs.touched, fun _ => hs.kept, fun _ _ => rfl,
          fun hbad => by cases hbad⟩

/-- **What one operation does**, from start to end: committed, it has done what its transaction
did, and otherwise nothing. -/
theorem perform_ends {t : TxId} {r : Nat} {op : LockOp} {db db' : Db}
    {answer : Except Err LockAnswer} (h : LocksIdle db) (hspares : op.spares db = true)
    (hends : (op.perform t).Ends db answer db') :
    LocksIdle db' ∧
      ((∃ e, answer = .error e) ∧ db'.lock r = db.lock r ∨
        ∃ a s, answer = .ok a ∧ Performed t r op db a s ∧ db'.lock r = (s.locks r).visible t) := by
  have hback : ∀ s : Db, (∀ j, Touched t (db.locks j) (s.locks j)) →
      (s.rollback t).locks = db.locks := by
    intro s hs
    funext j
    exact (hs j).rollback (h.idle j)
  have hsame : ∀ s' : Db, s'.locks = db.locks → LocksIdle s' ∧ s'.lock r = db.lock r := by
    intro s' hs'
    refine ⟨⟨fun j => by rw [hs']; exact h.idle j⟩, ?_⟩
    unfold Db.lock
    rw [hs']
  have hidle : LocksIdle (db.started t) := ⟨h.idle⟩
  have hruns : (op.perform t).Always (fun _ => True)
      (fun a s' => LocksIdle s' ∧ ∃ s, Performed t r op db a s ∧
        s'.lock r = (s.locks r).visible t) (fun _ s' => s'.locks = db.locks) db := by
    refine always_unitOfWork rfl (hback db (fun _ => Touched.same))
      ((always_prog (r := r) op hidle (by simp [Db.started]) hspares).mono ?_
        (fun _ s hs => hback s hs))
    intro a s hs
    refine ⟨?_, ⟨fun j => (hs.touched j).commit_idle (h.idle j)⟩, s, ⟨hs.touched, hs.kept,
      hs.refused, hs.begun⟩, Cell.committed_commit⟩
    have hlocks := hback s hs.touched
    funext j
    show ((s.rollback t).locks j).rollback t = db.locks j
    rw [hlocks]
    exact rollback_of_idle (h.idle j)
  have hend := hruns.of_ends hends
  cases answer with
  | ok a =>
      obtain ⟨hidle', s, hs, hlock⟩ := hend
      exact ⟨hidle', Or.inr ⟨a, s, rfl, hs, hlock⟩⟩
  | error e =>
      obtain ⟨hidle', hlock⟩ := hsame db' hend
      exact ⟨hidle', Or.inl ⟨⟨e, rfl⟩, hlock⟩⟩

/-! ### Any sequence of operations -/

/-- A quarantine of `r` was committed, and none was cleared since. -/
def quarantinedSince (r : Nat) : List LockEntry → Bool
  | [] => false
  | e :: earlier =>
      if e.answer.isOk && e.op.quarantines r then true
      else if e.answer.isOk && e.op.clears r then false
      else quarantinedSince r earlier

/-- The operation leaves the quarantine of `r` alone, and is refused what a quarantine forbids. -/
structure LockEntry.Keeps (r : Nat) (e : LockEntry) : Prop where
  refuses : e.op.resourceId = r → e.op.grants e.answer = false
  stays : e.op.clears r = false → IsQuarantined (e.after.lock r)

theorem LockOp.grants_error (op : LockOp) (e : Err) : op.grants (.error e) = false := by
  cases op <;> rfl

theorem LockRun.locksIdle {db₀ db : Db} {run : List LockEntry} (h₀ : LocksIdle db₀)
    (hspares : ∀ e ∈ run, e.op.spares e.before = true) (h : LockRun db₀ run db) :
    LocksIdle db := by
  induction h with
  | start => exact h₀
  | meanwhile db' hlocks _ ih =>
      have := ih hspares
      exact ⟨fun r => by rw [hlocks]; exact this.idle r⟩
  | operate t op answer hends _ ih =>
      have hidle := ih (fun e he => hspares e (List.mem_cons_of_mem _ he))
      exact (perform_ends (r := 0) hidle (hspares _ List.mem_cons_self) hends).1

/-- A quarantine that was committed and not cleared is still there. -/
theorem LockRun.isQuarantined {r : Nat} {db₀ db : Db} {run : List LockEntry} (h₀ : LocksIdle db₀)
    (hspares : ∀ e ∈ run, e.op.spares e.before = true) (h : LockRun db₀ run db)
    (hsince : quarantinedSince r run = true) : IsQuarantined (db.lock r) := by
  induction h with
  | start => cases hsince
  | meanwhile db' hlocks _ ih =>
      obtain ⟨lock, hlock, hq⟩ := ih hspares hsince
      refine ⟨lock, ?_, hq⟩
      rw [← hlock]
      unfold Db.lock
      rw [hlocks]
  | @operate run db db' t op answer hends hrun ih =>
      have hbefore := fun e he => hspares e (List.mem_cons_of_mem _ he)
      have hidle := hrun.locksIdle h₀ hbefore
      obtain ⟨-, ⟨⟨e, rfl⟩, hlock⟩ | ⟨a, s, rfl, hs, hlock⟩⟩ :=
        perform_ends (r := r) hidle (hspares _ List.mem_cons_self) hends
      · rw [hlock]
        exact ih hbefore hsince
      · rw [hlock]
        simp only [quarantinedSince, Except.isOk, Except.toBool, Bool.true_and] at hsince
        by_cases hbegun : op.quarantines r = true
        · exact hs.begun hbegun
        · rw [if_neg hbegun] at hsince
          by_cases hclears : op.clears r = true
          · rw [if_pos hclears] at hsince
            cases hsince
          · rw [if_neg hclears] at hsince
            exact hs.kept (Bool.eq_false_iff.mpr hclears) (ih hbefore hsince)

/-- **A quarantine is sticky.**  In every sequence of operations of which none comes upon a
quarantine that the repository's functions fail to see: after a quarantine of `r` is committed and
until it is cleared, no lock of `r` is acquired or renewed, and `r` stays quarantined. -/
theorem quarantine_sticky (r : Nat) (db₀ db : Db) (run : List LockEntry) (h₀ : LocksIdle db₀)
    (hrun : LockRun db₀ run db) (hspares : ∀ e ∈ run, e.op.spares e.before = true) :
    (∀ later e earlier, run = later ++ e :: earlier → quarantinedSince r earlier = true →
      e.Keeps r) ∧
    (quarantinedSince r run = true → IsQuarantined (db.lock r)) := by
  refine ⟨?_, hrun.isQuarantined h₀ hspares⟩
  induction hrun with
  | start =>
      intro later e earlier hsplit
      simp at hsplit
  | meanwhile db' hlocks _ ih => exact ih hspares
  | @operate run db db' t op answer hends hrun ih =>
      have hbefore := fun e he => hspares e (List.mem_cons_of_mem _ he)
      intro later e earlier hsplit hsince
      cases later with
      | cons first later =>
          simp only [List.cons_append, List.cons.injEq] at hsplit
          exact ih hbefore later e earlier hsplit.2 hsince
      | nil =>
          simp only [List.nil_append, List.cons.injEq] at hsplit
          obtain ⟨rfl, rfl⟩ := hsplit
          have hq := hrun.isQuarantined h₀ hbefore hsince
          obtain ⟨-, ⟨⟨e, rfl⟩, hlock⟩ | ⟨a, s, rfl, hs, hlock⟩⟩ := perform_ends (r := r)
            (hrun.locksIdle h₀ hbefore) (hspares _ List.mem_cons_self) hends
          · exact ⟨fun _ => op.grants_error e, fun _ => by rw [hlock]; exact hq⟩
          · exact ⟨fun hj => hs.refused hj hq, fun hc => by rw [hlock]; exact hs.kept hc hq⟩

/-- A day after the quarantine the repository refuses the lock. -/
theorem quarantine_sticky_refused : ∃ run db,
    LockRun (Db.init 0) run db ∧ quarantinedSince 7 run = true ∧
      run.map LockEntry.op =
        [.repositoryAcquire "worker:a" 7 120, .quarantine "operator" 7 "uncertain outcome"] ∧
      IsQuarantined (db.lock 7) := by
  have hpasses : ((LockOp.quarantine "operator" 7 "uncertain outcome").perform ⟨1, 0⟩).passes
      (List.replicate 8 {}) (Db.init 0) (fun r db₁ => r.isOk &&
        LockOp.spares { db₁ with now := seconds 86400 } (.repositoryAcquire "worker:a" 7 120) &&
        ((LockOp.repositoryAcquire "worker:a" 7 120).perform ⟨2, 0⟩).passes (List.replicate 8 {})
          { db₁ with now := seconds 86400 } (fun r _ => !r.isOk)) = true := by
    decide +kernel
  obtain ⟨r₁, db₁, hends₁, htest₁⟩ := ends_of_passes hpasses
  simp only [Bool.and_eq_true] at htest₁
  obtain ⟨⟨hok, hspares⟩, hnext⟩ := htest₁
  obtain ⟨r₂, db₂, hends₂, -⟩ := ends_of_passes hnext
  have hfirst := LockRun.operate ⟨1, 0⟩ (.quarantine "operator" 7 "uncertain outcome") r₁ hends₁
    LockRun.start
  have hrun := LockRun.operate ⟨2, 0⟩ (.repositoryAcquire "worker:a" 7 120) r₂ hends₂
    (LockRun.meanwhile { db₁ with now := seconds 86400 } (Eq.refl db₁.locks) hfirst)
  have hsince : quarantinedSince 7 [⟨.repositoryAcquire "worker:a" 7 120,
      { db₁ with now := seconds 86400 }, r₂, db₂⟩,
      ⟨.quarantine "operator" 7 "uncertain outcome", Db.init 0, r₁, db₁⟩] = true := by
    simp [quarantinedSince, LockOp.quarantines, LockOp.clears, hok]
  refine ⟨_, db₂, hrun, hsince, rfl, ?_⟩
  refine (quarantine_sticky 7 (Db.init 0) db₂ _ ⟨fun _ => rfl⟩ hrun ?_).2 hsince
  simp only [List.mem_cons, List.not_mem_nil, or_false, forall_eq_or_imp, forall_eq]
  exact ⟨hspares, rfl⟩

/-- A year after the quarantine the repository gives the lock away, and then forgets it. -/
theorem quarantine_lapses : ∃ run db,
    LockRun (Db.init 0) run db ∧ quarantinedSince 7 run = true ∧ ¬ IsQuarantined (db.lock 7) ∧
      ∃ later e earlier, run = later ++ e :: earlier ∧ quarantinedSince 7 earlier = true ∧
        e.op = .repositoryAcquire "worker:a" 7 120 ∧ e.op.grants e.answer = true := by
  have hpasses : ((LockOp.quarantine "operator" 7 "uncertain outcome").perform ⟨1, 0⟩).passes
      (List.replicate 8 {}) (Db.init 0) (fun r db₁ => r.isOk &&
        ((LockOp.repositoryAcquire "worker:a" 7 120).perform ⟨2, 0⟩).passes (List.replicate 8 {})
          { db₁ with now := seconds (365 * 86400) } (fun r db₂ => r.isOk &&
            ((LockOp.repositoryRelease "worker:a" 7 1).perform ⟨3, 0⟩).passes
              (List.replicate 8 {}) db₂ (fun _ db₃ => (db₃.lock 7).isNone))) = true := by
    decide +kernel
  obtain ⟨r₁, db₁, hends₁, htest₁⟩ := ends_of_passes hpasses
  simp only [Bool.and_eq_true] at htest₁
  obtain ⟨r₂, db₂, hends₂, htest₂⟩ := ends_of_passes htest₁.2
  simp only [Bool.and_eq_true] at htest₂
  obtain ⟨r₃, db₃, hends₃, hgone⟩ := ends_of_passes htest₂.2
  have hfirst := LockRun.operate ⟨1, 0⟩ (.quarantine "operator" 7 "uncertain outcome") r₁ hends₁
    LockRun.start
  have hsecond := LockRun.operate ⟨2, 0⟩ (.repositoryAcquire "worker:a" 7 120) r₂ hends₂
    (LockRun.meanwhile { db₁ with now := seconds (365 * 86400) } (Eq.refl db₁.locks) hfirst)
  refine ⟨_, db₃, LockRun.operate ⟨3, 0⟩ (.repositoryRelease "worker:a" 7 1) r₃ hends₃ hsecond,
    ?_, ?_, [_], _, _, rfl, ?_, rfl, htest₂.1⟩
  · simp [quarantinedSince, LockOp.quarantines, LockOp.clears, htest₁.1]
  · rintro ⟨lock, hlock, -⟩
    rw [hlock] at hgone
    cases hgone
  · simp [quarantinedSince, LockOp.quarantines, htest₁.1]

end SelfHealing
