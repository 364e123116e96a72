/-
One mutation at a time for a resource.

The lock of a resource is what keeps two calls apart, and it does so for the calls of
different actors, for as long as it lasts.  It keeps nobody out who acts for the same
actor, and it is never renewed.  So the intervals in which calls mutate a resource do not
overlap in the runs where neither matters: no lock is taken for an actor while another
call of that actor has leave to dispatch there, and no lock lapses while a call has.

A call counts from its lock transaction until it has returned, not only until its Docker
call is over: what it then does to the lock, it does by the key of the row, whoever has
taken it in between.
-/
import SelfHealing.Proofs.AtMostOnce

namespace SelfHealing

open Interleaving Interleaving.Protocol ReadCommitted

/-! ### The condition

It speaks of two kinds of steps: those in which a lock is taken, and those in which time passes.
Of each it asks something about the calls that have leave to dispatch at that moment, which is read
off the log; of all other steps it asks nothing.
-/

/-- The call has returned, raised or died. -/
def isOver (p : Nat) (log : List Event) : Bool :=
  log.any fun e =>
    match e with
    | .returned q _ | .crashed q => decide (q = p)
    | _ => false

/-- The calls that have leave to dispatch: each with its resource and its actor. -/
def dispatchers (log : List Event) : List (Nat × Nat × String) :=
  log.filterMap fun e =>
    match e with
    | .acquired p intent w => if isOver p log then none else some (p, intent.resourceId, w)
    | _ => none

/-- Somebody other than `p` is taking the lock of the row for `w`. -/
def takenBeside (p : Nat) (w : String) (c : Cell TxId ResourceLock) : Bool :=
  match c.pending with
  | some ⟨t, some lock :: _⟩ => decide (t.pid ≠ p) && decide (lock.owner = w)
  | _ => false

/-- While a call may dispatch, the lock of its resource has not lapsed, and is not being taken
for its actor by another call. -/
def LocksHold (db : Db) : Prop :=
  ∀ d ∈ dispatchers db.log,
    (∀ lock ∈ db.lock d.2.1, db.now < lock.expiresAt) ∧
      takenBeside d.1 d.2.2 (db.locks d.2.1) = false

instance (db : Db) : Decidable (LocksHold db) :=
  inferInstanceAs (Decidable (∀ d ∈ dispatchers db.log, _ ∧ _))

theorem isOver_iff {p : Nat} {log : List Event} :
    isOver p log = true ↔ (∃ intent, .returned p intent ∈ log) ∨ .crashed p ∈ log := by
  unfold isOver
  rw [List.any_eq_true]
  refine ⟨?_, ?_⟩
  · intro h
    obtain ⟨e, he, hp⟩ := h
    split at hp
    · rename_i q intent
      simp only [decide_eq_true_eq] at hp
      subst hp
      exact Or.inl ⟨intent, he⟩
    · rename_i q
      simp only [decide_eq_true_eq] at hp
      subst hp
      exact Or.inr he
    · simp at hp
  · intro h
    rcases h with ⟨intent, he⟩ | he
    · exact ⟨_, he, by simp⟩
    · exact ⟨_, he, by simp⟩

theorem mem_dispatchers {p r : Nat} {w : String} {log : List Event}
    (h : Dispatching p r w log) : (p, r, w) ∈ dispatchers log := by
  obtain ⟨⟨intent, hacq, hres⟩, hret, hcrash⟩ := h
  have hover : isOver p log = false := by
    rw [← Bool.not_eq_true, isOver_iff]
    intro hover
    rcases hover with ⟨i, hi⟩ | hi
    · exact hret i hi
    · exact hcrash hi
  unfold dispatchers
  rw [List.mem_filterMap]
  refine ⟨_, hacq, ?_⟩
  simp [hover, hres]

/-! ### The invariant -/

/-- A call that may dispatch is alone on its resource: the row is its actor's, and nobody else
has written to it. -/
structure AloneOnResource (s : Db) : Prop where
  clock : ∀ t, s.txTime t ≤ s.now
  timely : ∀ p r w l, Dispatching p r w s.log → (s.locks r).committed = some l →
    s.now < l.expiresAt
  one : ∀ p q r w v, Dispatching p r w s.log → Dispatching q r v s.log → p = q
  row : ∀ p r w, Dispatching p r w s.log → ∃ l, (s.locks r).committed = some l ∧ l.owner = w
  unwritten : ∀ p r w t vs, Dispatching p r w s.log →
    (s.locks r).pending = some ⟨t, vs⟩ → vs = [] ∨ t.pid = p

/-- Nothing new is dispatched, and the rows of those who dispatch are as they were. -/
structure Undisturbed (s s' : Db) : Prop where
  dispatching : ∀ p r w, Dispatching p r w s'.log → Dispatching p r w s.log
  committed : ∀ p r w, Dispatching p r w s'.log →
    (s'.locks r).committed = (s.locks r).committed
  unwritten : ∀ p r w t vs, Dispatching p r w s'.log →
    (s'.locks r).pending = some ⟨t, vs⟩ → vs = [] ∨ t.pid = p

namespace AloneOnResource

variable {s s' : Db} {p : Nat}

theorem timely_of_locksHold (h : LocksHold s) : ∀ p r w l, Dispatching p r w s.log →
    (s.locks r).committed = some l → s.now < l.expiresAt := by
  intro p r w l hdisp hl
  exact (h _ (mem_dispatchers hdisp)).1 l hl

theorem of_undisturbed (h : AloneOnResource s) (hu : Undisturbed s s')
    (hclock : ∀ t, s'.txTime t ≤ s'.now)
    (htimely : ∀ p r w l, Dispatching p r w s'.log → (s'.locks r).committed = some l →
      s'.now < l.expiresAt) : AloneOnResource s' where
  clock := hclock
  timely := htimely
  one := by
    intro p q r w v hp hq
    exact h.one p q r w v (hu.dispatching p r w hp) (hu.dispatching q r v hq)
  row := by
    intro p r w hdisp
    rw [hu.committed p r w hdisp]
    exact h.row p r w (hu.dispatching p r w hdisp)
  unwritten := hu.unwritten

/-- A step that leaves the rows of the locks alone. -/
theorem undisturbed_of_same (h : AloneOnResource s) (hlocks : s'.locks = s.locks)
    (hdisp : ∀ p r w, Dispatching p r w s'.log → Dispatching p r w s.log) : Undisturbed s s' where
  dispatching := hdisp
  committed := by
    intro p r w _
    rw [hlocks]
  unwritten := by
    intro p r w t vs hd hpend
    rw [hlocks] at hpend
    exact h.unwritten p r w t vs (hdisp p r w hd) hpend

/-! #### Ending a transaction -/

/-- What a call commits or forgets is nothing, on a resource where another one dispatches. -/
theorem committed_view (h : AloneOnResource s) {t : TxId} {r : Nat} {w : String}
    (hdisp : Dispatching p r w s.log) (hne : t.pid ≠ p) :
    (s.locks r).visible t = (s.locks r).committed := by
  refine Cell.visible_eq_committed ?_
  by_cases hl : (s.locks r).locked t
  · obtain ⟨vs, hvs⟩ := hl
    rw [Cell.own_of_locked hvs]
    rcases h.unwritten p r w t vs hdisp hvs with hnil | hpid
    · exact hnil
    · exact absurd hpid hne
  · exact Cell.own_eq_nil_of_not_locked hl

theorem unwritten_rollback (h : AloneOnResource s) {t : TxId} {p r : Nat} {w : String}
    (hdisp : Dispatching p r w s.log) {u : TxId} {vs : List (Option ResourceLock)}
    (hpend : ((s.locks r).rollback t).pending = some ⟨u, vs⟩) : vs = [] ∨ u.pid = p := by
  by_cases hl : (s.locks r).locked t
  · obtain ⟨us, hus⟩ := hl
    rw [Cell.rollback_of_locked hus] at hpend
    simp at hpend
  · rw [Cell.rollback_of_not_locked hl] at hpend
    exact h.unwritten p r w u vs hdisp hpend

theorem unwritten_commit (h : AloneOnResource s) {t : TxId} {p r : Nat} {w : String}
    (hdisp : Dispatching p r w s.log) {u : TxId} {vs : List (Option ResourceLock)}
    (hpend : ((s.locks r).commit t).pending = some ⟨u, vs⟩) : vs = [] ∨ u.pid = p := by
  by_cases hl : (s.locks r).locked t
  · obtain ⟨us, hus⟩ := hl
    rw [Cell.commit_of_locked hus] at hpend
    simp at hpend
  · rw [Cell.commit_of_not_locked hl] at hpend
    exact h.unwritten p r w u vs hdisp hpend

theorem undisturbed_rollback (h : AloneOnResource s) (t : TxId) : Undisturbed s (s.rollback t) where
  dispatching := fun _ _ _ hd => hd
  committed := fun _ _ _ _ => Cell.committed_rollback
  unwritten := fun _ _ _ _ _ hd hpend => h.unwritten_rollback hd hpend

/-- A commit of call `p`, after which it does not dispatch. -/
theorem undisturbed_commit (h : AloneOnResource s) {t : TxId} (ht : t.pid = p) {evs : List Event}
    (hdisp : ∀ q r w, Dispatching q r w (evs ++ s.log) → q ≠ p ∧ Dispatching q r w s.log) :
    Undisturbed s ((s.commit t).record evs) where
  dispatching := fun q r w hd => (hdisp q r w hd).2
  committed := by
    intro q r w hd
    obtain ⟨hq, hd⟩ := hdisp q r w hd
    show ((s.locks r).commit t).committed = (s.locks r).committed
    rw [Cell.committed_commit]
    exact h.committed_view hd (fun hpid => hq (hpid.symm.trans ht))
  unwritten := by
    intro q r w u vs hd hpend
    exact h.unwritten_commit (hdisp q r w hd).2 hpend

end AloneOnResource

/-! ### Who dispatches after an event -/

section Dispatching

variable {p q r : Nat} {w : String} {e : Event} {log : List Event}

/-- Nobody gets leave to dispatch by another event. -/
theorem dispatching_of_cons (hacq : e.isAcquired = false)
    (h : Dispatching q r w (e :: log)) : Dispatching q r w log := by
  obtain ⟨⟨intent, hmem, hres⟩, hret, hcrash⟩ := h
  refine ⟨⟨intent, ?_, hres⟩, ?_, ?_⟩
  · rcases List.mem_cons.mp hmem with heq | hmem
    · rw [← heq] at hacq
      simp [Event.isAcquired] at hacq
    · exact hmem
  · exact fun i hi => hret i (List.mem_cons_of_mem _ hi)
  · exact fun hi => hcrash (List.mem_cons_of_mem _ hi)

theorem not_dispatching_returned {intent : ExecutionIntent} :
    ¬ Dispatching p r w (.returned p intent :: log) :=
  fun h => h.2.1 intent List.mem_cons_self

/-- A call that gets leave to dispatch had none, and then has it for its resource only. -/
theorem dispatching_acquired {intent : ExecutionIntent} {v : String}
    (hnext : Trail p (.acquired p intent v :: mine p log)) :
    (∀ r w, ¬ Dispatching p r w log) ∧
      ∀ q r w, Dispatching q r w (.acquired p intent v :: log) →
        (q = p ∧ r = intent.resourceId ∧ w = v) ∨ (q ≠ p ∧ Dispatching q r w log) := by
  have hmine : ∃ i, mine p log = [.called p i] := by
    cases hm : mine p log with
    | nil =>
        rw [hm] at hnext
        cases hnext
    | cons e rest =>
        rw [hm] at hnext
        cases hnext with
        | acquired i => exact ⟨i, rfl⟩
  obtain ⟨i, hmine⟩ := hmine
  refine ⟨?_, ?_⟩
  · intro r w
    rw [dispatching_iff_mine, hmine]
    exact not_dispatching_called i r w
  · intro q r w hd
    by_cases hq : q = p
    · subst hq
      refine Or.inl ⟨rfl, ?_⟩
      rw [dispatching_iff_mine, mine_cons_self (p := q) rfl, hmine] at hd
      obtain ⟨⟨j, hmem, hres⟩, -⟩ := hd
      simp only [List.mem_cons, Event.acquired.injEq, true_and, reduceCtorEq, List.not_mem_nil,
        or_false] at hmem
      exact ⟨by rw [← hres, hmem.1], hmem.2⟩
    · refine Or.inr ⟨hq, ?_⟩
      have hother : (Event.acquired p intent v).proc ≠ q := fun h => hq h.symm
      exact (dispatching_congr (mine_cons_ne hother)).mp hd

end Dispatching

/-! ### Each step keeps it

The step that needs the condition is the one in which a lock is taken; all others leave the set of
dispatching calls or make it smaller.
-/

namespace AloneOnResource

variable {s s' : Db} {p : Nat}

/-- **Nobody takes the lock** of a resource where another call dispatches: it has not lapsed,
and whoever may take it over acts for the same actor, which the condition excludes. -/
theorem not_acquired (h : AloneOnResource s) {r : Nat} {l : ResourceLock}
    (hout : ∀ r' w, ¬ Dispatching p r' w s.log)
    (havail : ∀ cur, (s.locks r).visible ⟨p, 0⟩ = some cur →
      cur.available (s.txTime ⟨p, 0⟩) l.owner = true)
    (hadm : LocksHold (s.setLock r ((s.locks r).write ⟨p, 0⟩ (some l)))) {q : Nat} {w : String} :
    ¬ Dispatching q r w s.log := by
  intro hdisp
  have hne : p ≠ q := by
    intro heq
    rw [← heq] at hdisp
    exact hout r w hdisp
  obtain ⟨cur, hcur, howner⟩ := h.row q r w hdisp
  have hav := havail cur (by rw [h.committed_view (t := ⟨p, 0⟩) hdisp hne]; exact hcur)
  have htimely := h.timely q r w cur hdisp hcur
  have hclock := h.clock ⟨p, 0⟩
  have hsame : cur.owner = l.owner := by
    unfold ResourceLock.available at hav
    simp only [Bool.and_eq_true, Bool.or_eq_true, decide_eq_true_eq] at hav
    rcases hav.2 with hexp | hsame
    · omega
    · exact hsame
  have hbeside := (hadm (q, r, w) (mem_dispatchers hdisp)).2
  simp only [Db.setLock, Function.update_self, takenBeside, Cell.write, Bool.and_eq_false_iff,
    decide_eq_false_iff_not, not_not] at hbeside
  rcases hbeside with hpid | hown
  · exact hne hpid
  · exact hown (by rw [← hsame, howner])

/-- A write to the row of a resource where nobody else dispatches. -/
theorem undisturbed_write (h : AloneOnResource s) {r : Nat} {v : Option ResourceLock}
    (halone : ∀ q w, Dispatching q r w s.log → q = p) :
    Undisturbed s (s.setLock r ((s.locks r).write ⟨p, 0⟩ v)) where
  dispatching := fun _ _ _ hd => hd
  committed := by
    intro q r' w hd
    by_cases hr : r' = r
    · subst hr
      simp only [Db.setLock, Function.update_self]
      rfl
    · simp only [Db.setLock, Function.update_of_ne hr]
  unwritten := by
    intro q r' w t vs hd hpend
    by_cases hr : r' = r
    · subst hr
      simp only [Db.setLock, Function.update_self, Cell.write, Option.some.injEq,
        Pending.mk.injEq] at hpend
      right
      rw [← hpend.1, halone q w hd]
    · simp only [Db.setLock, Function.update_of_ne hr] at hpend
      exact h.unwritten q r' w t vs hd hpend

theorem undisturbed_lock (h : AloneOnResource s) {r : Nat} :
    Undisturbed s (s.setLock r ((s.locks r).lock ⟨p, 0⟩)) where
  dispatching := fun _ _ _ hd => hd
  committed := by
    intro q r' w hd
    by_cases hr : r' = r
    · subst hr
      simp only [Db.setLock, Function.update_self]
      rfl
    · simp only [Db.setLock, Function.update_of_ne hr]
  unwritten := by
    intro q r' w t vs hd hpend
    by_cases hr : r' = r
    · subst hr
      simp only [Db.setLock, Function.update_self, Cell.lock, Option.some.injEq,
        Pending.mk.injEq] at hpend
      obtain ⟨rfl, rfl⟩ := hpend
      by_cases hl : (s.locks r').locked ⟨p, 0⟩
      · obtain ⟨us, hus⟩ := hl
        rw [Cell.own_of_locked hus]
        exact h.unwritten q r' w _ us hd hus
      · exact Or.inl (Cell.own_eq_nil_of_not_locked hl)
    · simp only [Db.setLock, Function.update_of_ne hr] at hpend
      exact h.unwritten q r' w t vs hd hpend

/-- **Leave to dispatch**: the lock that is committed with it was taken while nobody else had
leave to dispatch there. -/
theorem acquire (h : AloneOnResource s) {intent : ExecutionIntent} {w : String} {l : ResourceLock}
    {rest : List (Option ResourceLock)}
    (hnext : Trail p (.acquired p intent w :: mine p s.log))
    (hlock : (s.locks intent.resourceId).pending = some ⟨⟨p, 0⟩, some l :: rest⟩)
    (howner : l.owner = w)
    (hadm : LocksHold ((s.commit ⟨p, 0⟩).record [.acquired p intent w])) :
    AloneOnResource ((s.commit ⟨p, 0⟩).record [.acquired p intent w]) := by
  obtain ⟨hout, hwho⟩ := dispatching_acquired hnext
  have hcell : (s.locks intent.resourceId).commit ⟨p, 0⟩ =
      ⟨some l :: rest ++ (s.locks intent.resourceId).versions, none⟩ :=
    Cell.commit_of_locked hlock
  -- whoever dispatched before does so elsewhere, since the row here is written by `p`
  have helse : ∀ q w', ¬ Dispatching q intent.resourceId w' s.log := by
    intro q w' hd
    rcases h.unwritten q _ w' _ _ hd hlock with hnil | hpid
    · simp at hnil
    · have hpq : p = q := hpid
      rw [← hpq] at hd
      exact hout _ w' hd
  refine ⟨h.clock, timely_of_locksHold hadm, ?_, ?_, ?_⟩
  · intro q₁ q₂ r v₁ v₂ h₁ h₂
    rcases hwho q₁ r v₁ h₁ with ⟨rfl, rfl, -⟩ | ⟨-, h₁'⟩
    · rcases hwho q₂ _ v₂ h₂ with ⟨rfl, -, -⟩ | ⟨-, h₂'⟩
      · rfl
      · exact absurd h₂' (helse q₂ v₂)
    · rcases hwho q₂ r v₂ h₂ with ⟨-, rfl, -⟩ | ⟨-, h₂'⟩
      · exact absurd h₁' (helse q₁ v₁)
      · exact h.one q₁ q₂ r v₁ v₂ h₁' h₂'
  · intro q r v hd
    rcases hwho q r v hd with ⟨rfl, rfl, rfl⟩ | ⟨hq, hd'⟩
    · refine ⟨l, ?_, howner⟩
      show ((s.locks intent.resourceId).commit ⟨q, 0⟩).committed = some l
      rw [hcell]
      rfl
    · obtain ⟨l', hl', howner'⟩ := h.row q r v hd'
      refine ⟨l', ?_, howner'⟩
      show ((s.locks r).commit ⟨p, 0⟩).committed = some l'
      rw [Cell.committed_commit, h.committed_view hd' (fun heq => hq heq.symm)]
      exact hl'
  · intro q r v t vs hd hpend
    rcases hwho q r v hd with ⟨rfl, rfl, rfl⟩ | ⟨hq, hd'⟩
    · have hnone : ((s.locks intent.resourceId).commit ⟨q, 0⟩).pending = some ⟨t, vs⟩ := hpend
      rw [hcell] at hnone
      simp at hnone
    · exact h.unwritten_commit hd' hpend

theorem act (h : AloneOnResource s) (hact : AdapterAct p s s') (hadm : LocksHold s') :
    AloneOnResource s' := by
  have htimely := timely_of_locksHold hadm
  cases hact with
  | quiet hexec hlocks hlog hnow htx hdocker =>
      refine h.of_undisturbed (h.undisturbed_of_same hlocks ?_) ?_ htimely
      · intro q r w hd
        rw [hlog] at hd
        exact hd
      · intro t
        rw [hnow]
        rcases htx t with heq | heq
        · rw [heq]
          exact h.clock t
        · rw [heq]
  | lock r hfree => exact h.of_undisturbed h.undisturbed_lock h.clock htimely
  | writeLock r v hfree hw =>
      refine h.of_undisturbed (h.undisturbed_write ?_) h.clock htimely
      intro q w hd
      cases hw with
      | acquire l hout havail => exact absurd hd (h.not_acquired hout havail hadm)
      | settle _ v hin => exact h.one q p r w v hd hin
  | writeExec t ht k v hfree hw hwhy =>
      exact h.of_undisturbed (h.undisturbed_of_same rfl (fun _ _ _ hd => hd)) h.clock htimely
  | rollback t ht => exact h.of_undisturbed (h.undisturbed_rollback t) h.clock htimely
  | commit t ht hout =>
      refine h.of_undisturbed (h.undisturbed_commit ht ?_) h.clock htimely
      intro q r w hd
      refine ⟨?_, hd⟩
      intro hq
      rw [hq] at hd
      exact hout r w hd
  | finish intent hnext =>
      refine h.of_undisturbed (h.undisturbed_commit (t := (⟨p, 0⟩ : TxId)) rfl ?_) h.clock htimely
      intro q r w hd
      refine ⟨?_, dispatching_of_cons rfl hd⟩
      intro hq
      rw [hq] at hd
      exact not_dispatching_returned hd
  | event e docker hproc hacq hnext hdocker =>
      exact h.of_undisturbed
        (h.undisturbed_of_same rfl (fun _ _ _ hd => dispatching_of_cons hacq hd)) h.clock htimely
  | acquire intent w l rest row hnext hlock howner hrow hrunning =>
      exact h.acquire hnext hlock howner hadm

theorem crash (h : AloneOnResource s) (p : Nat) : AloneOnResource (s.crash p) := by
  have h1 : AloneOnResource (s.rollback ⟨p, 0⟩) :=
    h.of_undisturbed (h.undisturbed_rollback _) h.clock (by
      intro q r w l hd hl
      exact h.timely q r w l hd (by rw [← hl]; exact Cell.committed_rollback.symm))
  have h2 : AloneOnResource ((s.rollback ⟨p, 0⟩).rollback ⟨p, 1⟩) :=
    h1.of_undisturbed (h1.undisturbed_rollback _) h1.clock (by
      intro q r w l hd hl
      exact h1.timely q r w l hd (by rw [← hl]; exact Cell.committed_rollback.symm))
  refine h2.of_undisturbed (h2.undisturbed_of_same rfl (fun _ _ _ hd => dispatching_of_cons rfl hd))
    h2.clock ?_
  intro q r w l hd hl
  exact h2.timely q r w l (dispatching_of_cons rfl hd) hl

theorem env (h : AloneOnResource s) {e : AdapterEnv} (henv : e.apply s = some s')
    (hadm : LocksHold s') : AloneOnResource s' := by
  have htimely := timely_of_locksHold hadm
  cases e with
  | tick elapsed =>
      simp only [AdapterEnv.apply, Option.some.injEq] at henv
      subst henv
      refine h.of_undisturbed (h.undisturbed_of_same rfl (fun _ _ _ hd => hd)) ?_ htimely
      intro t
      have := h.clock t
      show s.txTime t ≤ s.now + (elapsed : Int)
      omega
  | control c | planned plans steps =>
      simp only [AdapterEnv.apply, Option.some.injEq] at henv
      subst henv
      exact h.of_undisturbed (h.undisturbed_of_same rfl (fun _ _ _ hd => hd)) h.clock htimely

end AloneOnResource

/-! ### Runs -/

/-- Calls of `execute`, among themselves, in runs that meet the condition. -/
def locksHoldProtocol : Protocol World ExecuteCall AdapterEnv Db where
  machine := executeMachine (fun _ s' => LocksHold s')
  guar := AdapterAct
  inv := fun s => Dispatched s ∧ AloneOnResource s
  inv_guar := fun _ _ _ hinv hact hadm => ⟨hinv.1.act hact, hinv.2.act hact hadm⟩
  inv_crash := fun p _ hinv => ⟨hinv.1.crash p, hinv.2.crash p⟩
  inv_env := fun _ _ _ hinv henv hadm => ⟨hinv.1.env henv, hinv.2.env henv hadm⟩

theorem isAdapterProtocol_locksHold : IsAdapterProtocol locksHoldProtocol where
  guar := fun _ _ _ h => h
  others := by
    intro p s s' _ h
    cases h with
    | proc q hq hact hadm => exact hact.apart hq
    | crash q _ hq => exact apart_crash hq s
    | env e henv hadm => exact apart_env henv
  chained := fun _ hinv => hinv.1.chained

/-- A call that is mutating its resource has leave to dispatch there. -/
theorem Mutating.dispatching {p : Nat} {intent : ExecutionIntent} {s : Db} (h : Dispatched s)
    (hm : Mutating p intent s.log) : ∃ w, Dispatching p intent.resourceId w s.log := by
  obtain ⟨⟨w, hacq⟩, hend, hcrash⟩ := hm
  refine ⟨w, ⟨intent, hacq, rfl⟩, ?_, hcrash⟩
  intro i hret
  have hended := (h.trails p).ended_of_returned ((mem_mine rfl).mpr hret) ((mem_mine rfl).mpr hacq)
  exact hend ((mem_mine rfl).mp hended)

/-- **One mutation at a time for a resource**, in runs where no lock lapses while a call may
dispatch under it, and none is taken for an actor while another call of that actor may. -/
theorem exclusiveMutations_of_locksHold (db₀ : Db) (h₀ : db₀.Initial)
    (hexec : ∀ k, db₀.executions k = Cell.empty) (c : Config World Db)
    (hr : Reaches (executeMachine (fun _ s' => LocksHold s')) (Config.idle db₀) c) :
    ExclusiveMutations c.state := by
  have hnobody : ∀ p r w, ¬ Dispatching p r w db₀.log := by
    intro p r w hd
    obtain ⟨⟨intent, hmem, -⟩, -⟩ := hd
    rw [h₀.log] at hmem
    simp at hmem
  have hinit : AloneOnResource db₀ :=
    ⟨h₀.clock, fun p r w _ hd => absurd hd (hnobody p r w),
      fun p _ r w _ hd => absurd hd (hnobody p r w), fun p r w hd => absurd hd (hnobody p r w),
      fun p r w _ _ hd => absurd hd (hnobody p r w)⟩
  have hverified : locksHoldProtocol.Verified :=
    fun p call s hinv hready => execute_safe isAdapterProtocol_locksHold call hinv hready
  obtain ⟨hdispatched, hexclusive⟩ :=
    inv_of_reaches hverified ⟨dispatched_initial h₀.log hexec, hinit⟩ hr
  intro p q i j hp hq hres
  obtain ⟨w, hw⟩ := hp.dispatching hdispatched
  obtain ⟨v, hv⟩ := hq.dispatching hdispatched
  rw [← hres] at hv
  exact hexclusive.one p q _ w v hw hv

/-- Another restart of the same resource, for another incident. -/
def restartDemoAgain : ExecutionIntent :=
  { restartDemo with incidentId := 5, planId := 6, stepId := 7, idempotencyKey := "restart-2" }

/-- The plans of both. -/
def demoPlannedTwice : Db :=
  { Db.init 0 with
    plans := demoPlanned.plans ++
      [⟨6, 5, 0, 1, "LOW", true, "", some "0123456789ab", some 1, none⟩]
    steps := demoPlanned.steps ++
      [⟨7, 6, 4, 1, "restart_container", some "0123456789ab", some 1, none, none⟩] }

theorem demoPlannedTwice_initial : demoPlannedTwice.Initial :=
  ⟨rfl, fun _ => Int.le_refl 0, fun _ _ h => by simp [demoPlannedTwice, Db.init] at h⟩

/-- Two calls of one worker restart the resource, one after the other. -/
theorem exclusiveMutations_in_turn :
    ∃ c, Reaches (executeMachine (fun _ s' => LocksHold s')) (Config.idle demoPlannedTwice) c ∧
      .returned 0 restartDemo.dispatched ∈ c.state.log ∧
      .restartIssued 1 restartDemoAgain.dispatched ∈ c.state.log ∧ ExclusiveMutations c.state := by
  obtain ⟨c, hr, htest⟩ := Machine.reaches_of_exec (executeMachine (fun _ s' => LocksHold s'))
    (Config.idle demoPlannedTwice)
    (.start 0 ⟨⟨0, "worker:a"⟩, restartDemo⟩ :: List.replicate 29 (.run 0 runningContainer) ++
      .start 1 ⟨⟨1, "worker:a"⟩, restartDemoAgain⟩ :: List.replicate 20 (.run 1 runningContainer))
    (fun db => decide (.returned 0 restartDemo.dispatched ∈ db.log) &&
      decide (.restartIssued 1 restartDemoAgain.dispatched ∈ db.log)) (by decide)
  simp only [Bool.and_eq_true, decide_eq_true_eq] at htest
  exact ⟨c, hr, htest.1, htest.2,
    exclusiveMutations_of_locksHold demoPlannedTwice demoPlannedTwice_initial (fun _ => rfl) c hr⟩

/-- **Two mutations at once**: two calls of one worker, each with an adapter of its own, get
leave to dispatch on the same resource. -/
theorem exclusiveMutations_reentered :
    ¬ ∀ db₀ : Db, db₀.Initial → (∀ k, db₀.executions k = Cell.empty) → ∀ c : Config World Db,
      Reaches (executeMachine (fun _ _ => True)) (Config.idle db₀) c →
        ExclusiveMutations c.state := by
  intro hall
  obtain ⟨c, hr, htest⟩ := Machine.reaches_of_exec (executeMachine (fun _ _ => True))
    (Config.idle demoPlannedTwice)
    (.start 0 ⟨⟨0, "worker:a"⟩, restartDemo⟩ :: .start 1 ⟨⟨1, "worker:a"⟩, restartDemoAgain⟩ ::
      List.replicate 20 (.run 0 runningContainer) ++ List.replicate 20 (.run 1 runningContainer))
    (fun db => decide (
      (.acquired 0 restartDemo.dispatched "worker:a" ∈ db.log ∧
        .restartEnded 0 restartDemo.dispatched ∉ db.log ∧ .crashed 0 ∉ db.log) ∧
      (.acquired 1 restartDemoAgain.dispatched "worker:a" ∈ db.log ∧
        .restartEnded 1 restartDemoAgain.dispatched ∉ db.log ∧ .crashed 1 ∉ db.log))) (by decide)
  rw [decide_eq_true_eq] at htest
  obtain ⟨⟨h0, hrun0⟩, h1, hrun1⟩ := htest
  have hsame := hall demoPlannedTwice demoPlannedTwice_initial (fun _ => rfl) c hr 0 1 _ _
    ⟨⟨_, h0⟩, hrun0⟩ ⟨⟨_, h1⟩, hrun1⟩ rfl
  simp at hsame

end SelfHealing
