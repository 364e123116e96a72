/-
The incident of a dispatch that raises.

The execution node moves its incident to `EXECUTING`, in a transaction of its own, and then has the
adapter carry out the intent.  It is the outcome that moves the incident on; an adapter that raises
gives none, and the node does not catch what it raises.  So the incident stays in `EXECUTING`,
whichever exception it was: the lock of the resource, a stop or a quarantine that has come in
between, the key of another execution, a snapshot, the database.

The adapter itself writes no incident, so that it is enough to look at the transaction which moves
the incident, and at what the steps of the adapter leave alone.
-/
import SelfHealing.Lib.Interference
import SelfHealing.Proofs.AdapterSteps
import SelfHealing.Proofs.Authorisation

namespace SelfHealing

open Interleaving Interleaving.Prog ReadCommitted

/-! ### The incident is moved -/

section Moved

variable {t : TxId} {actor : String} {i : Nat} {l : List (Db × Db)} {inc : Incident}

/-- What `UPDATE incidents` has written. -/
theorem took_updateIncident {set : Int → Incident → Option Incident}
    (h : (updateIncident t i set).Took l (.ok (some inc))) :
    ∃ s, l = [(s, s.setIncident i ((s.incidents i).write t (some inc)))] ∧
      ∃ now row, set now row = some inc := by
  obtain ⟨s, s', rfl, ⟨hbad, -⟩ | hf⟩ := took_sql h
  · simp at hbad
  simp only at hf
  split at hf
  · rename_i row hrow
    split at hf
    · simp only [Option.some.injEq, Prod.mk.injEq, Except.ok.injEq] at hf
      obtain ⟨rfl, rfl⟩ := hf
      obtain ⟨old, -, hset⟩ := Option.bind_eq_some_iff.mp hrow
      exact ⟨s, rfl, _, old, hset⟩
    · simp at hf
  · simp at hf

/-- The write is the last step of a transition. -/
theorem took_transition {version : Int} {target : IncidentState} (htarget : target ≠ .approved)
    (h : (transition t actor i version target).Took l (.ok inc)) :
    ∃ before s, l = before ++ [(s, s.setIncident i ((s.incidents i).write t (some inc)))] ∧
      inc.state = target := by
  obtain ⟨found, l₁, l₂, rfl, -, hrest⟩ := took_bind_ok h
  cases found with
  | none =>
      obtain ⟨-, hbad⟩ := took_throw.mp hrest
      simp at hbad
  | some incident =>
      obtain ⟨u, l₃, l₄, rfl, -, hrest⟩ := took_bind_ok hrest
      obtain ⟨result, l₅, l₆, rfl, hwrite, hrest⟩ := took_bind_ok hrest
      cases result with
      | none =>
          obtain ⟨-, hbad⟩ := took_throw.mp hrest
          simp at hbad
      | some updated =>
          simp only [if_neg htarget] at hrest
          obtain ⟨rfl, heq⟩ := took_pure.mp hrest
          simp only [Except.ok.injEq] at heq
          subst heq
          obtain ⟨s, rfl, now, row, hset⟩ := took_updateIncident hwrite
          refine ⟨l₁ ++ l₃, s, by simp, ?_⟩
          split at hset
          · simp only [Option.some.injEq] at hset
            rw [← hset]
            rfl
          · simp at hset

/-- It is the last step of the node's own move as well. -/
theorem took_advanceIncident {states : List IncidentState} {target : IncidentState}
    (htarget : target ≠ .approved)
    (h : (advanceIncident actor t i states target).Took l (.ok (some inc))) :
    ∃ before s, l = before ++ [(s, s.setIncident i ((s.incidents i).write t (some inc)))] ∧
      inc.state = target := by
  obtain ⟨found, l₁, l₂, rfl, -, hrest⟩ := took_bind_ok h
  cases found with
  | none =>
      obtain ⟨-, hbad⟩ := took_pure.mp hrest
      simp at hbad
  | some incident =>
      by_cases hin : incident.state ∈ states
      · simp only [if_pos hin] at hrest
        obtain ⟨moved, l₃, l₄, rfl, hmove, hrest⟩ := took_bind_ok hrest
        obtain ⟨rfl, heq⟩ := took_pure.mp hrest
        simp only [Except.ok.injEq, Option.some.injEq] at heq
        subst heq
        obtain ⟨before, s, rfl, hstate⟩ := took_transition htarget hmove
        exact ⟨l₁ ++ before, s, by simp, hstate⟩
      · simp only [if_neg hin] at hrest
        obtain ⟨-, hbad⟩ := took_pure.mp hrest
        simp at hbad

/-- The others leave the row of the incident alone. -/
def SameRow (i : Nat) (s s' : Db) : Prop := s'.incidents i = s.incidents i

/-- What is written and left alone is committed, and the row is nobody's. -/
theorem written_committed {before after : List (Db × Db)} {u s : Db} {evs : List Event}
    {first last : Db} (hothers : Between (SameRow i) first
      (before ++ (u, u.setIncident i ((u.incidents i).write t (some inc))) :: after ++
        [(s, (s.commit t).record evs)]) last)
    (hafter : ∀ q ∈ after, SameRow i q.1 q.2) :
    last.incident i = some inc ∧ (last.incidents i).pending = none := by
  have hrefl : ∀ s : Db, SameRow i s s := fun _ => rfl
  rw [List.append_assoc] at hothers
  obtain ⟨mid, -, hrest⟩ := hothers.split hrefl
  obtain ⟨-, hrest⟩ := hrest
  obtain ⟨held, hheld, hcommit, hlast⟩ := hrest.split hrefl
  -- the row as it was written, up to the commit
  have hrow : held.incidents i = (u.incidents i).write t (some inc) := by
    refine hheld.keeps (P := fun s => s.incidents i = (u.incidents i).write t (some inc)) ?_ ?_ ?_
    · intro s s' hsame hs
      rw [hsame, hs]
    · intro q hq hs
      rw [hafter q hq, hs]
    · simp [Db.setIncident]
  have hend : last.incidents i = ((u.incidents i).write t (some inc)).commit t := by
    rw [hlast, ← hrow, ← hcommit]
    rfl
  unfold Db.incident
  rw [hend, Cell.committed_commit]
  exact ⟨Cell.visible_write _, by rw [Cell.commit_of_locked rfl]⟩

/-- The move is committed, and the row is nobody's. -/
theorem moved_committed {states : List IncidentState} {target : IncidentState} {first last : Db}
    (htarget : target ≠ .approved)
    (h : (unitOfWork t actor (advanceIncident actor t i states target)).Took l (.ok (some inc)))
    (hothers : Between (SameRow i) first l last) :
    last.incident i = some inc ∧ (last.incidents i).pending = none ∧ inc.state = target := by
  rcases took_unitOfWork_block h with ⟨-, e, hbad⟩ | hblock
  · simp at hbad
  cases hblock with
  | committed _ s s' l hbody =>
      obtain ⟨before, u, rfl, hstate⟩ := took_advanceIncident htarget hbody
      have hsplit : (s, s.started t) :: (before ++
            [(u, u.setIncident i ((u.incidents i).write t (some inc)))]) ++
            [(s', (s'.commit t).record [])] =
          ((s, s.started t) :: before) ++
            (u, u.setIncident i ((u.incidents i).write t (some inc))) :: [] ++
            [(s', (s'.commit t).record [])] := by simp
      rw [hsplit] at hothers
      obtain ⟨hrow, hpending⟩ := written_committed hothers (by simp)
      exact ⟨hrow, hpending, hstate⟩

end Moved

/-! ### The adapter raises

From the commit on no step of this task writes the incident: the adapter has no such step, and the
node ends with what the adapter has raised.  Others may write it, but what is said is about the
writes of this task.
-/

section Raised

variable {p : Nat} {ad : DockerExecutionAdapter} {state : IncidentGraphState}
  {intent : ExecutionIntent} {inc : Incident} {before moved dispatched : List (Db × Db)} {e : Err}

/-- The row of the incident is committed, and process `p` has written nothing on top of it. -/
structure Stands (p i : Nat) (inc : Incident) (db : Db) : Prop where
  row : db.incident i = some inc
  unwritten : ∀ q, (db.incidents i).pending = some q → q.holder.pid = p → q.values = []

/-- The end of a transaction of `p` changes nothing about it. -/
theorem Stands.ended {i : Nat} {db db' : Db} (h : Stands p i inc db) {t : TxId} (ht : t.pid = p)
    (hrow : db'.incidents i = (db.incidents i).commit t ∨
      db'.incidents i = (db.incidents i).rollback t) : Stands p i inc db' := by
  have hown : (db.incidents i).own t = [] := by
    unfold Cell.own
    cases hp : (db.incidents i).pending with
    | none => rfl
    | some q =>
        simp only
        by_cases hq : q.holder = t
        · rw [if_pos hq]
          exact h.unwritten q hp (by rw [hq, ht])
        · rw [if_neg hq]
  have hpending : ∀ q, (db'.incidents i).pending = some q → (db.incidents i).pending = some q := by
    intro q hq
    by_cases hl : (db.incidents i).locked t
    · obtain ⟨vs, hvs⟩ := hl
      rcases hrow with hrow | hrow
      · rw [hrow, Cell.commit_of_locked hvs] at hq
        simp at hq
      · rw [hrow, Cell.rollback_of_locked hvs] at hq
        simp at hq
    · rcases hrow with hrow | hrow
      · rw [hrow, Cell.commit_of_not_locked hl] at hq
        exact hq
      · rw [hrow, Cell.rollback_of_not_locked hl] at hq
        exact hq
  refine ⟨?_, fun q hq hpid => h.unwritten q (hpending q hq) hpid⟩
  have hcommitted : (db'.incidents i).committed = (db.incidents i).committed := by
    rcases hrow with hrow | hrow
    · rw [hrow, Cell.committed_commit, Cell.visible_eq_committed hown]
    · rw [hrow, Cell.committed_rollback]
  exact hcommitted.trans h.row

theorem Stands.same {i : Nat} {db db' : Db} (h : Stands p i inc db)
    (hrow : db'.incidents i = db.incidents i) : Stands p i inc db' := by
  refine ⟨?_, ?_⟩
  · unfold Db.incident
    rw [hrow]
    exact h.row
  · rw [hrow]
    exact h.unwritten

/-- **The adapter writes no incident.** -/
theorem execute_stands (i : Nat) (inc : Incident) :
    Within (fun s s' => Stands p i inc s → Stands p i inc s') (execute p ad intent) := by
  refine execute_within ?_ (fun s intent h => h.same rfl) ad intent
  intro s s' hstep h
  cases hstep with
  | outside hkept => exact h.same (by rw [hkept.incidents])
  | observed evs hevs hkept =>
      refine h.same ?_
      rw [hkept.incidents]
      rfl
  | commit t ht evs hevs => exact h.ended ht (Or.inl rfl)
  | rollback t ht => exact h.ended ht (Or.inr rfl)

/-- A call of the node, step by step, in which the adapter raises after the incident was moved to
`EXECUTING`. -/
structure RaisedDispatch (p : Nat) (ad : DockerExecutionAdapter) (state : IncidentGraphState)
    (intent : ExecutionIntent) (inc : Incident) (before moved dispatched : List (Db × Db))
    (e : Err) : Prop where
  prepared : ∃ retrieved prechecked snapshot, before = retrieved ++ prechecked ∧
    (retrieveIntent p ad.actor state).Took retrieved (.ok intent) ∧
    (precheck p ad intent).Took prechecked (.ok snapshot)
  moved : (unitOfWork ⟨p, 0⟩ ad.actor (advanceIncident ad.actor ⟨p, 0⟩ state.incidentId
    [.approved, .planned] .executing)).Took moved (.ok (some inc))
  raised : (execute p ad intent).Took dispatched (.error e)

/-- The node has ended, raising the same exception. -/
theorem RaisedDispatch.took
    (h : RaisedDispatch p ad state intent inc before moved dispatched e) :
    (executeNode p ad.actor (ad.provider p) state).Took (before ++ moved ++ dispatched)
      (.error e) := by
  obtain ⟨retrieved, prechecked, snapshot, rfl, hretrieved, hprechecked⟩ := h.prepared
  have hpassed : (tryCatch
      (do
        let _ ← precheck p ad intent
        pure none)
      (fun e => pure (some e.message)) : Prog (Option String)).Took prechecked (.ok none) := by
    refine Took.tryCatch ?_
    rw [← List.append_nil prechecked]
    exact Took.bind hprechecked (took_pure.mpr ⟨rfl, rfl⟩)
  unfold executeNode
  simp only [List.append_assoc]
  exact Took.bind hretrieved (Took.bind hpassed (Took.bind h.moved (Took.raises h.raised)))

/-- **A dispatch that raises strands its incident.**  Whatever the adapter raises after the node has
moved the incident to `EXECUTING`, the node raises it too, and if nobody else touches the row of the
incident, it is then still the one of that move: not `FAILED`, not `ESCALATED`, not `VERIFYING`. -/
theorem raised_dispatch_strands
    (h : RaisedDispatch p ad state intent inc before moved dispatched e) {first last : Db}
    (hothers : Between (SameRow state.incidentId) first (moved ++ dispatched) last) :
    (executeNode p ad.actor (ad.provider p) state).Took (before ++ moved ++ dispatched) (.error e) ∧
      ∃ row, last.incident state.incidentId = some row ∧ row.state = .executing := by
  have hrefl : ∀ s : Db, SameRow state.incidentId s s := fun _ => rfl
  obtain ⟨mid, hmoved, hdispatched⟩ := hothers.split hrefl
  obtain ⟨hrow, hpending, hstate⟩ := moved_committed (by decide) h.moved hmoved
  have hstands : Stands p state.incidentId inc mid := by
    refine ⟨hrow, ?_⟩
    intro q hq
    rw [hpending] at hq
    simp at hq
  have hlast := hdispatched.keeps (P := Stands p state.incidentId inc)
    (fun s s' (hsame : SameRow state.incidentId s s') h => h.same hsame)
    ((execute_stands state.incidentId inc).began h.raised.began) hstands
  exact ⟨h.took, inc, hlast.row, hstate⟩

end Raised

/-- The demo, with its resource locked by another worker. -/
def lockedDemo : Db :=
  { approvedDemo with
    locks := Function.update (fun _ => Cell.empty) 4 (Cell.ofRow
      { owner := "worker:b", token := 7, acquiredAt := 0, expiresAt := seconds 120,
        quarantined := false, quarantineReason := none, quarantinedAt := none }) }

/-- The state of the workflow of the demo. -/
def dispatchState : IncidentGraphState :=
  { incidentId := 1, resourceId := 4, currentPlanId := some 2 }

/-- Run alone, a call comes to the adapter, which raises. -/
def raisesAlone (p : Nat) (ad : DockerExecutionAdapter) (state : IncidentGraphState)
    (ws : List World) (db : Db) (exc : ExcClass) : Bool :=
  (retrieveIntent p ad.actor state).passes ws db fun r s => match r with
    | .error _ => false
    | .ok intent => (precheck p ad intent).passes ws s fun r s => match r with
      | .error _ => false
      | .ok _ => (unitOfWork ⟨p, 0⟩ ad.actor (advanceIncident ad.actor ⟨p, 0⟩ state.incidentId
          [.approved, .planned] .executing)).passes ws s fun r s => match r with
        | .ok (some _) => (execute p ad intent).passes ws s fun r _ => match r with
          | .error e => decide (e.exc = exc)
          | .ok _ => false
        | _ => false

theorem raisedDispatch_of_alone {p : Nat} {ad : DockerExecutionAdapter}
    {state : IncidentGraphState} {ws : List World} {db : Db} {exc : ExcClass}
    (h : raisesAlone p ad state ws db exc = true) :
    ∃ intent inc before moved dispatched e first last,
      RaisedDispatch p ad state intent inc before moved dispatched e ∧ e.exc = exc ∧
      Between (SameRow state.incidentId) first (moved ++ dispatched) last := by
  obtain ⟨r, s₁, retrieved, hretrieved, -, h⟩ := alone_of_passes h
  cases r with
  | error e => simp at h
  | ok intent =>
      obtain ⟨r, s₂, prechecked, hprechecked, -, h⟩ := alone_of_passes h
      cases r with
      | error e => simp at h
      | ok snapshot =>
          obtain ⟨r, s₃, moved, hmoved, hfirst, h⟩ := alone_of_passes h
          split at h
          · rename_i inc
            obtain ⟨r, s₄, dispatched, hraised, hsecond, h⟩ := alone_of_passes h
            cases r with
            | ok outcome => simp at h
            | error e =>
                have halone : Between (fun s s' : Db => s = s') s₂ (moved ++ dispatched) s₄ :=
                  hfirst.append (fun _ _ _ h h' => h.trans h') hsecond
                refine ⟨intent, inc, retrieved ++ prechecked, moved, dispatched, e, s₂, s₄,
                  ⟨⟨retrieved, prechecked, snapshot, rfl, hretrieved, hprechecked⟩, hmoved,
                    hraised⟩, of_decide_eq_true h, halone.mono ?_⟩
                rintro s _ rfl
                rfl
          · simp at h

/-- The precheck passes, the incident is moved, and the lock is refused. -/
theorem raised_dispatch_strands_locked :
    ∃ (steps : List (Db × Db)) (e : Err) (last : Db), e.exc = .resourceLockedError ∧
      (executeNode 0 "worker:a" (DockerExecutionAdapter.provider 0 ⟨0, "worker:a"⟩)
        dispatchState).Took steps (.error e) ∧
      ∃ row, last.incident 1 = some row ∧ row.state = .executing := by
  have htest : raisesAlone 0 ⟨0, "worker:a"⟩ dispatchState (List.replicate 20 managedContainer)
      lockedDemo .resourceLockedError = true := by decide +kernel
  obtain ⟨intent, inc, before, moved, dispatched, e, first, last, hraised, hexc, hothers⟩ :=
    raisedDispatch_of_alone htest
  obtain ⟨htook, hrow⟩ := raised_dispatch_strands hraised hothers
  exact ⟨_, e, last, hexc, htook, hrow⟩

/-- **The lock is refused and the incident left behind**: the node, run alone where another worker
has the resource locked, ends with the exception of the lock and the incident in `EXECUTING`. -/
theorem locked_dispatch_stranded :
    ∃ (e : Err) (db : Db),
      (executeNode 0 "worker:a" (DockerExecutionAdapter.provider 0 ⟨0, "worker:a"⟩)
        dispatchState).Ends lockedDemo (.error e) db ∧
      e.exc = .resourceLockedError ∧
      (db.incident 1).map Incident.state = some .executing := by
  have hpasses : (executeNode 0 "worker:a" (DockerExecutionAdapter.provider 0 ⟨0, "worker:a"⟩)
      dispatchState).passes (List.replicate 60 managedContainer) lockedDemo
      (fun r db => match r with
        | .error e => decide (e.exc = .resourceLockedError ∧
            (db.incident 1).map Incident.state = some .executing)
        | .ok _ => false) = true := by decide +kernel
  obtain ⟨r, db, hends, htest⟩ := ends_of_passes hpasses
  cases r with
  | ok state => simp at htest
  | error e => exact ⟨e, db, hends, of_decide_eq_true htest⟩

end SelfHealing
