/-
The history of an incident.

Nothing in the code counts executions.  The bound on them follows from three
things together: the edges of the state machine, the attempts counter that moves on
one of them, and the version that every write names.  `IncidentWrite` is one write,
decided on the very row that it replaces; `History` is any number of them, and what
is claimed of a run is proved by induction on it.  That committed rows form such a
history, whatever the interleaving, is the protocol at the end.

The write names the version that its caller has read, and the database refuses it if another version
is there.  So no write is decided on a row that is out of date, and a chain of writes is a run of
the state machine however the callers are interleaved.
-/
import SelfHealing.Incidents
import SelfHealing.Proofs.Rules
import SelfHealing.Proofs.Transactions

namespace SelfHealing

open Interleaving Interleaving.Protocol Interleaving.Prog ReadCommitted

/-! ### One write -/

/-- What `transition` has checked. -/
structure Admitted (r : Incident) (target : IncidentState) : Prop where
  edge : target ∈ r.state.transitions
  routed : r.state = .planned → target ≠ .escalated →
    target = if r.approvalRequired then .pendingApproval else .executing
  budget : r.retries target = true → r.attempts < r.retryLimit

theorem admitted_of_ok {r : Incident} {v : Int} {target : IncidentState}
    (h : r.admitsTransition v target = .ok ()) : (r.version : Int) = v ∧ Admitted r target := by
  unfold Incident.admitsTransition validateTransition at h
  by_cases hv : (r.version : Int) = v
  swap
  · simp [hv, throw, throwThe, MonadExceptOf.throw, bind, Except.bind] at h
  refine ⟨hv, ?_⟩
  by_cases hedge : target ∈ r.state.transitions
  swap
  · simp [hv, hedge, throw, throwThe, MonadExceptOf.throw, bind, Except.bind] at h
  simp only [hv, hedge, ne_eq, not_true_eq_false, if_false, if_true, pure_bind] at h
  refine ⟨hedge, ?_, ?_⟩
  · intro hplanned hesc
    by_contra hreq
    simp [hplanned, hesc, hreq, throw, throwThe, MonadExceptOf.throw, bind, Except.bind] at h
  · intro hretry
    have hnot : ¬ (r.state = .planned ∧ target ≠ .escalated) := by
      intro hc
      simp [Incident.retries, hc.1] at hretry
    by_contra hle
    have hle' : r.retryLimit ≤ r.attempts := by omega
    rw [if_neg hnot] at h
    simp [hretry, hle', throw, throwThe, MonadExceptOf.throw] at h

/-- A write to an incident, with the row it was decided on. -/
inductive IncidentWrite : Option Incident → Option Incident → Prop
  | create (r : Incident) (hstate : r.state = .detected) (hversion : r.version = 1)
      (hattempts : r.attempts = 0) : IncidentWrite none (some r)
  | approval (q : Incident) (now : Int) (hstate : q.state = .planned) :
      IncidentWrite (some q) (some { q with
        approvalRequired := true, version := q.version + 1, updatedAt := now })
  | move (q : Incident) (now : Int) (target : IncidentState) (hadm : Admitted q target) :
      IncidentWrite (some q) (some (q.transitioned now q.version target q))

/-- The version of a row; no row comes before all of them. -/
def versionRank : Option Incident → Nat
  | none => 0
  | some r => r.version

@[simp] theorem version_transitioned (q : Incident) (now : Int) (target : IncidentState) :
    (q.transitioned now q.version target q).version = q.version + 1 := by
  simp only [Incident.transitioned]
  omega

theorem versionRank_lt {v w : Option Incident} (h : IncidentWrite v w) :
    versionRank v < versionRank w := by
  cases h with
  | create r hstate hversion hattempts => simp [versionRank, hversion]
  | approval q now hstate => simp [versionRank]
  | move q now target hadm => simp [versionRank]

/-- A write leaves a row. -/
theorem IncidentWrite.row {v w : Option Incident} (h : IncidentWrite v w) : ∃ r, w = some r := by
  cases h with
  | create r hstate hversion hattempts => exact ⟨r, rfl⟩
  | approval q now hstate => exact ⟨_, rfl⟩
  | move q now target hadm => exact ⟨_, rfl⟩

/-- What a write does to the state, and to what is counted. -/
theorem IncidentWrite.cases_some {q r : Incident} (h : IncidentWrite (some q) (some r)) :
    r.version = q.version + 1 ∧ r.retryLimit = q.retryLimit ∧
    (q.approvalRequired = true → r.approvalRequired = true) ∧
    (q.state = .planned ∧ r.state = .planned ∧ r.attempts = q.attempts ∨
      Admitted q r.state ∧ r.attempts
        = if q.retries r.state then q.attempts + 1 else q.attempts) := by
  cases h with
  | approval _ now hstate => exact ⟨rfl, rfl, fun _ => rfl, Or.inl ⟨hstate, hstate, rfl⟩⟩
  | move _ now target hadm =>
      exact ⟨version_transitioned q now target, rfl, fun h => h, Or.inr ⟨hadm, rfl⟩⟩

/-! ### Any number of them

Executions are counted against retries, retries against the attempts counter, and that one against
its limit, all by one induction over the writes.  The edges of the state machine say that between
two executions there is a retry, and only a retry moves the counter.
-/

/-- The rows of an incident, newest first, each written over the one before. -/
inductive History : List Incident → Prop
  | nil : History []
  | create (r : Incident) (hw : IncidentWrite none (some r)) : History [r]
  | next (r q : Incident) (rest : List Incident) (hw : IncidentWrite (some q) (some r))
      (h : History (q :: rest)) : History (r :: q :: rest)

theorem History.tail {r : Incident} {h : List Incident} (hh : History (r :: h)) : History h := by
  cases hh with
  | create _ hw => exact History.nil
  | next _ q rest hw h => exact h

theorem History.suffix {h h' : List Incident} (hh : History h) (hs : h' <:+ h) : History h' := by
  induction h with
  | nil =>
      rw [List.suffix_nil.mp hs]
      exact History.nil
  | cons r rest ih =>
      rcases List.suffix_cons_iff.mp hs with heq | hsuf
      · rw [heq]; exact hh
      · exact ih hh.tail hsuf

/-- Permitted writes, one over the other, are a history: nothing is ever deleted. -/
theorem history_of_linked {l : List (Option Incident)} (h : Linked IncidentWrite l) :
    l = (l.filterMap id).map some ∧ History (l.filterMap id) := by
  induction l with
  | nil => exact ⟨rfl, History.nil⟩
  | cons v rest ih =>
      obtain ⟨hw, hrest⟩ := h
      obtain ⟨heq, hhist⟩ := ih hrest
      obtain ⟨r, rfl⟩ := hw.row
      have hmap : (some r :: rest).filterMap id = r :: rest.filterMap id := rfl
      rw [hmap]
      refine ⟨by rw [List.map_cons, ← heq], ?_⟩
      generalize hl : rest.filterMap id = past at heq hhist
      cases past with
      | nil =>
          rw [heq] at hw
          exact History.create r hw
      | cons q past =>
          rw [heq] at hw
          exact History.next r q past hw hhist

/-- How many steps of a history, from a row to the next, are of some kind. -/
def countSteps (kind : Incident → Incident → Bool) : List Incident → Nat
  | [] => 0
  | [_] => 0
  | r :: q :: rest => (if kind q r then 1 else 0) + countSteps kind (q :: rest)

/-- A step from `VERIFYING` back to `DIAGNOSED`. -/
def isRetry (q r : Incident) : Bool :=
  decide (q.state = .verifying) && decide (r.state = .diagnosed)

/-- A step into `EXECUTING`. -/
def entersExecuting (q r : Incident) : Bool :=
  decide (q.state ≠ .executing) && decide (r.state = .executing)

/-- What a run of an incident looks like. -/
structure WellRun (h : List Incident) : Prop where
  created : ∀ r, [r] <:+ h → r.state = .detected
  version : ∀ r rest, r :: rest <:+ h → r.version = 1 + rest.length
  attempts : ∀ r rest, r :: rest <:+ h → r.attempts = countSteps isRetry (r :: rest)
  budget : ∀ r ∈ h, r.attempts ≤ r.retryLimit
  limit : ∀ r ∈ h, ∀ q ∈ h, r.retryLimit = q.retryLimit
  executions : ∀ r ∈ h, countSteps entersExecuting h ≤ r.retryLimit + 1
  resolved : ∀ r q rest, r :: q :: rest <:+ h → r.state = .resolved → q.state = .verifying
  terminal : ∀ r q rest, r :: q :: rest <:+ h → q.state.terminal = true → r.state = q.state
  approval : ∀ r q rest, r :: q :: rest <:+ h → q.state ≠ .executing → r.state = .executing →
    (∃ x ∈ q :: rest, x.approvalRequired = true) → q.state = .approved

namespace History

variable {h : List Incident} {r q : Incident} {rest : List Incident}

theorem version_eq (hh : History (r :: rest)) : r.version = 1 + rest.length := by
  generalize hl : r :: rest = l at hh
  induction hh generalizing r rest with
  | nil => simp at hl
  | create x hw =>
      obtain ⟨rfl, rfl⟩ := List.cons.inj hl
      cases hw with
      | create _ hstate hversion hattempts => simp [hversion]
  | next x y past hw _ ih =>
      obtain ⟨rfl, rfl⟩ := List.cons.inj hl
      obtain ⟨hv, -⟩ := hw.cases_some
      have := ih rfl
      simp only [List.length_cons]
      omega

theorem attempts_eq (hh : History (r :: rest)) :
    r.attempts = countSteps isRetry (r :: rest) := by
  generalize hl : r :: rest = l at hh
  induction hh generalizing r rest with
  | nil => simp at hl
  | create x hw =>
      obtain ⟨rfl, rfl⟩ := List.cons.inj hl
      cases hw with
      | create _ hstate hversion hattempts => exact hattempts
  | next x y past hw _ ih =>
      obtain ⟨rfl, rfl⟩ := List.cons.inj hl
      obtain ⟨-, -, -, hcase⟩ := hw.cases_some
      have := ih rfl
      simp only [countSteps]
      rcases hcase with ⟨hy, hr, ha⟩ | ⟨-, ha⟩
      · have hc : isRetry y r = false := by simp [isRetry, hy]
        rw [hc]
        simp only [Bool.false_eq_true, if_false]
        omega
      · have hkind : y.retries r.state = isRetry y r := rfl
        rw [hkind] at ha
        by_cases hc : isRetry y r = true
        · rw [if_pos hc] at ha ⊢
          omega
        · rw [if_neg hc] at ha ⊢
          omega

theorem limit_eq (hh : History (r :: rest)) : ∀ x ∈ r :: rest, x.retryLimit = r.retryLimit := by
  generalize hl : r :: rest = l at hh
  induction hh generalizing r rest with
  | nil => simp at hl
  | create y hw =>
      obtain ⟨rfl, rfl⟩ := List.cons.inj hl
      intro x hx
      rw [List.mem_singleton.mp hx]
  | next y z past hw _ ih =>
      obtain ⟨rfl, rfl⟩ := List.cons.inj hl
      obtain ⟨-, hlim, -⟩ := hw.cases_some
      intro x hx
      rcases List.mem_cons.mp hx with heq | hmem
      · rw [heq]
      · rw [ih rfl x hmem, hlim]

theorem attempts_le (hh : History (r :: rest)) : r.attempts ≤ r.retryLimit := by
  generalize hl : r :: rest = l at hh
  induction hh generalizing r rest with
  | nil => simp at hl
  | create y hw =>
      obtain ⟨rfl, rfl⟩ := List.cons.inj hl
      cases hw with
      | create _ hstate hversion hattempts => omega
  | next y z past hw _ ih =>
      obtain ⟨rfl, rfl⟩ := List.cons.inj hl
      obtain ⟨-, hlim, -, hcase⟩ := hw.cases_some
      have := ih rfl
      rcases hcase with ⟨-, -, ha⟩ | ⟨hadm, ha⟩
      · omega
      · split at ha
        · rename_i hretry
          have := hadm.budget hretry
          omega
        · omega

/-- The incident has been executing since its last retry, as far as its state tells. -/
def started : IncidentState → Nat
  | .executing | .verifying | .resolved | .escalated | .failed | .rolledback => 1
  | _ => 0

/-- Along an edge, an entry into `EXECUTING` is the start of an execution, and only a retry
takes that back. -/
theorem started_edge {q r : Incident} (h : r.state ∈ q.state.transitions) :
    (if entersExecuting q r then 1 else 0) + started q.state ≤
      (if isRetry q r then 1 else 0) + started r.state := by
  unfold entersExecuting isRetry
  generalize q.state = a at h
  generalize r.state = b at h
  revert h
  cases a <;> cases b <;> decide

/-- **The bound on executions**: each beyond the first is paid for by an attempt. -/
theorem executions_le (hh : History (r :: rest)) :
    countSteps entersExecuting (r :: rest) ≤ r.attempts + started r.state := by
  generalize hl : r :: rest = l at hh
  induction hh generalizing r rest with
  | nil => simp at hl
  | create y hw =>
      obtain ⟨rfl, rfl⟩ := List.cons.inj hl
      simp [countSteps]
  | next y z past hw _ ih =>
      obtain ⟨rfl, rfl⟩ := List.cons.inj hl
      obtain ⟨-, -, -, hcase⟩ := hw.cases_some
      have hz := ih rfl
      simp only [countSteps]
      rcases hcase with ⟨hs, hr, ha⟩ | ⟨hadm, ha⟩
      · have hc : entersExecuting z r = false := by simp [entersExecuting, hr]
        rw [hc, hr]
        rw [hs] at hz
        simp only [Bool.false_eq_true, if_false]
        omega
      · have hedge := started_edge hadm.edge
        have hkind : z.retries r.state = isRetry z r := rfl
        rw [hkind] at ha
        by_cases hc : isRetry z r = true
        · rw [if_pos hc] at ha hedge
          omega
        · rw [if_neg hc] at ha hedge
          omega

theorem approvalRequired_mono (hh : History (r :: rest)) {x : Incident} (hx : x ∈ r :: rest)
    (hreq : x.approvalRequired = true) : r.approvalRequired = true := by
  generalize hl : r :: rest = l at hh
  induction hh generalizing r rest with
  | nil => simp at hl
  | create y hw =>
      obtain ⟨rfl, rfl⟩ := List.cons.inj hl
      rw [← List.mem_singleton.mp hx]
      exact hreq
  | next y z past hw _ ih =>
      obtain ⟨rfl, rfl⟩ := List.cons.inj hl
      obtain ⟨-, -, hmono, -⟩ := hw.cases_some
      rcases List.mem_cons.mp hx with heq | hmem
      · rw [← heq]; exact hreq
      · exact hmono (ih hmem rfl)

theorem step (hh : History (r :: q :: rest)) :
    q.state = .planned ∧ r.state = .planned ∨ Admitted q r.state := by
  cases hh with
  | next _ _ _ hw h =>
      obtain ⟨-, -, -, ⟨hq, hr, -⟩ | ⟨hadm, -⟩⟩ := hw.cases_some
      · exact Or.inl ⟨hq, hr⟩
      · exact Or.inr hadm

/-- Everything that is said of a run. -/
theorem wellRun (hh : History h) : WellRun h where
  created := by
    intro r hs
    cases hh.suffix hs with
    | create _ hw =>
        cases hw with
        | create _ hstate hversion hattempts => exact hstate
  version := fun r rest hs => (hh.suffix hs).version_eq
  attempts := fun r rest hs => (hh.suffix hs).attempts_eq
  budget := by
    intro r hr
    obtain ⟨before, after, rfl⟩ := List.append_of_mem hr
    exact (hh.suffix (List.suffix_append before (r :: after))).attempts_le
  limit := by
    intro r hr q hq
    cases h with
    | nil => exact absurd hr List.not_mem_nil
    | cons x rest => rw [hh.limit_eq r hr, hh.limit_eq q hq]
  executions := by
    intro r hr
    cases h with
    | nil => exact absurd hr List.not_mem_nil
    | cons x rest =>
        have h1 := hh.executions_le
        have h2 := hh.attempts_le
        have h3 : started x.state ≤ 1 := by
          unfold started
          split <;> omega
        rw [hh.limit_eq r hr]
        omega
  resolved := by
    intro r q rest hs hr
    rcases (hh.suffix hs).step with ⟨-, hp⟩ | hadm
    · rw [hp] at hr
      simp at hr
    · have hedge := hadm.edge
      rw [hr] at hedge
      cases hq : q.state <;> simp [hq, IncidentState.transitions] at hedge
      rfl
  terminal := by
    intro r q rest hs ht
    rcases (hh.suffix hs).step with ⟨hq, -⟩ | hadm
    · rw [hq] at ht
      simp [IncidentState.terminal] at ht
    · have hedge := hadm.edge
      cases hq : q.state <;>
        simp [hq, IncidentState.transitions, IncidentState.terminal] at hedge ht
  approval := by
    intro r q rest hs _ hr hreq
    obtain ⟨x, hx, hxreq⟩ := hreq
    have hqreq := (hh.suffix hs).tail.approvalRequired_mono hx hxreq
    rcases (hh.suffix hs).step with ⟨-, hp⟩ | hadm
    · rw [hp] at hr
      simp at hr
    · have hedge := hadm.edge
      have hrouted := hadm.routed
      rw [hr] at hedge hrouted
      cases hq : q.state <;> simp [hq, IncidentState.transitions] at hedge
      · have := hrouted hq (by simp)
        rw [hqreq] at this
        simp at this
      · rfl

end History

/-! ### What the callers do to the table -/

/-- One step of process `p`: on each incident, what its transaction may do. -/
def IncidentAct (p : Nat) (s s' : Db) : Prop :=
  ∀ i, Cell.Step IncidentWrite ⟨p, 0⟩ (s.incidents i) (s'.incidents i)

theorem IncidentAct.same {p : Nat} {s s' : Db} (h : s'.incidents = s.incidents) :
    IncidentAct p s s' := by
  intro i
  rw [h]
  exact Cell.Step.same _

theorem IncidentAct.write {p i : Nat} {s : Db} {v : Option Incident}
    (hfree : (s.incidents i).free ⟨p, 0⟩ = true)
    (hw : IncidentWrite ((s.incidents i).visible ⟨p, 0⟩) v) {s' : Db}
    (h : s'.incidents = (s.setIncident i ((s.incidents i).write ⟨p, 0⟩ v)).incidents) :
    IncidentAct p s s' := by
  intro j
  rw [h]
  by_cases hj : j = i
  · subst hj
    simp only [Db.setIncident, Function.update_self]
    exact Cell.Step.write _ v hfree hw
  · simp only [Db.setIncident, Function.update_of_ne hj]
    exact Cell.Step.same _

/-- The rows of every incident form a chain of permitted writes. -/
def Chained (s : Db) : Prop := ∀ i, Linked IncidentWrite (s.incidents i).chain

theorem chained_act {p : Nat} {s s' : Db} (h : Chained s) (hact : IncidentAct p s s') :
    Chained s' :=
  fun i => (hact i).linked (h i)

theorem chained_crash {s : Db} (h : Chained s) (p : Nat) : Chained (s.crash p) := by
  intro i
  have h1 : Linked IncidentWrite ((s.incidents i).rollback ⟨p, 0⟩).chain :=
    (Cell.Step.rollback (s.incidents i)).linked (h i)
  exact (Cell.Step.rollback (W := IncidentWrite) _).linked h1

/-- Any number of callers, each keeping to its transaction. -/
def incidentProtocol : Protocol World IncidentTx Nat Db where
  machine := incidentMachine
  guar := IncidentAct
  inv := Chained
  inv_guar := fun p _ _ hinv hact _ => chained_act hinv hact
  inv_crash := fun p _ hinv => chained_crash hinv p
  inv_env := by
    intro elapsed s s' hinv henv _
    simp only [incidentMachine, Option.some.injEq] at henv
    rw [← henv]
    exact hinv

/-- The transaction of `p` has seen this row. -/
def Saw (p i : Nat) (r : Incident) (s : Db) : Prop := some r ∈ (s.incidents i).view ⟨p, 0⟩

theorem stable_saw {p i : Nat} {r : Incident} : incidentProtocol.Stable p (Saw p i r) := by
  intro s s' _ hsaw hother
  unfold Saw at hsaw ⊢
  have hne : ∀ {q l : Nat}, q ≠ p → (⟨q, l⟩ : TxId) ≠ ⟨p, 0⟩ :=
    fun hq heq => hq (congrArg TxId.pid heq)
  cases hother with
  | proc q hq hact hadm => exact (hact i).mem_view (hne hq) hsaw
  | crash q _ hq =>
      have h1 : some r ∈ ((s.incidents i).rollback ⟨q, 0⟩).view ⟨p, 0⟩ :=
        (Cell.Step.rollback (W := IncidentWrite) (s.incidents i)).mem_view (hne hq) hsaw
      exact (Cell.Step.rollback (W := IncidentWrite) (t := (⟨q, 1⟩ : TxId)) _).mem_view (hne hq) h1
  | env elapsed henv hadm =>
      simp only [incidentProtocol, incidentMachine, Option.some.injEq] at henv
      rw [← henv]
      exact hsaw

section Calls

variable {p : Nat}

/-- Nothing is known, and nothing needs to be. -/
theorem stable_true : incidentProtocol.Stable p (fun _ => True) := stable_const True

/-- The programs that keep to their transaction, whatever they know. -/
def Keeps {α : Type} (p : Nat) (R : Db → Prop) (x : Prog α) : Prop :=
  incidentProtocol.Triple p R x (fun _ _ => True) (fun _ _ => True)

theorem Keeps.pre {α : Type} {R : Db → Prop} {x : Prog α} (h : Keeps p (fun _ => True) x) :
    Keeps p R x :=
  Triple.pre h (fun _ _ _ => trivial)

theorem keeps_bind {α β : Type} {R : Db → Prop} {x : Prog α} {g : α → Prog β} (hx : Keeps p R x)
    (hg : ∀ a, Keeps p (fun _ => True) (g a)) : Keeps p R (x >>= g) :=
  Triple.bind hx hg

theorem keeps_pure {α : Type} {R : Db → Prop} (a : α) : Keeps p R (pure a) :=
  triple_pure a (fun _ _ _ => trivial)

theorem keeps_throw {α : Type} {R : Db → Prop} (e : Err) : Keeps p R (throw e : Prog α) :=
  triple_throw e (fun _ _ _ => trivial)

theorem keeps_tryCatch {α : Type} {R : Db → Prop} {x : Prog α} {g : Err → Prog α}
    (hx : Keeps p R x) (hg : ∀ e, Keeps p (fun _ => True) (g e)) : Keeps p R (tryCatch x g) :=
  Triple.handle hx hg

theorem keeps_select {α : Type} {f : Db → α} : Keeps p (fun _ => True) (select f) :=
  triple_select stable_true (fun _ _ _ => IncidentAct.same rfl) (fun _ _ _ => trivial)
    (fun _ _ _ => trivial)

theorem keeps_uuid4 : Keeps p (fun _ => True) (uuid4 p) :=
  triple_uuid4 stable_true (fun _ _ _ _ => ⟨IncidentAct.same rfl, trivial⟩)

/-- An `UPDATE` keeps to its transaction if every row it sets is a permitted write. -/
theorem keeps_updateIncident {R : Db → Prop} {i : Nat} {set : Int → Incident → Option Incident}
    (hst : incidentProtocol.Stable p R)
    (hset : ∀ s now row row', Chained s → R s → (s.incidents i).visible ⟨p, 0⟩ = some row →
      set now row = some row' → IncidentWrite (some row) (some row')) :
    Keeps p R (updateIncident ⟨p, 0⟩ i set) := by
  refine triple_sql hst (fun _ _ _ => IncidentAct.same rfl) (fun _ _ _ => trivial) ?_
  intro s r s' hinv hR hf _
  simp only at hf
  have htrivial : post (fun _ _ => True) (fun _ _ => True) r s' := by
    cases r <;> exact trivial
  refine ⟨?_, htrivial⟩
  split at hf
  · rename_i row' hrow'
    split at hf
    · rename_i hfree
      simp only [Option.some.injEq, Prod.mk.injEq] at hf
      obtain ⟨-, rfl⟩ := hf
      obtain ⟨row, hrow, hwritten⟩ := Option.bind_eq_some_iff.mp hrow'
      refine IncidentAct.write hfree ?_ rfl
      rw [hrow]
      exact hset s _ row row' hinv hR hrow hwritten
    · simp at hf
  · simp only [Option.some.injEq, Prod.mk.injEq] at hf
    obtain ⟨-, rfl⟩ := hf
    exact IncidentAct.same rfl

/-- A row that nobody else has is inserted as a new incident. -/
theorem keeps_insertIncident {r : Incident} (hw : IncidentWrite none (some r)) :
    Keeps p (fun _ => True) (insertIncident ⟨p, 0⟩ r) := by
  refine triple_sql stable_true (fun _ _ _ => IncidentAct.same rfl) (fun _ _ _ => trivial) ?_
  intro s q s' hinv _ hf _
  simp only at hf
  have htrivial : post (fun _ _ => True) (fun _ _ => True) q s' := by
    cases q <;> exact trivial
  refine ⟨?_, htrivial⟩
  split at hf
  · simp at hf
  · rename_i hwait
    split at hf
    · simp only [Option.some.injEq, Prod.mk.injEq] at hf
      obtain ⟨-, rfl⟩ := hf
      exact IncidentAct.same rfl
    · rename_i hdup
      simp only [Option.some.injEq, Prod.mk.injEq] at hf
      obtain ⟨-, rfl⟩ := hf
      simp only [Bool.or_eq_true, not_or, Bool.not_eq_true, Bool.not_eq_eq_eq_not,
        Option.isSome_eq_false_iff, Option.isNone_iff_eq_none] at hwait hdup
      refine IncidentAct.write (by simpa using hwait.1) ?_ rfl
      rw [hdup.1]
      exact hw

theorem keeps_createIncident (resourceId : Nat) (key : String) (severity : Severity)
    (approvalRequired : Bool) (retryLimit : Int) :
    Keeps p (fun _ => True)
      (createIncident ⟨p, 0⟩ resourceId key severity approvalRequired retryLimit) := by
  unfold createIncident
  refine keeps_bind keeps_uuid4 (fun id => keeps_bind keeps_select (fun now => ?_))
  by_cases hneg : retryLimit < 0
  · simp only [if_pos hneg]
    refine keeps_bind (keeps_throw _) (fun _ => ?_)
    exact keeps_bind (keeps_insertIncident (IncidentWrite.create _ rfl rfl rfl))
      (fun _ => keeps_pure _)
  · simp only [if_neg hneg]
    exact keeps_bind (keeps_insertIncident (IncidentWrite.create _ rfl rfl rfl))
      (fun _ => keeps_pure _)

theorem keeps_getOrCreateIncident (resourceId : Nat) (key : String) (severity : Severity)
    (approvalRequired : Bool) :
    Keeps p (fun _ => True)
      (getOrCreateIncident ⟨p, 0⟩ resourceId key severity approvalRequired) := by
  unfold getOrCreateIncident
  refine keeps_bind keeps_select (fun found => ?_)
  cases found with
  | some incident => exact keeps_pure _
  | none =>
      refine keeps_tryCatch (keeps_bind (keeps_createIncident _ _ _ _ _) (fun _ => keeps_pure _)) ?_
      intro e
      by_cases he : e.exc = .integrityError
      · simp only [if_pos he]
        refine keeps_bind keeps_select (fun again => ?_)
        cases again with
        | some incident => exact keeps_pure _
        | none => exact keeps_throw e
      · simp only [if_neg he]
        exact keeps_throw e

theorem keeps_requireIncidentApproval (i : Nat) (expectedVersion : Int) :
    Keeps p (fun _ => True) (requireIncidentApproval ⟨p, 0⟩ i expectedVersion) := by
  unfold requireIncidentApproval
  refine keeps_bind (keeps_updateIncident stable_true ?_) (fun result => ?_)
  · intro s now row row' _ _ _ hset
    split at hset
    · rename_i hc
      simp only [Option.some.injEq] at hset
      rw [← hset, ← hc.1]
      exact IncidentWrite.approval row now hc.2.1
    · simp at hset
  · cases result with
    | some incident => exact keeps_pure _
    | none => exact keeps_throw _

/-- The row that `transition` writes over is the row that it checked: it has its version. -/
theorem keeps_transition (actor : String) (i : Nat) (expectedVersion : Int)
    (target : IncidentState) :
    Keeps p (fun _ => True) (transition ⟨p, 0⟩ actor i expectedVersion target) := by
  unfold transition getIncident
  have hread : incidentProtocol.Triple p (fun _ => True)
      (select fun db => (db.incidents i).visible ⟨p, 0⟩)
      (fun found s => ∀ r, found = some r → Saw p i r s) (fun _ _ => True) :=
    triple_select stable_true (fun _ _ _ => IncidentAct.same rfl) (fun _ _ _ => trivial)
      (fun s _ _ r hr => Cell.visible_mem hr)
  refine hread.bind (fun found => ?_)
  cases found with
  | none => exact keeps_throw _
  | some incident =>
      have hcheck : incidentProtocol.Triple p (fun s => ∀ r, some incident = some r → Saw p i r s)
          (check (incident.admitsTransition expectedVersion target))
          (fun _ s => Saw p i incident s ∧ (incident.version : Int) = expectedVersion ∧
            Admitted incident target) (fun _ _ => True) :=
        triple_check
          (fun _ s hok _ h => ⟨h incident rfl, admitted_of_ok hok⟩) (fun _ _ _ _ _ => trivial)
      refine hcheck.bind (fun _ => ?_)
      refine keeps_bind (keeps_updateIncident (stable_saw.and (stable_const _)) ?_)
        (fun result => ?_)
      · intro s now row row' hinv hR hrow hset
        obtain ⟨hsaw, hver, hadm⟩ := hR
        split at hset
        · rename_i hc
          simp only [Option.some.injEq] at hset
          have hsame : incident = row := by
            refine Cell.eq_of_seen versionRank (fun _ _ h => versionRank_lt h) (hinv i)
              hsaw hrow ?_
            simp only [versionRank]
            omega
          subst hsame
          rw [← hset, ← hver]
          exact IncidentWrite.move incident now target hadm
        · simp at hset
      · cases result with
        | none => exact keeps_throw _
        | some updated =>
            by_cases htarget : target = .approved
            · simp only [if_pos htarget]
              refine keeps_bind keeps_uuid4 (fun id => keeps_bind ?_ (fun _ => keeps_pure _))
              refine triple_sql stable_true (fun _ _ _ => IncidentAct.same rfl)
                (fun _ _ _ => trivial) ?_
              intro s q s' _ _ hf _
              simp only [Option.some.injEq, Prod.mk.injEq] at hf
              obtain ⟨rfl, rfl⟩ := hf
              exact ⟨IncidentAct.same rfl, trivial⟩
            · simp only [if_neg htarget]
              exact keeps_pure updated

theorem keeps_call (actor : String) (call : IncidentCall) :
    Keeps p (fun _ => True) (call.prog ⟨p, 0⟩ actor) := by
  cases call with
  | create resourceId key severity approvalRequired retryLimit =>
      exact keeps_createIncident resourceId key severity approvalRequired retryLimit
  | getOrCreate resourceId key severity approvalRequired =>
      exact keeps_bind (keeps_getOrCreateIncident resourceId key severity approvalRequired)
        (fun _ => keeps_pure _)
  | requireApproval incidentId expectedVersion =>
      exact keeps_requireIncidentApproval incidentId expectedVersion
  | transition incidentId expectedVersion target =>
      exact keeps_transition actor incidentId expectedVersion target

theorem keeps_runCalls (actor : String) (calls : List (IncidentCall × Bool)) :
    Keeps p (fun _ => True) (runCalls ⟨p, 0⟩ actor calls) := by
  induction calls with
  | nil => exact keeps_pure ()
  | cons head rest ih =>
      obtain ⟨call, caught⟩ := head
      unfold runCalls
      refine keeps_bind (keeps_tryCatch (keeps_bind (keeps_call actor call)
        (fun _ => keeps_pure ())) (fun e => ?_)) (fun _ => ih)
      cases caught with
      | true => exact keeps_pure ()
      | false => exact keeps_throw e

theorem keeps_unitOfWork {α : Type} {actor : String} {body : Prog α}
    (hbody : Keeps p (fun _ => True) body) :
    Keeps p (fun _ => True) (unitOfWork ⟨p, 0⟩ actor body) := by
  have hend : ∀ s : Db, IncidentAct p s (s.rollback ⟨p, 0⟩) :=
    fun s i => Cell.Step.rollback (s.incidents i)
  refine triple_unitOfWork (B := fun _ => True) (F := fun _ => True) (G := fun _ => True)
    (M := fun _ _ => True) ?_ hbody (fun a => ?_) ?_ (fun _ _ _ => trivial)
  · exact triple_beginTx stable_true (fun _ _ _ => IncidentAct.same rfl) (fun _ _ _ => trivial)
      (fun _ _ _ _ => ⟨IncidentAct.same rfl, trivial⟩)
  · exact triple_commitTx stable_true (fun s _ _ _ => ⟨hend s, trivial⟩)
      (fun s _ _ _ => ⟨fun i => Cell.Step.commit (s.incidents i), trivial⟩)
  · exact triple_rollbackTx stable_true (fun s _ _ _ => ⟨hend s, trivial⟩)

end Calls

theorem incidentProtocol_verified : incidentProtocol.Verified := by
  intro p tx s hinv _
  have htx : Keeps p (fun _ => True) (tx.prog p) := by
    refine keeps_unitOfWork (keeps_bind (keeps_runCalls tx.actor tx.calls) (fun _ => ?_))
    cases tx.raises with
    | some e => exact keeps_throw e
    | none => exact keeps_pure ()
  exact triple_ignore htx hinv trivial

/-! ### A rejected call -/

/-- None of the steps changes anything. -/
def Unchanged (steps : List (Db × Db)) : Prop := ∀ st ∈ steps, st.2 = st.1

section Rejected

variable {t : TxId} {steps : List (Db × Db)} {e : Err}

/-- `create_incident` is refused by the database only. -/
theorem createIncident_not_rejected {resourceId : Nat} {key : String} {severity : Severity}
    {approvalRequired : Bool} {retryLimit : Int}
    (h : (createIncident t resourceId key severity approvalRequired retryLimit).Took steps
      (.error e)) : e.isRejection = false := by
  unfold createIncident at h
  rcases took_bind h with ⟨id, l, l', -, -, h⟩ | ⟨e', hid, -⟩
  swap
  · obtain ⟨n, hn⟩ := took_uuid4 hid
    simp at hn
  rcases took_bind h with ⟨now, l, l', -, -, h⟩ | ⟨e', hnow, heq⟩
  swap
  · obtain ⟨s, -, hr | hr⟩ := took_select hnow
    · simp only [Except.error.injEq] at heq hr
      rw [heq, hr]
      rfl
    · simp at hr
  by_cases hneg : retryLimit < 0
  · simp only [if_pos hneg] at h
    rcases took_bind h with ⟨u, l, l', -, hthrow, -⟩ | ⟨e', hthrow, heq⟩
    · obtain ⟨-, hbad⟩ := took_throw.mp hthrow
      simp at hbad
    · obtain ⟨-, hr⟩ := took_throw.mp hthrow
      simp only [Except.error.injEq] at heq hr
      rw [heq, hr]
      rfl
  · simp only [if_neg hneg] at h
    rcases took_bind h with ⟨u, l, l', -, -, h⟩ | ⟨e', hins, heq⟩
    · obtain ⟨-, hbad⟩ := took_pure.mp h
      simp at hbad
    · simp only [Except.error.injEq] at heq
      subst heq
      obtain ⟨s, s', -, ⟨hr, -⟩ | hf⟩ := took_sql hins
      · simp only [Except.error.injEq] at hr
        rw [hr]
        rfl
      · simp only at hf
        split at hf
        · simp at hf
        · split at hf
          · simp only [Option.some.injEq, Prod.mk.injEq, Except.error.injEq] at hf
            rw [← hf.1]
            rfl
          · simp at hf

/-- So is `get_or_create_incident`. -/
theorem getOrCreateIncident_not_rejected {resourceId : Nat} {key : String} {severity : Severity}
    {approvalRequired : Bool}
    (h : (getOrCreateIncident t resourceId key severity approvalRequired).Took steps
      (.error e)) : e.isRejection = false := by
  have hselect : ∀ {l : List (Db × Db)} {e' : Err},
      (getActiveIncidentByCorrelationKey t key).Took l (.error e') → e'.isRejection = false := by
    intro l e' hs
    obtain ⟨s, -, hr | hr⟩ := took_select hs
    · simp only [Except.error.injEq] at hr
      rw [hr]
      rfl
    · simp at hr
  unfold getOrCreateIncident at h
  rcases took_bind h with ⟨found, l, l', -, -, h⟩ | ⟨e', hsel, heq⟩
  swap
  · simp only [Except.error.injEq] at heq
    rw [heq]
    exact hselect hsel
  cases found with
  | some incident =>
      obtain ⟨-, hbad⟩ := took_pure.mp h
      simp at hbad
  | none =>
      rcases took_tryCatch h with ⟨a, -, hbad⟩ | ⟨e', l₁, l₂, -, hx, h⟩
      · simp at hbad
      have he' : e'.isRejection = false := by
        rcases took_bind hx with ⟨a, l₃, l₄, -, -, hp⟩ | ⟨e'', hc, heq⟩
        · obtain ⟨-, hbad⟩ := took_pure.mp hp
          simp at hbad
        · simp only [Except.error.injEq] at heq
          rw [heq]
          exact createIncident_not_rejected hc
      by_cases hint : e'.exc = .integrityError
      · simp only [if_pos hint] at h
        rcases took_bind h with ⟨again, l₃, l₄, -, -, h⟩ | ⟨e'', hsel, heq⟩
        · cases again with
          | some incident =>
              obtain ⟨-, hbad⟩ := took_pure.mp h
              simp at hbad
          | none =>
              obtain ⟨-, hr⟩ := took_throw.mp h
              simp only [Except.error.injEq] at hr
              rw [hr]
              exact he'
        · simp only [Except.error.injEq] at heq
          rw [heq]
          exact hselect hsel
      · simp only [if_neg hint] at h
        obtain ⟨-, hr⟩ := took_throw.mp h
        simp only [Except.error.injEq] at hr
        rw [hr]
        exact he'

/-- An `UPDATE` that raises was refused by the database; one that picks no row changes
nothing. -/
theorem updateIncident_took {i : Nat} {set : Int → Incident → Option Incident}
    {r : Except Err (Option Incident)} (h : (updateIncident t i set).Took steps r) :
    (∀ e, r = .error e → e.isRejection = false) ∧ (r = .ok none → Unchanged steps) := by
  obtain ⟨s, s', rfl, ⟨rfl, -⟩ | hf⟩ := took_sql h
  · refine ⟨?_, fun hbad => by simp at hbad⟩
    intro e he
    simp only [Except.error.injEq] at he
    rw [← he]
    rfl
  · simp only at hf
    split at hf
    · split at hf
      · simp only [Option.some.injEq, Prod.mk.injEq] at hf
        rw [← hf.1]
        exact ⟨fun e he => by simp at he, fun hbad => by simp at hbad⟩
      · simp at hf
    · simp only [Option.some.injEq, Prod.mk.injEq] at hf
      obtain ⟨rfl, rfl⟩ := hf
      refine ⟨fun e he => by simp at he, ?_⟩
      intro _ st hst
      rw [List.mem_singleton.mp hst]

theorem requireIncidentApproval_rejected {i : Nat} {expectedVersion : Int}
    (h : (requireIncidentApproval t i expectedVersion).Took steps (.error e))
    (hrej : e.isRejection = true) : Unchanged steps := by
  unfold requireIncidentApproval at h
  rcases took_bind h with ⟨result, l, l', rfl, hup, h⟩ | ⟨e', hup, heq⟩
  · cases result with
    | some incident =>
        obtain ⟨-, hbad⟩ := took_pure.mp h
        simp at hbad
    | none =>
        obtain ⟨rfl, -⟩ := took_throw.mp h
        rw [List.append_nil]
        exact (updateIncident_took hup).2 rfl
  · simp only [Except.error.injEq] at heq
    have hnot := (updateIncident_took hup).1 e' rfl
    rw [← heq, hrej] at hnot
    simp at hnot

theorem transition_rejected {actor : String} {i : Nat} {expectedVersion : Int}
    {target : IncidentState}
    (h : (transition t actor i expectedVersion target).Took steps (.error e))
    (hrej : e.isRejection = true) : Unchanged steps := by
  -- the read changes nothing, whatever follows
  have hread : ∀ {l : List (Db × Db)} {r : Except Err (Option Incident)},
      (getIncident t i).Took l r → Unchanged l ∧ ∀ e', r = .error e' → e'.isRejection = false := by
    intro l r hs
    obtain ⟨s, rfl, hr⟩ := took_select hs
    refine ⟨fun st hst => by rw [List.mem_singleton.mp hst], ?_⟩
    intro e' he'
    rcases hr with hr | hr
    · rw [hr] at he'
      simp only [Except.error.injEq] at he'
      rw [← he']
      rfl
    · rw [hr] at he'
      simp at he'
  have happend : ∀ {l l' : List (Db × Db)}, Unchanged l → Unchanged l' → Unchanged (l ++ l') := by
    intro l l' hl hl' st hst
    rcases List.mem_append.mp hst with hm | hm
    · exact hl st hm
    · exact hl' st hm
  have hcontra : ∀ {e' : Err}, e = e' → e'.isRejection = false → False := by
    intro e' heq hnot
    rw [← heq, hrej] at hnot
    simp at hnot
  unfold transition at h
  rcases took_bind h with ⟨found, l, l', rfl, hsel, h⟩ | ⟨e', hsel, heq⟩
  swap
  · simp only [Except.error.injEq] at heq
    exact (hcontra heq ((hread hsel).2 e' rfl)).elim
  refine happend (hread hsel).1 ?_
  cases found with
  | none =>
      obtain ⟨rfl, -⟩ := took_throw.mp h
      exact fun st hst => absurd hst List.not_mem_nil
  | some incident =>
      rcases took_bind h with ⟨u, l₁, l₂, rfl, hcheck, h₁⟩ | ⟨e', hcheck, heq⟩
      swap
      · obtain ⟨rfl, -⟩ := took_check hcheck
        exact fun st hst => absurd hst List.not_mem_nil
      obtain ⟨rfl, -⟩ := took_check hcheck
      rcases took_bind h₁ with ⟨result, l₃, l₄, rfl, hup, h₂⟩ | ⟨e', hup, heq⟩
      swap
      · simp only [Except.error.injEq] at heq
        exact (hcontra heq ((updateIncident_took hup).1 e' rfl)).elim
      cases result with
      | none =>
          obtain ⟨rfl, -⟩ := took_throw.mp h₂
          rw [List.nil_append, List.append_nil]
          exact (updateIncident_took hup).2 rfl
      | some updated =>
          -- the row is written: from here on only the database can refuse
          by_cases htarget : target = .approved
          · simp only [if_pos htarget] at h₂
            rcases took_bind h₂ with ⟨id, l₅, l₆, -, -, h⟩ | ⟨e', hid, -⟩
            · rcases took_bind h with ⟨v, l₇, l₈, -, -, h⟩ | ⟨e', hins, heq⟩
              · obtain ⟨-, hbad⟩ := took_pure.mp h
                simp at hbad
              · simp only [Except.error.injEq] at heq
                obtain ⟨s, s', -, ⟨hr, -⟩ | hf⟩ := took_sql hins
                · simp only [Except.error.injEq] at hr
                  exact (hcontra (heq.trans hr) rfl).elim
                · simp at hf
            · obtain ⟨n, hn⟩ := took_uuid4 hid
              simp at hn
          · simp only [if_neg htarget] at h₂
            obtain ⟨-, hbad⟩ := took_pure.mp h₂
            simp at hbad

theorem call_rejected {actor : String} {call : IncidentCall}
    (h : (call.prog t actor).Took steps (.error e)) (hrej : e.isRejection = true) :
    Unchanged steps := by
  have hcontra : e.isRejection = false → Unchanged steps := by
    intro hnot
    rw [hrej] at hnot
    simp at hnot
  cases call with
  | create resourceId key severity approvalRequired retryLimit =>
      exact hcontra (createIncident_not_rejected h)
  | getOrCreate resourceId key severity approvalRequired =>
      rcases took_bind h with ⟨a, l, l', -, -, hp⟩ | ⟨e', hc, heq⟩
      · obtain ⟨-, hbad⟩ := took_pure.mp hp
        simp at hbad
      · simp only [Except.error.injEq] at heq
        rw [← heq] at hc
        exact hcontra (getOrCreateIncident_not_rejected hc)
  | requireApproval incidentId expectedVersion =>
      exact requireIncidentApproval_rejected h hrej
  | transition incidentId expectedVersion target =>
      exact transition_rejected h hrej

end Rejected

/-- **The run invariant of incidents**: whatever the callers and their interleaving, the
committed history of every incident is a run, and a call that is rejected takes no part in
it. -/
theorem incident_wellRun (db₀ : Db) (h₀ : ∀ i, db₀.incidents i = Cell.empty)
    (c : Config World Db) (hr : Reaches incidentMachine (Config.idle db₀) c) :
    (∀ i, (c.state.incidents i).versions = (c.state.history i).map some ∧
      WellRun (c.state.history i)) ∧
    ∀ (t : TxId) (actor : String) (call : IncidentCall) (steps : List (Db × Db)) (e : Err),
      (call.prog t actor).Took steps (.error e) → e.isRejection = true → Unchanged steps := by
  refine ⟨?_, fun t actor call steps e h hrej => call_rejected h hrej⟩
  have hinit : Chained db₀ := by
    intro i
    rw [h₀ i]
    exact trivial
  have hinv := inv_of_reaches incidentProtocol_verified hinit hr
  intro i
  obtain ⟨heq, hhist⟩ := history_of_linked ((hinv i).suffix (Cell.versions_suffix_chain _))
  exact ⟨heq, hhist.wellRun⟩

/-- An incident is created and triaged by one caller while another, who knows an older version,
is rejected. -/
theorem incident_wellRun_triaged : ∃ c, Reaches incidentMachine (Config.idle (Db.init 0)) c ∧
    (c.state.history 0).map (fun r => (r.state, r.version)) =
      [(.triaged, 2), (.detected, 1)] ∧
    WellRun (c.state.history 0) := by
  obtain ⟨c, hr, htest⟩ := Machine.reaches_of_exec incidentMachine (Config.idle (Db.init 0))
    ([.start 0 ⟨"worker:a", [(.create 7 "demo" .high false 2, false)], none⟩] ++
      List.replicate 6 (.run 0 {}) ++
      [.start 0 ⟨"worker:a", [(.transition 0 1 .triaged, false)], none⟩,
        .start 1 ⟨"worker:b", [(.transition 0 1 .triaged, true)], none⟩,
        .run 1 {}, .run 1 {}] ++
      List.replicate 4 (.run 0 {}) ++ List.replicate 2 (.run 1 {}))
    (fun db => decide ((db.history 0).map (fun r => (r.state, r.version)) =
      [(.triaged, 2), (.detected, 1)])) (by decide)
  refine ⟨c, hr, by simpa using htest, ?_⟩
  exact ((incident_wellRun (Db.init 0) (fun _ => rfl) c hr).1 0).2

end SelfHealing
