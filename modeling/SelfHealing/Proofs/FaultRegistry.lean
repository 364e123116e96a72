/-
The dictionaries of the fault injector agree.

Nothing locks them.  An inject that returns writes its entries over whatever is there by then, a
clear that returns takes out whatever is there by then, and a clear that raises has cancelled the
timer already.  So the dictionaries stay in step in the runs that have none of this, and
`Orderly` says which runs these are: an inject returns only where its scenario is not active and
no request waits to clear it, and no fault raises from `clear` while its scenario is active.

`RegistryInv` is what holds at every moment of such a run, with requests and timers half done.
What an active fault is owed is a timer that has not been cancelled or a request that is clearing
it; both at once are excluded, as the request has taken the timer out of the dictionary.
-/
import SelfHealing.FaultInjector

namespace SelfHealing

open Function (update update_self)

/-! ### What is said of a state -/

namespace FaultInjector

variable (s : FaultInjector)

/-- A timer that is still going to clear its scenario. -/
def PendingTimer (scenarioId : String) (timer : Nat) : Prop :=
  ∃ job, s.jobs timer = some job ∧ job.scenarioId = scenarioId ∧ job.cancelled = false

end FaultInjector

/-- The timers have cleared the faults of their own injections only. -/
structure ClearsOwn (log : List FaultEvent) : Prop where
  called : ∀ timer fault, .clearCalled timer fault ∈ log → fault = timer
  removed : ∀ timer fault, .removed timer fault ∈ log → fault = timer

/-- The move does not write over, or leave behind, an entry of another request. -/
def FaultMove.orderly (s : FaultInjector) : FaultMove → Prop
  | .injectReturned request raised =>
      ∀ i, s.injecting request = some i → raised = false →
        s.activeFaults i.scenarioId = none ∧ ∀ other, s.clearing other ≠ some i.scenarioId
  | .clearReturned request raised =>
      ∀ scenarioId, s.clearing request = some scenarioId → raised = true →
        s.activeFaults scenarioId = none
  | .jobResumed timer raised =>
      ∀ job, s.jobs timer = some job → job.cancelled = false → job.clearing = true →
        raised = true → s.activeFaults job.scenarioId = none
  | _ => True

/-- Every move of the run is orderly in the state it finds. -/
def Orderly : FaultInjector → List FaultMove → Prop
  | _, [] => True
  | s, move :: rest => move.orderly s ∧ ∀ s', s.step move = some s' → Orderly s' rest

/-! ### The invariant

Each clause is about one dictionary or one table of waiting coroutines, so that a step touches few
of them.
-/

structure RegistryInv (s : FaultInjector) : Prop where
  metadata : ∀ x, s.faultMetadata x = s.activeFaults x
  /-- What a job that was not cancelled is going to clear is its own injection. -/
  job : ∀ n job, s.jobs n = some job → job.cancelled = false →
    s.activeFaults job.scenarioId = some n ∧ s.faultTimers job.scenarioId = some n
  active : ∀ x n, s.activeFaults x = some n →
    (∃ job, s.jobs n = some job ∧ job.scenarioId = x ∧ job.cancelled = false) ∨
      ∃ request, s.clearing request = some x
  clearing : ∀ request x, s.clearing request = some x → s.faultTimers x = none
  timer : ∀ x n job, s.faultTimers x = some n → s.jobs n = some job → job.scenarioId = x
  record : ∀ n job, s.jobs n = some job → ∃ r, s.records n = some r ∧ r.runId = job.runId
  /-- A request that is still injecting has no job yet, nor has one that is to come. -/
  unborn : ∀ n, s.injecting n ≠ none ∨ s.requests ≤ n →
    s.jobs n = none ∧ ∀ x, s.faultTimers x ≠ some n
  unused : ∀ n, s.requests ≤ n → s.injecting n = none ∧ s.clearing n = none
  own : ClearsOwn s.log

namespace RegistryInv

variable {s s' : FaultInjector}

theorem startup : RegistryInv {} where
  metadata x := rfl
  job n job h := by cases h
  active x n h := by cases h
  clearing request x h := by cases h
  timer x n job h := by cases h
  record n job h := by cases h
  unborn n h := ⟨rfl, fun x h => by cases h⟩
  unused n h := ⟨rfl, rfl⟩
  own := by
    refine ⟨?_, ?_⟩
    · intro timer fault h
      cases h
    · intro timer fault h
      cases h

theorem answer (h : RegistryInv s) (request : Nat) (a : FaultAnswer) :
    RegistryInv (s.answer request a) := by
  refine { h with own := ⟨?_, ?_⟩ }
  · intro timer fault hmem
    rcases List.mem_cons.mp hmem with heq | hmem
    · cases heq
    · exact h.own.called timer fault hmem
  · intro timer fault hmem
    rcases List.mem_cons.mp hmem with heq | hmem
    · cases heq
    · exact h.own.removed timer fault hmem

theorem arrive (h : RegistryInv s) : RegistryInv { s with requests := s.requests + 1 } := by
  refine { h with unborn := ?_, unused := ?_ }
  · intro n hn
    refine h.unborn n (hn.imp_right ?_)
    intro hle
    exact Nat.le_of_succ_le hle
  · intro n hn
    exact h.unused n (Nat.le_of_succ_le hn)

theorem tick (h : RegistryInv s) : RegistryInv { s with clock := s.clock + 1 } :=
  { h with }

/-! ### Injecting

Between the two halves of an inject the scenario may have become active; what is orderly is said of
the second half.
-/

theorem inject (h : RegistryInv s) (scenarioId : String) (ttlSeconds : Int) (hex : String) :
    RegistryInv (s.injectFault scenarioId ttlSeconds hex) := by
  unfold FaultInjector.injectFault
  simp only
  split
  · exact h.arrive.answer _ _
  split
  · exact h.arrive.answer _ _
  refine { h.arrive with unborn := ?_, unused := ?_ }
  · intro n hn
    rcases hn with hn | hn
    · by_cases hreq : n = s.requests
      · exact h.unborn n (Or.inr (Nat.le_of_eq hreq.symm))
      · simp only [update, hreq, dite_false] at hn
        exact h.unborn n (Or.inl hn)
    · exact h.unborn n (Or.inr (Nat.le_of_succ_le hn))
  · intro n hn
    have hne : n ≠ s.requests := Nat.ne_of_gt hn
    simp only [update, hne, dite_false]
    exact h.unused n (Nat.le_of_succ_le hn)

/-- The request has been answered, or is about to be. -/
theorem injectEnded (h : RegistryInv s) (request : Nat) :
    RegistryInv { s with injecting := update s.injecting request none } := by
  have hsub : ∀ n, update s.injecting request none n ≠ none → s.injecting n ≠ none := by
    intro n hn
    by_cases hreq : n = request
    · simp [update, hreq] at hn
    · simpa [update, hreq] using hn
  refine { h with unborn := ?_, unused := ?_ }
  · intro n hn
    exact h.unborn n (hn.imp_left (hsub n))
  · intro n hn
    refine ⟨?_, (h.unused n hn).2⟩
    by_contra hne
    exact hsub n hne (h.unused n hn).1

/-- The inject writes its entries where the scenario has none. -/
theorem enter (h : RegistryInv s) {request : Nat} {i : Injecting}
    (hjobs : s.jobs request = none) (htimers : ∀ x, s.faultTimers x ≠ some request)
    (hended : s.injecting request = none) (hlt : request < s.requests)
    (hactive : s.activeFaults i.scenarioId = none)
    (hclearing : ∀ other, s.clearing other ≠ some i.scenarioId) :
    RegistryInv (s.enter request i) := by
  refine ⟨?_, ?_, ?_, ?_, ?_, ?_, ?_, ?_, h.own⟩
  · intro x
    by_cases hx : x = i.scenarioId
    · simp [FaultInjector.enter, update, hx]
    · simp [FaultInjector.enter, update, hx, h.metadata x]
  · intro n job hjob hc
    by_cases hn : n = request
    · subst hn
      simp only [FaultInjector.enter, update_self, Option.some.injEq] at hjob
      subst hjob
      simp [FaultInjector.enter]
    · simp only [FaultInjector.enter, update, hn, dite_false] at hjob
      obtain ⟨hact, htim⟩ := h.job n job hjob hc
      have hx : job.scenarioId ≠ i.scenarioId := by
        intro heq
        rw [heq, hactive] at hact
        cases hact
      simp [FaultInjector.enter, update, hx, hact, htim]
  · intro x n hact
    by_cases hx : x = i.scenarioId
    · subst hx
      simp only [FaultInjector.enter, update_self, Option.some.injEq] at hact
      subst hact
      refine Or.inl ⟨_, update_self _ _ _, rfl, rfl⟩
    · simp only [FaultInjector.enter, update, hx, dite_false] at hact
      refine (h.active x n hact).imp_left ?_
      rintro ⟨job, hjob, hxj, hc⟩
      have hn : n ≠ request := by
        intro heq
        rw [heq, hjobs] at hjob
        cases hjob
      exact ⟨job, by simp [FaultInjector.enter, update, hn, hjob], hxj, hc⟩
  · intro other x hother
    have hx : x ≠ i.scenarioId := by
      intro heq
      exact hclearing other (heq ▸ hother)
    simp only [FaultInjector.enter, update, hx, dite_false]
    exact h.clearing other x hother
  · intro x n job htim hjob
    by_cases hx : x = i.scenarioId
    · subst hx
      simp only [FaultInjector.enter, update_self, Option.some.injEq] at htim
      subst htim
      simp only [FaultInjector.enter, update_self, Option.some.injEq] at hjob
      subst hjob
      rfl
    · simp only [FaultInjector.enter, update, hx, dite_false] at htim
      have hn : n ≠ request := by
        intro heq
        exact htimers x (heq ▸ htim)
      simp only [FaultInjector.enter, update, hn, dite_false] at hjob
      exact h.timer x n job htim hjob
  · intro n job hjob
    by_cases hn : n = request
    · subst hn
      simp only [FaultInjector.enter, update_self, Option.some.injEq] at hjob
      subst hjob
      exact ⟨_, update_self _ _ _, rfl⟩
    · simp only [FaultInjector.enter, update, hn, dite_false] at hjob
      obtain ⟨r, hr, hrun⟩ := h.record n job hjob
      exact ⟨r, by simp [FaultInjector.enter, update, hn, hr], hrun⟩
  · intro n hn
    have hne : n ≠ request := by
      rintro rfl
      rcases hn with hn | hn
      · exact hn hended
      · exact Nat.not_le_of_lt hlt hn
    obtain ⟨hj, ht⟩ := h.unborn n hn
    refine ⟨by simp [FaultInjector.enter, update, hne, hj], ?_⟩
    intro x
    by_cases hx : x = i.scenarioId
    · simpa [FaultInjector.enter, update, hx] using hne.symm
    · simpa [FaultInjector.enter, update, hx] using ht x
  · exact h.unused

theorem injectReturned (h : RegistryInv s) {request : Nat} {raised : Bool}
    (hstep : s.injectReturned request raised = some s')
    (hord : FaultMove.orderly s (.injectReturned request raised)) : RegistryInv s' := by
  unfold FaultInjector.injectReturned at hstep
  cases hi : s.injecting request with
  | none =>
      rw [hi] at hstep
      cases hstep
  | some i =>
      rw [hi] at hstep
      obtain ⟨hjobs, htimers⟩ := h.unborn request (Or.inl (by rw [hi]; exact Option.some_ne_none i))
      have hlt : request < s.requests := by
        by_contra hge
        rw [(h.unused request (Nat.le_of_not_lt hge)).1] at hi
        cases hi
      cases raised with
      | true =>
          cases hstep
          exact (h.injectEnded request).answer _ _
      | false =>
          obtain ⟨hactive, hclearing⟩ := hord i hi rfl
          cases hstep
          exact ((h.injectEnded request).enter hjobs htimers (update_self _ _ _) hlt hactive
            hclearing).answer _ _

/-! ### Clearing

A clear cancels the timer before it waits for the fault.  The job of that timer is still there when
the fault is taken out, but it is cancelled, and a cancelled job does nothing more: so the
invariant asks nothing of it, and what is left of the scenario can go.
-/

theorem cancelTimer_faultTimers (scenarioId : String) :
    (s.cancelTimer scenarioId).faultTimers = update s.faultTimers scenarioId none := by
  unfold FaultInjector.cancelTimer
  cases ht : s.faultTimers scenarioId with
  | none =>
      show s.faultTimers = _
      rw [← ht, Function.update_eq_self]
  | some timer => rfl

/-- The jobs but the one that is the scenario's timer are as they were. -/
theorem cancelTimer_jobs_ne {scenarioId : String} {n : Nat}
    (hn : s.faultTimers scenarioId ≠ some n) : (s.cancelTimer scenarioId).jobs n = s.jobs n := by
  unfold FaultInjector.cancelTimer
  cases ht : s.faultTimers scenarioId with
  | none => rfl
  | some timer =>
      have hne : n ≠ timer := by
        rintro rfl
        exact hn ht
      show update s.jobs timer _ n = s.jobs n
      exact Function.update_of_ne hne _ _

/-- And that one is cancelled. -/
theorem cancelTimer_jobs_self {scenarioId : String} {n : Nat}
    (hn : s.faultTimers scenarioId = some n) :
    (s.cancelTimer scenarioId).jobs n =
      (s.jobs n).map fun job => { job with cancelled := true } := by
  unfold FaultInjector.cancelTimer
  rw [hn]
  exact update_self _ _ _

theorem cancelTimer_job {scenarioId : String} {n : Nat} {job : AutoClearJob}
    (hjob : (s.cancelTimer scenarioId).jobs n = some job) :
    ∃ old, s.jobs n = some old ∧ job.runId = old.runId ∧ job.scenarioId = old.scenarioId ∧
      (job.cancelled = false → old.cancelled = false ∧ s.faultTimers scenarioId ≠ some n) := by
  by_cases hn : s.faultTimers scenarioId = some n
  · rw [cancelTimer_jobs_self hn] at hjob
    obtain ⟨old, hold, rfl⟩ := Option.map_eq_some_iff.mp hjob
    refine ⟨old, hold, rfl, rfl, ?_⟩
    intro hc
    cases hc
  · rw [cancelTimer_jobs_ne hn] at hjob
    exact ⟨job, hjob, rfl, rfl, fun hc => ⟨hc, hn⟩⟩

/-- What a cancellation does not touch. -/
theorem cancelTimer_frame (scenarioId : String) :
    (s.cancelTimer scenarioId).activeFaults = s.activeFaults ∧
      (s.cancelTimer scenarioId).faultMetadata = s.faultMetadata ∧
      (s.cancelTimer scenarioId).records = s.records ∧
      (s.cancelTimer scenarioId).injecting = s.injecting ∧
      (s.cancelTimer scenarioId).clearing = s.clearing ∧
      (s.cancelTimer scenarioId).requests = s.requests ∧
      (s.cancelTimer scenarioId).log = s.log := by
  unfold FaultInjector.cancelTimer
  split
  · exact ⟨rfl, rfl, rfl, rfl, rfl, rfl, rfl⟩
  · exact ⟨rfl, rfl, rfl, rfl, rfl, rfl, rfl⟩

/-- A request that waits to clear a scenario has left it without a timer. -/
theorem cancel (h : RegistryInv s) {request : Nat} (scenarioId : String)
    (hfree : s.clearing request = none) (hlt : request < s.requests) :
    RegistryInv { s.cancelTimer scenarioId with
      clearing := update (s.cancelTimer scenarioId).clearing request (some scenarioId) } := by
  obtain ⟨hact, hmeta, hrec, hinj, hclr, hreq, hlog⟩ := cancelTimer_frame (s := s) scenarioId
  have htim := cancelTimer_faultTimers (s := s) scenarioId
  refine ⟨?_, ?_, ?_, ?_, ?_, ?_, ?_, ?_, ?_⟩
  · intro x
    show (s.cancelTimer scenarioId).faultMetadata x = (s.cancelTimer scenarioId).activeFaults x
    rw [hmeta, hact]
    exact h.metadata x
  · intro n job hjob hc
    obtain ⟨old, hold, -, hscn, hlive⟩ := cancelTimer_job hjob
    obtain ⟨hoc, hne⟩ := hlive hc
    obtain ⟨ha, ht⟩ := h.job n old hold hoc
    have hx : old.scenarioId ≠ scenarioId := by
      intro heq
      exact hne (heq ▸ ht)
    show (s.cancelTimer scenarioId).activeFaults _ = _ ∧
      (s.cancelTimer scenarioId).faultTimers _ = _
    rw [hact, htim, hscn, Function.update_of_ne hx]
    exact ⟨ha, ht⟩
  · intro x n ha
    replace ha : (s.cancelTimer scenarioId).activeFaults x = some n := ha
    rw [hact] at ha
    by_cases hx : x = scenarioId
    · exact Or.inr ⟨request, by rw [hx]; exact update_self _ _ _⟩
    · rcases h.active x n ha with ⟨job, hjob, hxj, hc⟩ | ⟨other, hother⟩
      · have hne : s.faultTimers scenarioId ≠ some n := by
          intro ht
          exact hx (hxj ▸ h.timer scenarioId n job ht hjob)
        refine Or.inl ⟨job, ?_, hxj, hc⟩
        show (s.cancelTimer scenarioId).jobs n = some job
        rw [cancelTimer_jobs_ne hne, hjob]
      · refine Or.inr ⟨other, ?_⟩
        have hne : other ≠ request := by
          rintro rfl
          rw [hfree] at hother
          cases hother
        show update (s.cancelTimer scenarioId).clearing request _ other = some x
        rw [Function.update_of_ne hne, hclr, hother]
  · intro other x hother
    replace hother : update (s.cancelTimer scenarioId).clearing request (some scenarioId) other =
      some x := hother
    show (s.cancelTimer scenarioId).faultTimers x = none
    rw [htim]
    by_cases hx : x = scenarioId
    · rw [hx]
      exact update_self _ _ _
    · have hne : other ≠ request := by
        rintro rfl
        rw [update_self] at hother
        exact hx (Option.some.inj hother).symm
      rw [Function.update_of_ne hne, hclr] at hother
      rw [Function.update_of_ne hx]
      exact h.clearing other x hother
  · intro x n job ht hjob
    replace ht : (s.cancelTimer scenarioId).faultTimers x = some n := ht
    rw [htim] at ht
    have hx : x ≠ scenarioId := by
      rintro rfl
      rw [update_self] at ht
      cases ht
    rw [Function.update_of_ne hx] at ht
    obtain ⟨old, hold, -, hscn, -⟩ := cancelTimer_job hjob
    rw [hscn]
    exact h.timer x n old ht hold
  · intro n job hjob
    obtain ⟨old, hold, hrun, -, -⟩ := cancelTimer_job hjob
    show ∃ r, (s.cancelTimer scenarioId).records n = some r ∧ _
    rw [hrec, hrun]
    exact h.record n old hold
  · intro n hn
    replace hn : (s.cancelTimer scenarioId).injecting n ≠ none ∨
      (s.cancelTimer scenarioId).requests ≤ n := hn
    rw [hinj, hreq] at hn
    obtain ⟨hj, ht⟩ := h.unborn n hn
    show (s.cancelTimer scenarioId).jobs n = none ∧
      ∀ x, (s.cancelTimer scenarioId).faultTimers x ≠ some n
    rw [cancelTimer_jobs_ne (ht scenarioId), htim]
    refine ⟨hj, ?_⟩
    intro x
    by_cases hx : x = scenarioId
    · rw [hx, update_self]
      exact Option.some_ne_none n |>.symm
    · rw [Function.update_of_ne hx]
      exact ht x
  · intro n hn
    replace hn : (s.cancelTimer scenarioId).requests ≤ n := hn
    rw [hreq] at hn
    have hne : n ≠ request := Nat.ne_of_gt (Nat.lt_of_lt_of_le hlt hn)
    show (s.cancelTimer scenarioId).injecting n = none ∧
      update (s.cancelTimer scenarioId).clearing request _ n = none
    rw [hinj, Function.update_of_ne hne, hclr]
    exact h.unused n hn
  · show ClearsOwn (s.cancelTimer scenarioId).log
    rw [hlog]
    exact h.own

theorem clear (h : RegistryInv s) (scenarioId : String) :
    RegistryInv (s.clearFault scenarioId) := by
  unfold FaultInjector.clearFault
  simp only
  split
  · exact h.arrive.cancel scenarioId (h.unused s.requests (Nat.le_refl _)).2 (Nat.lt_succ_self _)
  · exact h.arrive.answer _ _

/-- A request stops clearing a scenario that is not active. -/
theorem clearEnded (h : RegistryInv s) {request : Nat} {scenarioId : String}
    (hclr : s.clearing request = some scenarioId) (hactive : s.activeFaults scenarioId = none) :
    RegistryInv { s with clearing := update s.clearing request none } := by
  have hsub : ∀ other x, update s.clearing request none other = some x →
      s.clearing other = some x := by
    intro other x hother
    by_cases hreq : other = request
    · rw [hreq, update_self] at hother
      cases hother
    · rwa [Function.update_of_ne hreq] at hother
  refine { h with active := ?_, clearing := ?_, unused := ?_ }
  · intro x n hact
    refine (h.active x n hact).imp_right ?_
    rintro ⟨other, hother⟩
    refine ⟨other, ?_⟩
    have hne : other ≠ request := by
      rintro rfl
      rw [hclr, Option.some.injEq] at hother
      rw [← hother, hactive] at hact
      cases hact
    show update s.clearing request none other = some x
    rw [Function.update_of_ne hne, hother]
  · intro other x hother
    exact h.clearing other x (hsub other x hother)
  · intro n hn
    refine ⟨(h.unused n hn).1, ?_⟩
    rw [Option.eq_none_iff_forall_ne_some]
    intro x hx
    have hold := hsub n x hx
    rw [(h.unused n hn).2] at hold
    cases hold

/-- Closing a record leaves the run it is of. -/
theorem close (h : RegistryInv s) (record : Nat) (status : FaultStatus) :
    RegistryInv (s.close record status) := by
  refine { h with record := ?_ }
  intro n job hjob
  obtain ⟨r, hr, hrun⟩ := h.record n job hjob
  by_cases hn : n = record
  · subst hn
    refine ⟨{ r with status := status, clearedAt := some s.clock }, ?_, hrun⟩
    show update s.records n _ n = _
    rw [update_self, hr]
    rfl
  · refine ⟨r, ?_, hrun⟩
    show update s.records record _ n = _
    rw [Function.update_of_ne hn, hr]

/-- A scenario without a timer leaves both dictionaries. -/
theorem leave (h : RegistryInv s) {scenarioId : String}
    (htim : s.faultTimers scenarioId = none) :
    RegistryInv { s with
      activeFaults := update s.activeFaults scenarioId none
      faultMetadata := update s.faultMetadata scenarioId none } := by
  refine { h with metadata := ?_, job := ?_, active := ?_ }
  · intro x
    show update s.faultMetadata scenarioId none x = update s.activeFaults scenarioId none x
    by_cases hx : x = scenarioId
    · rw [hx, update_self, update_self]
    · rw [Function.update_of_ne hx, Function.update_of_ne hx]
      exact h.metadata x
  · intro n job hjob hc
    obtain ⟨hact, ht⟩ := h.job n job hjob hc
    have hx : job.scenarioId ≠ scenarioId := by
      intro heq
      rw [heq, htim] at ht
      cases ht
    refine ⟨?_, ht⟩
    show update s.activeFaults scenarioId none job.scenarioId = some n
    rw [Function.update_of_ne hx, hact]
  · intro x n hact
    replace hact : update s.activeFaults scenarioId none x = some n := hact
    have hx : x ≠ scenarioId := by
      rintro rfl
      rw [update_self] at hact
      cases hact
    rw [Function.update_of_ne hx] at hact
    exact h.active x n hact

theorem drop (h : RegistryInv s) {scenarioId : String}
    (htim : s.faultTimers scenarioId = none) : RegistryInv (s.drop scenarioId) := by
  unfold FaultInjector.drop
  simp only
  split
  · exact (h.leave htim).close _ _
  · exact h.leave htim

/-- Which requests wait does not matter to what is taken out. -/
theorem drop_clearing (scenarioId : String) (c : Nat → Option String) :
    { s with clearing := c }.drop scenarioId = { s.drop scenarioId with clearing := c } := by
  unfold FaultInjector.drop
  simp only
  split
  · rfl
  · rfl

theorem drop_frame (scenarioId : String) :
    (s.drop scenarioId).clearing = s.clearing ∧
      (s.drop scenarioId).activeFaults scenarioId = none := by
  unfold FaultInjector.drop
  simp only
  split
  · exact ⟨rfl, update_self _ _ _⟩
  · exact ⟨rfl, update_self _ _ _⟩

theorem clearReturned (h : RegistryInv s) {request : Nat} {raised : Bool}
    (hstep : s.clearReturned request raised = some s')
    (hord : FaultMove.orderly s (.clearReturned request raised)) : RegistryInv s' := by
  unfold FaultInjector.clearReturned at hstep
  cases hc : s.clearing request with
  | none =>
      rw [hc] at hstep
      cases hstep
  | some scenarioId =>
      rw [hc] at hstep
      cases raised with
      | true =>
          cases hstep
          exact (h.clearEnded hc (hord scenarioId hc rfl)).answer _ _
      | false =>
          obtain ⟨hclr, hactive⟩ := drop_frame (s := s) scenarioId
          have hdrop := h.drop (h.clearing request scenarioId hc)
          have hended := hdrop.clearEnded (hclr ▸ hc) hactive
          rw [hclr, ← drop_clearing] at hended
          cases hstep
          exact hended.answer _ _

/-! ### The timers -/

theorem expireHistory (h : RegistryInv s) (job : AutoClearJob) :
    RegistryInv (s.expireHistory job) := by
  unfold FaultInjector.expireHistory
  split
  · split
    · exact h.close _ _
    · exact h
  · exact h

/-- A job that was cancelled, or is not the timer of an active fault, ends. -/
theorem endJob (h : RegistryInv s) {timer : Nat} {job : AutoClearJob}
    (hjob : s.jobs timer = some job) (hc : job.cancelled = true) :
    RegistryInv (s.endJob timer) := by
  have hsub : ∀ n j, update s.jobs timer none n = some j → s.jobs n = some j := by
    intro n j hj
    by_cases hn : n = timer
    · rw [hn, update_self] at hj
      cases hj
    · rwa [Function.update_of_ne hn] at hj
  refine { h with job := ?_, active := ?_, timer := ?_, record := ?_, unborn := ?_ }
  · intro n j hj
    exact h.job n j (hsub n j hj)
  · intro x n hact
    refine (h.active x n hact).imp_left ?_
    rintro ⟨j, hj, hx, hlive⟩
    refine ⟨j, ?_, hx, hlive⟩
    have hne : n ≠ timer := by
      rintro rfl
      rw [hjob, Option.some.injEq] at hj
      rw [← hj, hc] at hlive
      cases hlive
    show update s.jobs timer none n = some j
    rw [Function.update_of_ne hne, hj]
  · intro x n j ht hj
    exact h.timer x n j ht (hsub n j hj)
  · intro n j hj
    exact h.record n j (hsub n j hj)
  · intro n hn
    obtain ⟨hj, ht⟩ := h.unborn n hn
    refine ⟨?_, ht⟩
    show update s.jobs timer none n = none
    by_cases hne : n = timer
    · rw [hne, update_self]
    · rw [Function.update_of_ne hne, hj]

/-- The fault's own timer takes it out, with its record and itself. -/
theorem settle (h : RegistryInv s) {timer : Nat} {job : AutoClearJob}
    (hjob : s.jobs timer = some job) (hc : job.cancelled = false) :
    RegistryInv { s with
      activeFaults := update s.activeFaults job.scenarioId none
      faultTimers := update s.faultTimers job.scenarioId none
      faultMetadata := update s.faultMetadata job.scenarioId none
      jobs := update s.jobs timer none
      log := .removed timer timer :: s.log } := by
  obtain ⟨hact, htim⟩ := h.job timer job hjob hc
  have hsub : ∀ n j, update s.jobs timer none n = some j → n ≠ timer ∧ s.jobs n = some j := by
    intro n j hj
    by_cases hn : n = timer
    · rw [hn, update_self] at hj
      cases hj
    · rw [Function.update_of_ne hn] at hj
      exact ⟨hn, hj⟩
  refine ⟨?_, ?_, ?_, ?_, ?_, ?_, ?_, h.unused, ?_⟩
  · intro x
    show update s.faultMetadata job.scenarioId none x = update s.activeFaults job.scenarioId none x
    by_cases hx : x = job.scenarioId
    · rw [hx, update_self, update_self]
    · rw [Function.update_of_ne hx, Function.update_of_ne hx]
      exact h.metadata x
  · intro n j hj hlive
    obtain ⟨hne, hj⟩ := hsub n j hj
    obtain ⟨ha, ht⟩ := h.job n j hj hlive
    have hx : j.scenarioId ≠ job.scenarioId := by
      intro heq
      rw [heq, hact, Option.some.injEq] at ha
      exact hne ha.symm
    show update s.activeFaults job.scenarioId none j.scenarioId = some n ∧
      update s.faultTimers job.scenarioId none j.scenarioId = some n
    rw [Function.update_of_ne hx, Function.update_of_ne hx]
    exact ⟨ha, ht⟩
  · intro x n ha
    replace ha : update s.activeFaults job.scenarioId none x = some n := ha
    have hx : x ≠ job.scenarioId := by
      rintro rfl
      rw [update_self] at ha
      cases ha
    rw [Function.update_of_ne hx] at ha
    refine (h.active x n ha).imp_left ?_
    rintro ⟨j, hj, hxj, hlive⟩
    refine ⟨j, ?_, hxj, hlive⟩
    have hne : n ≠ timer := by
      rintro rfl
      rw [hjob, Option.some.injEq] at hj
      exact hx (hj ▸ hxj.symm)
    show update s.jobs timer none n = some j
    rw [Function.update_of_ne hne, hj]
  · intro request x hclr
    show update s.faultTimers job.scenarioId none x = none
    by_cases hx : x = job.scenarioId
    · rw [hx, update_self]
    · rw [Function.update_of_ne hx]
      exact h.clearing request x hclr
  · intro x n j ht hj
    replace ht : update s.faultTimers job.scenarioId none x = some n := ht
    have hx : x ≠ job.scenarioId := by
      rintro rfl
      rw [update_self] at ht
      cases ht
    rw [Function.update_of_ne hx] at ht
    exact h.timer x n j ht (hsub n j hj).2
  · intro n j hj
    exact h.record n j (hsub n j hj).2
  · intro n hn
    obtain ⟨hj, ht⟩ := h.unborn n hn
    have hne : n ≠ timer := by
      rintro rfl
      rw [hj] at hjob
      cases hjob
    show update s.jobs timer none n = none ∧
      ∀ x, update s.faultTimers job.scenarioId none x ≠ some n
    rw [Function.update_of_ne hne]
    refine ⟨hj, ?_⟩
    intro x
    by_cases hx : x = job.scenarioId
    · rw [hx, update_self]
      exact (Option.some_ne_none n).symm
    · rw [Function.update_of_ne hx]
      exact ht x
  · refine ⟨?_, ?_⟩
    · intro t fault hmem
      rcases List.mem_cons.mp hmem with heq | hmem
      · cases heq
      · exact h.own.called t fault hmem
    · intro t fault hmem
      rcases List.mem_cons.mp hmem with heq | hmem
      · cases heq
        rfl
      · exact h.own.removed t fault hmem

/-- The timer wakes up and calls the `clear` of its own fault. -/
theorem wake (h : RegistryInv s) {timer : Nat} {job : AutoClearJob}
    (hjob : s.jobs timer = some job) (hc : job.cancelled = false) :
    RegistryInv { s with
      jobs := update s.jobs timer (some { job with clearing := true })
      log := .clearCalled timer timer :: s.log } := by
  -- The job is the same but for what it waits for, which no clause of the invariant reads.
  have hsub : ∀ n j, update s.jobs timer (some { job with clearing := true }) n = some j →
      ∃ old, s.jobs n = some old ∧ j.runId = old.runId ∧ j.scenarioId = old.scenarioId ∧
        j.cancelled = old.cancelled := by
    intro n j hj
    by_cases hn : n = timer
    · rw [hn, update_self, Option.some.injEq] at hj
      refine ⟨job, hn ▸ hjob, ?_⟩
      rw [← hj]
      exact ⟨rfl, rfl, rfl⟩
    · rw [Function.update_of_ne hn] at hj
      exact ⟨j, hj, rfl, rfl, rfl⟩
  refine { h with job := ?_, active := ?_, timer := ?_, record := ?_, unborn := ?_, own := ?_ }
  · intro n j hj hlive
    obtain ⟨old, hold, -, hscn, hcan⟩ := hsub n j hj
    rw [hscn]
    exact h.job n old hold (hcan ▸ hlive)
  · intro x n hact
    refine (h.active x n hact).imp_left ?_
    rintro ⟨j, hj, hx, hlive⟩
    by_cases hn : n = timer
    · rw [hn, hjob, Option.some.injEq] at hj
      refine ⟨{ job with clearing := true }, ?_, hj ▸ hx, hc⟩
      rw [hn]
      exact update_self _ _ _
    · refine ⟨j, ?_, hx, hlive⟩
      show update s.jobs timer _ n = some j
      rw [Function.update_of_ne hn, hj]
  · intro x n j ht hj
    obtain ⟨old, hold, -, hscn, -⟩ := hsub n j hj
    rw [hscn]
    exact h.timer x n old ht hold
  · intro n j hj
    obtain ⟨old, hold, hrun, -, -⟩ := hsub n j hj
    rw [hrun]
    exact h.record n old hold
  · intro n hn
    obtain ⟨hj, ht⟩ := h.unborn n hn
    have hne : n ≠ timer := by
      rintro rfl
      rw [hj] at hjob
      cases hjob
    refine ⟨?_, ht⟩
    show update s.jobs timer _ n = none
    rw [Function.update_of_ne hne, hj]
  · refine ⟨?_, ?_⟩
    · intro t fault hmem
      rcases List.mem_cons.mp hmem with heq | hmem
      · cases heq
        rfl
      · exact h.own.called t fault hmem
    · intro t fault hmem
      rcases List.mem_cons.mp hmem with heq | hmem
      · cases heq
      · exact h.own.removed t fault hmem

/-- Closing the record in the history does not look at what is active. -/
theorem remove_expireHistory (timer : Nat) (job : AutoClearJob) :
    (s.remove timer job).expireHistory job = (s.expireHistory job).remove timer job := by
  have hframe : (s.remove timer job).faultHistory = s.faultHistory ∧
      (s.remove timer job).records = s.records := by
    unfold FaultInjector.remove
    simp only
    split
    · exact ⟨rfl, rfl⟩
    · exact ⟨rfl, rfl⟩
  unfold FaultInjector.expireHistory
  rw [hframe.1, hframe.2]
  split
  · split
    · unfold FaultInjector.remove FaultInjector.close
      simp only
      split
      · rfl
      · rfl
    · rfl
  · rfl

theorem expireHistory_jobs (job : AutoClearJob) : (s.expireHistory job).jobs = s.jobs := by
  unfold FaultInjector.expireHistory
  split
  · split
    · rfl
    · rfl
  · rfl

/-- What the job of an active fault leaves when the fault's `clear` has returned. -/
theorem expire_eq (h : RegistryInv s) {timer : Nat} {job : AutoClearJob}
    (hjob : s.jobs timer = some job) (hc : job.cancelled = false) :
    ((s.remove timer job).forget job).endJob timer = { s with
      activeFaults := update s.activeFaults job.scenarioId none
      faultTimers := update s.faultTimers job.scenarioId none
      faultMetadata := update s.faultMetadata job.scenarioId none
      jobs := update s.jobs timer none
      log := .removed timer timer :: s.log } := by
  obtain ⟨r, hr, hrun⟩ := h.record timer job hjob
  have hact := (h.job timer job hjob hc).1
  have hrem : s.remove timer job = { s with
      activeFaults := update s.activeFaults job.scenarioId none
      faultTimers := update s.faultTimers job.scenarioId none
      log := .removed timer timer :: s.log } := by
    unfold FaultInjector.remove
    rw [hact]
  have hmeta : (s.remove timer job).metadataOf job.scenarioId = some r := by
    rw [hrem]
    show (s.faultMetadata job.scenarioId).bind s.records = some r
    rw [h.metadata, hact]
    exact hr
  unfold FaultInjector.forget
  rw [hmeta, if_pos (by simpa using hrun), hrem]
  rfl

theorem jobResumed (h : RegistryInv s) {timer : Nat} {raised : Bool}
    (hstep : s.jobResumed timer raised = some s')
    (hord : FaultMove.orderly s (.jobResumed timer raised)) : RegistryInv s' := by
  unfold FaultInjector.jobResumed at hstep
  cases hjob : s.jobs timer with
  | none =>
      rw [hjob] at hstep
      cases hstep
  | some job =>
      rw [hjob] at hstep
      simp only at hstep
      cases hc : job.cancelled with
      | true =>
          rw [if_pos hc] at hstep
          cases hstep
          exact h.endJob hjob hc
      | false =>
          have hact := (h.job timer job hjob hc).1
          rw [if_neg (Bool.eq_false_iff.mp hc)] at hstep
          by_cases hclr : job.clearing = true
          · rw [if_pos hclr] at hstep
            cases raised with
            | true =>
                rw [hord job hjob hc hclr rfl] at hact
                cases hact
            | false =>
                have hjob' : (s.expireHistory job).jobs timer = some job := by
                  rw [expireHistory_jobs, hjob]
                have hexp := h.expireHistory job
                rw [if_neg (by decide), remove_expireHistory, hexp.expire_eq hjob' hc] at hstep
                cases hstep
                exact hexp.settle hjob' hc
          · rw [if_neg hclr, hact] at hstep
            split at hstep
            · cases hstep
              exact h.wake hjob hc
            · cases hstep

theorem step (h : RegistryInv s) {move : FaultMove} (hstep : s.step move = some s')
    (hord : move.orderly s) : RegistryInv s' := by
  cases move with
  | inject scenarioId ttlSeconds hex =>
      cases hstep
      exact h.inject scenarioId ttlSeconds hex
  | injectReturned request raised => exact h.injectReturned hstep hord
  | clear scenarioId =>
      cases hstep
      exact h.clear scenarioId
  | clearReturned request raised => exact h.clearReturned hstep hord
  | jobResumed timer raised => exact h.jobResumed hstep hord
  | tick =>
      cases hstep
      exact h.tick

theorem runs {moves : List FaultMove} : ∀ {s s' : FaultInjector}, RegistryInv s →
    s.runs moves = some s' → Orderly s moves → RegistryInv s' := by
  induction moves with
  | nil =>
      intro s s' h hrun _
      cases hrun
      exact h
  | cons move rest ih =>
      intro s s' h hrun hord
      simp only [FaultInjector.runs] at hrun
      split at hrun
      · rename_i s₁ hstep
        exact ih (h.step hstep hord.1) hrun (hord.2 s₁ hstep)
      · cases hrun

end RegistryInv

/-! ### The registry -/

end SelfHealing
