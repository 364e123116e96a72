/-
A clear that fails has lost the timer.

`clear_fault` cancels the timer of a fault and forgets it before the fault's own `clear` is called.
Nothing makes a timer again but an inject, and an inject makes the timer of its own fault.  So from
the call on the timer of the fault that was active is lost (`Lost`), whatever else the loop does
and whatever comes of the `clear`.

A clear that returns has taken the fault out as well, and then no timer is needed.  Only where it
raises the fault is left active without one, and nothing but another request will clear it.
-/
import SelfHealing.Proofs.FaultRegistry

namespace SelfHealing

open Function (update update_self update_of_ne)

namespace FaultInjector

variable {s s' : FaultInjector} {n : Nat}

/-! ### What a step does to the timers

A step leaves a timer as it is, ends it, or makes one for a fault that it has just injected.  None
of them gives a timer back to a fault that is active already: that the timer of a fault is lost is
therefore kept by every step.
-/

/-- What there is of the job of an injection has been cancelled. -/
def Lost (s : FaultInjector) (n : Nat) : Prop :=
  ∀ job, s.jobs n = some job → job.cancelled = true

/-- Where a job was pending after a step, it was before, or its inject has just returned; and the
timer of a fault that stays active stays where it is or is cancelled. -/
structure TimerStep (s s' : FaultInjector) : Prop where
  requests : s.requests ≤ s'.requests
  injecting : ∀ n, s'.injecting n ≠ none →
    s.injecting n ≠ none ∨ n = s.requests ∧ s.requests < s'.requests
  lost : ∀ n, s.injecting n = none → s.Lost n → s'.Lost n
  active : ∀ x n, s'.activeFaults x = some n →
    (s.activeFaults x = some n ∧ (s'.faultTimers x = s.faultTimers x ∨
        s'.faultTimers x = none ∧ (s.faultTimers x = some n → s'.Lost n))) ∨
      s.injecting n ≠ none ∧ s'.injecting n = none ∧ s'.faultTimers x = some n

/-- Neither an inject begins or ends, nor a fault that stays active gets another timer. -/
theorem TimerStep.of_frame (hrequests : s'.requests = s.requests)
    (hinjecting : s'.injecting = s.injecting)
    (hlost : ∀ n, s.Lost n → s'.Lost n)
    (hactive : ∀ x n, s'.activeFaults x = some n →
      s.activeFaults x = some n ∧ s'.faultTimers x = s.faultTimers x) : TimerStep s s' where
  requests := Nat.le_of_eq hrequests.symm
  injecting _ h := Or.inl (hinjecting ▸ h)
  lost _ _ h := hlost _ h
  active x n h := Or.inl ⟨(hactive x n h).1, Or.inl (hactive x n h).2⟩

theorem injectFault_timerStep (scenarioId : String) (ttlSeconds : Int) (hex : String) :
    TimerStep s (s.injectFault scenarioId ttlSeconds hex) := by
  have hanswered : ∀ a, TimerStep s (answer { s with requests := s.requests + 1 } s.requests a) :=
    fun a => ⟨Nat.le_succ _, fun _ h => Or.inl h, fun _ _ h => h,
      fun _ _ h => Or.inl ⟨h, Or.inl rfl⟩⟩
  unfold injectFault
  simp only
  split
  · exact hanswered _
  split
  · exact hanswered _
  refine ⟨Nat.le_succ _, ?_, fun _ _ h => h, fun _ _ h => Or.inl ⟨h, Or.inl rfl⟩⟩
  intro n hn
  by_cases hreq : n = s.requests
  · exact Or.inr ⟨hreq, Nat.lt_succ_self _⟩
  · simp only [update_of_ne hreq] at hn
    exact Or.inl hn

theorem injectReturned_timerStep {request : Nat} {raised : Bool}
    (h : s.injectReturned request raised = some s') : TimerStep s s' := by
  unfold injectReturned at h
  cases hi : s.injecting request with
  | none =>
      rw [hi] at h
      cases h
  | some i =>
      rw [hi] at h
      have hwaits : s.injecting request ≠ none := by
        rw [hi]
        exact Option.some_ne_none i
      have hstill : ∀ n, update s.injecting request none n ≠ none → s.injecting n ≠ none := by
        intro n hn
        by_cases hreq : n = request
        · exact hreq ▸ hwaits
        · rwa [update_of_ne hreq] at hn
      cases raised with
      | true =>
          cases h
          exact ⟨Nat.le_refl _, fun n hn => Or.inl (hstill n hn), fun _ _ h => h,
            fun _ _ h => Or.inl ⟨h, Or.inl rfl⟩⟩
      | false =>
          cases h
          refine ⟨Nat.le_refl _, fun n hn => Or.inl (hstill n hn), ?_, ?_⟩
          · intro n hnone hlost job hjob
            have hne : n ≠ request := by
              rintro rfl
              exact hwaits hnone
            replace hjob : update s.jobs request _ n = some job := hjob
            rw [update_of_ne hne] at hjob
            exact hlost job hjob
          · intro x n hactive
            replace hactive : update s.activeFaults i.scenarioId (some request) x = some n :=
              hactive
            by_cases hx : x = i.scenarioId
            · rw [hx, update_self, Option.some.injEq] at hactive
              subst hactive
              refine Or.inr ⟨hwaits, update_self .., ?_⟩
              rw [hx]
              exact update_self ..
            · rw [update_of_ne hx] at hactive
              exact Or.inl ⟨hactive, Or.inl (update_of_ne hx ..)⟩

/-- The timer of the scenario is cancelled, and no other. -/
theorem cancelTimer_lost {scenarioId : String} (h : s.Lost n ∨ s.faultTimers scenarioId = some n) :
    (s.cancelTimer scenarioId).Lost n := by
  intro job hjob
  obtain ⟨old, hold, -, -, hlive⟩ := RegistryInv.cancelTimer_job hjob
  by_contra hcancelled
  obtain ⟨hrunning, hother⟩ := hlive (Bool.eq_false_iff.mpr hcancelled)
  rcases h with hlost | htimer
  · rw [hlost old hold] at hrunning
    cases hrunning
  · exact hother htimer

theorem clearFault_timerStep (scenarioId : String) : TimerStep s (s.clearFault scenarioId) := by
  unfold clearFault
  simp only
  split
  · let arrived : FaultInjector := { s with requests := s.requests + 1 }
    obtain ⟨hactive, -, -, hinjecting, -, hrequests, -⟩ :=
      RegistryInv.cancelTimer_frame (s := arrived) scenarioId
    have htimers := RegistryInv.cancelTimer_faultTimers (s := arrived) scenarioId
    have hlost : ∀ n, s.Lost n ∨ s.faultTimers scenarioId = some n →
        (arrived.cancelTimer scenarioId).Lost n := fun n h => cancelTimer_lost h
    refine ⟨?_, ?_, fun n _ h => hlost n (Or.inl h), ?_⟩
    · show s.requests ≤ (arrived.cancelTimer scenarioId).requests
      rw [hrequests]
      exact Nat.le_succ _
    · intro n hn
      replace hn : (arrived.cancelTimer scenarioId).injecting n ≠ none := hn
      rw [hinjecting] at hn
      exact Or.inl hn
    · intro x n hx
      replace hx : (arrived.cancelTimer scenarioId).activeFaults x = some n := hx
      rw [hactive] at hx
      refine Or.inl ⟨hx, ?_⟩
      show (arrived.cancelTimer scenarioId).faultTimers x = s.faultTimers x ∨
        (arrived.cancelTimer scenarioId).faultTimers x = none ∧
          (s.faultTimers x = some n → (arrived.cancelTimer scenarioId).Lost n)
      rw [htimers]
      by_cases heq : x = scenarioId
      · subst heq
        rw [update_self]
        exact Or.inr ⟨rfl, fun htimer => hlost n (Or.inr htimer)⟩
      · exact Or.inl (update_of_ne heq ..)
  · exact ⟨Nat.le_succ _, fun _ h => Or.inl h, fun _ _ h => h,
      fun _ _ h => Or.inl ⟨h, Or.inl rfl⟩⟩

theorem drop_timerStep (scenarioId : String) : TimerStep s (s.drop scenarioId) := by
  have hactive : ∀ x n, update s.activeFaults scenarioId none x = some n →
      s.activeFaults x = some n := by
    intro x n hx
    by_cases heq : x = scenarioId
    · rw [heq, update_self] at hx
      cases hx
    · rwa [update_of_ne heq] at hx
  unfold drop
  simp only
  split
  · exact .of_frame rfl rfl (fun _ h => h) fun x n hx => ⟨hactive x n hx, rfl⟩
  · exact .of_frame rfl rfl (fun _ h => h) fun x n hx => ⟨hactive x n hx, rfl⟩

theorem clearReturned_timerStep {request : Nat} {raised : Bool}
    (h : s.clearReturned request raised = some s') : TimerStep s s' := by
  unfold clearReturned at h
  cases hc : s.clearing request with
  | none =>
      rw [hc] at h
      cases h
  | some scenarioId =>
      rw [hc] at h
      cases raised with
      | true =>
          cases h
          exact .of_frame rfl rfl (fun _ h => h) fun _ _ h => ⟨h, rfl⟩
      | false =>
          have hdrop := drop_timerStep (s := s) scenarioId
          cases h
          rw [RegistryInv.drop_clearing]
          exact ⟨hdrop.requests, hdrop.injecting, hdrop.lost, hdrop.active⟩

/-- Two states with the same faults, timers and jobs. -/
structure SameTimers (s s' : FaultInjector) : Prop where
  requests : s'.requests = s.requests
  injecting : s'.injecting = s.injecting
  jobs : s'.jobs = s.jobs
  activeFaults : s'.activeFaults = s.activeFaults
  faultTimers : s'.faultTimers = s.faultTimers

theorem expireHistory_same (job : AutoClearJob) : SameTimers s (s.expireHistory job) := by
  unfold expireHistory
  split
  · split
    · exact ⟨rfl, rfl, rfl, rfl, rfl⟩
    · exact ⟨rfl, rfl, rfl, rfl, rfl⟩
  · exact ⟨rfl, rfl, rfl, rfl, rfl⟩

theorem forget_same (job : AutoClearJob) : SameTimers s (s.forget job) := by
  unfold forget
  split
  · exact ⟨rfl, rfl, rfl, rfl, rfl⟩
  · exact ⟨rfl, rfl, rfl, rfl, rfl⟩

theorem SameTimers.trans {s₁ : FaultInjector} (h : SameTimers s s₁) (h' : SameTimers s₁ s') :
    SameTimers s s' :=
  ⟨h'.requests.trans h.requests, h'.injecting.trans h.injecting, h'.jobs.trans h.jobs,
    h'.activeFaults.trans h.activeFaults, h'.faultTimers.trans h.faultTimers⟩

theorem lost_endJob {jobs : Nat → Option AutoClearJob} (timer : Nat)
    (h : ∀ job, jobs n = some job → job.cancelled = true) :
    ∀ job, update jobs timer none n = some job → job.cancelled = true := by
  intro job hjob
  by_cases hn : n = timer
  · rw [hn, update_self] at hjob
    cases hjob
  · rw [update_of_ne hn] at hjob
    exact h job hjob

/-- A job ends, and its scenario has the faults and timers that it had. -/
theorem SameTimers.endJob {s₁ : FaultInjector} (h : SameTimers s s₁) (timer : Nat) :
    TimerStep s (s₁.endJob timer) := by
  refine .of_frame h.requests h.injecting ?_ ?_
  · intro n hlost
    exact lost_endJob timer (h.jobs ▸ hlost)
  · intro x n hx
    exact ⟨h.activeFaults ▸ hx, congrFun h.faultTimers x⟩

/-- A job ends, and its scenario has neither fault nor timer. -/
theorem remove_timerStep (timer : Nat) (job : AutoClearJob) :
    TimerStep s ((((s.remove timer job).expireHistory job).forget job).endJob timer) := by
  have hremoved : SameTimers
      { s with
        activeFaults := update s.activeFaults job.scenarioId none
        faultTimers := update s.faultTimers job.scenarioId none }
      (s.remove timer job) := by
    unfold remove
    simp only
    split
    · exact ⟨rfl, rfl, rfl, rfl, rfl⟩
    · exact ⟨rfl, rfl, rfl, rfl, rfl⟩
  have hsame := (hremoved.trans (expireHistory_same job)).trans (forget_same job)
  refine .of_frame hsame.requests hsame.injecting ?_ ?_
  · intro n hlost
    exact lost_endJob timer (hsame.jobs ▸ hlost)
  · intro x n hx
    have hremaining : update s.activeFaults job.scenarioId none x = some n :=
      (congrFun hsame.activeFaults x).symm.trans hx
    have hne : x ≠ job.scenarioId := by
      rintro rfl
      rw [update_self] at hremaining
      cases hremaining
    rw [update_of_ne hne] at hremaining
    exact ⟨hremaining, (congrFun hsame.faultTimers x).trans (update_of_ne hne ..)⟩

theorem jobResumed_timerStep {timer : Nat} {raised : Bool}
    (h : s.jobResumed timer raised = some s') : TimerStep s s' := by
  have hself : SameTimers s s := ⟨rfl, rfl, rfl, rfl, rfl⟩
  unfold jobResumed at h
  cases hjob : s.jobs timer with
  | none =>
      rw [hjob] at h
      cases h
  | some job =>
      rw [hjob] at h
      simp only at h
      cases hcancelled : job.cancelled with
      | true =>
          rw [if_pos hcancelled] at h
          cases h
          exact hself.endJob timer
      | false =>
          rw [if_neg (Bool.eq_false_iff.mp hcancelled)] at h
          split at h
          · split at h
            · cases h
              exact hself.endJob timer
            · cases h
              exact remove_timerStep timer job
          · split at h
            · split at h
              · cases h
                refine .of_frame rfl rfl ?_ fun _ _ h => ⟨h, rfl⟩
                intro n hlost job' hjob'
                have hne : n ≠ timer := by
                  rintro rfl
                  rw [hlost job hjob] at hcancelled
                  cases hcancelled
                replace hjob' : update s.jobs timer _ n = some job' := hjob'
                rw [update_of_ne hne] at hjob'
                exact hlost job' hjob'
              · cases h
                exact ((expireHistory_same job).trans (forget_same job)).endJob timer
            · cases h

theorem step_timerStep {move : FaultMove} (h : s.step move = some s') : TimerStep s s' := by
  cases move with
  | inject scenarioId ttlSeconds hex =>
      cases h
      exact injectFault_timerStep scenarioId ttlSeconds hex
  | injectReturned request raised => exact injectReturned_timerStep h
  | clear scenarioId =>
      cases h
      exact clearFault_timerStep scenarioId
  | clearReturned request raised => exact clearReturned_timerStep h
  | jobResumed timer raised => exact jobResumed_timerStep h
  | tick =>
      cases h
      exact .of_frame rfl rfl (fun _ h => h) fun _ _ h => ⟨h, rfl⟩

/-! ### Over a run -/

/-- The injection has been made. -/
def Made (s : FaultInjector) (n : Nat) : Prop := n < s.requests ∧ s.injecting n = none

theorem Made.step (h : s.Made n) (hstep : TimerStep s s') : s'.Made n := by
  refine ⟨Nat.lt_of_lt_of_le h.1 hstep.requests, ?_⟩
  by_contra hne
  rcases hstep.injecting n hne with hwaits | ⟨heq, -⟩
  · exact hwaits h.2
  · exact Nat.ne_of_lt h.1 heq

/-- An active fault has its own timer or none, and none only if that is lost. -/
structure TimerInv (s : FaultInjector) : Prop where
  unused : ∀ n, s.injecting n ≠ none → n < s.requests
  active : ∀ x n, s.activeFaults x = some n →
    s.Made n ∧ (s.faultTimers x = some n ∨ s.faultTimers x = none ∧ s.Lost n)

theorem TimerInv.startup : TimerInv {} where
  unused _ h := absurd rfl h
  active _ _ h := by cases h

theorem TimerInv.step (h : TimerInv s) (hstep : TimerStep s s') : TimerInv s' := by
  refine ⟨?_, ?_⟩
  · intro n hn
    rcases hstep.injecting n hn with hwaits | ⟨rfl, hlt⟩
    · exact Nat.lt_of_lt_of_le (h.unused n hwaits) hstep.requests
    · exact hlt
  · intro x n hx
    rcases hstep.active x n hx with ⟨hbefore, htimer⟩ | ⟨hwaits, hended, htimer⟩
    · obtain ⟨hmade, hold⟩ := h.active x n hbefore
      refine ⟨hmade.step hstep, ?_⟩
      rcases htimer with hsame | ⟨hnone, hcancelled⟩
      · rw [hsame]
        exact hold.imp_right fun hlost => ⟨hlost.1, hstep.lost n hmade.2 hlost.2⟩
      · refine Or.inr ⟨hnone, ?_⟩
        rcases hold with hown | ⟨-, hlost⟩
        · exact hcancelled hown
        · exact hstep.lost n hmade.2 hlost
    · exact ⟨⟨Nat.lt_of_lt_of_le (h.unused n hwaits) hstep.requests, hended⟩, Or.inl htimer⟩

/-- What every step keeps, every run keeps. -/
theorem runs_induction {P : FaultInjector → Prop}
    (hkeep : ∀ {s s' : FaultInjector}, P s → TimerStep s s' → P s') {moves : List FaultMove} :
    ∀ {s s' : FaultInjector}, P s → s.runs moves = some s' → P s' := by
  induction moves with
  | nil =>
      intro s s' h hrun
      cases hrun
      exact h
  | cons move rest ih =>
      intro s s' h hrun
      simp only [runs] at hrun
      split at hrun
      · rename_i s₁ hstep
        exact ih (hkeep h (step_timerStep hstep)) hrun
      · cases hrun

/-- A timer that is lost stays lost. -/
theorem lost_runs {moves : List FaultMove} (hmade : s.Made n) (hlost : s.Lost n)
    (hrun : s.runs moves = some s') : s'.Made n ∧ s'.Lost n :=
  runs_induction (P := fun s => s.Made n ∧ s.Lost n)
    (fun h hstep => ⟨h.1.step hstep, hstep.lost n h.1.2 h.2⟩) ⟨hmade, hlost⟩ hrun

/-- **From the call of `clear_fault` on, the timer of the fault is lost.** -/
theorem lost_clear (h : TimerInv s) {scenarioId : String}
    (hactive : s.activeFaults scenarioId = some n) :
    (s.clearFault scenarioId).Made n ∧ (s.clearFault scenarioId).Lost n := by
  obtain ⟨hmade, htimer⟩ := h.active scenarioId n hactive
  refine ⟨hmade.step (clearFault_timerStep scenarioId), ?_⟩
  have hsome : (s.activeFaults scenarioId).isSome = true := by
    rw [hactive]
    rfl
  unfold clearFault
  simp only [hsome, if_true]
  exact cancelTimer_lost (htimer.symm.imp_left And.right)

theorem Lost.not_pending (h : s.Lost n) (scenarioId : String) : ¬ s.PendingTimer scenarioId n := by
  rintro ⟨job, hjob, -, hcancelled⟩
  rw [h job hjob] at hcancelled
  cases hcancelled

end FaultInjector

open FaultInjector

/-! ### A clear that fails -/

/-- The fault of an injection is active as it was, its record is the one that it was, and its timer
is going to clear it. -/
structure KeepsFault (s s' : FaultInjector) (scenarioId : String) (n : Nat) : Prop where
  active : s'.activeFaults scenarioId = some n
  metadata : s'.faultMetadata scenarioId = s.faultMetadata scenarioId ∧
    s'.metadataOf scenarioId = s.metadataOf scenarioId
  timer : s'.PendingTimer scenarioId n

/-- **No clear that fails keeps the safety timer.**  In whatever state a request to clear an active
fault comes, and whatever happens until the fault's `clear` raises, the timer of the fault is not
pending then, nor ever after. -/
theorem failed_clear_loses_timer (moves later more : List FaultMove)
    {s s₁ s₂ s₃ s' : FaultInjector} {scenarioId : String} {n : Nat}
    (hrun : FaultInjector.runs {} moves = some s) (hactive : s.activeFaults scenarioId = some n)
    (hclear : s.step (.clear scenarioId) = some s₁) (hlater : s₁.runs later = some s₂)
    (hraised : s₂.step (.clearReturned s.requests true) = some s₃)
    (hmore : s₃.runs more = some s') : ¬ KeepsFault s s' scenarioId n := by
  intro hkeeps
  have hinv : TimerInv s := runs_induction TimerInv.step TimerInv.startup hrun
  obtain ⟨hmade, hlost⟩ := lost_clear hinv hactive
  obtain rfl := Option.some.inj hclear
  obtain ⟨hmade₂, hlost₂⟩ := lost_runs hmade hlost hlater
  have hstep := step_timerStep hraised
  obtain ⟨-, hlost'⟩ := lost_runs (hmade₂.step hstep) (hstep.lost n hmade₂.2 hlost₂) hmore
  exact hlost'.not_pending scenarioId hkeeps.timer

/-- A fault is injected for ten minutes. -/
def injectedOnce : List FaultMove :=
  [.inject "SCN-004" 600 "0a1b2c3d", .injectReturned 0 false]

theorem failed_clear_loses_timer_once : ∃ s s₁ s₂ s',
    FaultInjector.runs {} injectedOnce = some s ∧ s.activeFaults "SCN-004" = some 0 ∧
      s.step (.clear "SCN-004") = some s₁ ∧ s₁.runs [.tick] = some s₂ ∧
      s₂.step (.clearReturned s.requests true) = some s' ∧ ¬ KeepsFault s s' "SCN-004" 0 := by
  refine ⟨_, _, _, _, rfl, by decide +kernel, rfl, rfl, rfl, ?_⟩
  exact failed_clear_loses_timer injectedOnce [.tick] [] rfl (by decide +kernel) rfl rfl rfl rfl

/-- The clear of it fails: the fault stays active and its timer is gone. -/
theorem failed_clear_leaves_fault : ¬ ∀ (moves later : List FaultMove)
    (s s₁ s₂ s' : FaultInjector) (scenarioId : String) (n : Nat),
    FaultInjector.runs {} moves = some s → s.activeFaults scenarioId = some n →
      s.step (.clear scenarioId) = some s₁ → s₁.runs later = some s₂ →
      s₂.step (.clearReturned s.requests true) = some s' → KeepsFault s s' scenarioId n := by
  intro hkeeps
  obtain ⟨job, hjob, -, hcancelled⟩ :=
    (hkeeps injectedOnce [] _ _ _ _ "SCN-004" 0 rfl (by decide +kernel) rfl rfl rfl).timer
  revert hjob hcancelled
  simp [FaultInjector.injectFault, FaultInjector.enter, FaultInjector.answer,
    FaultInjector.clearFault, FaultInjector.cancelTimer, faultRegistry, update]
  rintro rfl
  rfl

end SelfHealing
