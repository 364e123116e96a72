/-
How long a target has really been healthy when a verification passes.

Every sample that passes is credited with a whole interval, the first one of a streak
included, while `k` samples are only `k - 1` intervals apart.  Whether the window has passed on
the clock is therefore up to the number of samples that a profile asks for, and not to its
window, unless the session is too short for anything to pass.

The clock of the statement is the shortest that there can be, where each sleep lasts an interval and
nothing else takes time.  A longer one makes the span longer, so that what fails there is all that
can fail.
-/
import SelfHealing.Proofs.VerificationLoop

namespace SelfHealing

/-- The samples at the end that have all passed. -/
def closingStreak (samples : List EvaluationSample) : Nat :=
  (samples.reverse.takeWhile EvaluationSample.allPassed).length

/-- The samples in a row that a session needs to pass. -/
def VerificationProfile.samplesNeeded (profile : VerificationProfile) : Nat :=
  max profile.minConsecutivePassingSamples
    ((profile.stabilizationWindowSeconds + profile.evaluationIntervalSeconds - 1) /
      profile.evaluationIntervalSeconds)

/-! ### Samples and time

The number of samples that the window asks for is rounded up, and `k` samples are credited with `k`
intervals.  On the clock they are `k - 1` intervals apart, or more; so the window has passed there
if one sample more than the window needs is asked for.
-/

section Time

variable {profile : VerificationProfile} {clock : SessionClock profile} {taken : Nat → Int}

/-- Enough samples are enough for both counters. -/
theorem samplesNeeded_le_iff (k : Nat) :
    profile.samplesNeeded ≤ k ↔ profile.minConsecutivePassingSamples ≤ k ∧
      profile.stabilizationWindowSeconds ≤ k * profile.evaluationIntervalSeconds := by
  have hpos := profile.interval_pos
  unfold VerificationProfile.samplesNeeded
  rw [Nat.max_le, Nat.div_le_iff_le_mul_add_pred (by omega)]
  rw [Nat.mul_comm profile.evaluationIntervalSeconds k]
  constructor
  · intro h
    exact ⟨h.1, by omega⟩
  · intro h
    exact ⟨h.1, by omega⟩

end Time

/-! ### A session in which everything passes -/

section Passing

variable {profile : VerificationProfile} {clock : SessionClock profile}
  {evaluateSample : Nat → Nat → Nat → EvaluationSample}

/-- What holds of every sample that is taken holds of all of them. -/
theorem forall_samples_verificationLoop {C : EvaluationSample → Prop}
    (hC : ∀ n e r, C (evaluateSample n e r)) (n : Nat) (s : VerificationSession)
    (hs : ∀ sample ∈ s.samples, C sample) :
    ∀ sample ∈ (verificationLoop profile clock evaluateSample n s).samples, C sample := by
  have hnext : ∀ (since : Int) (n : Nat) (s : VerificationSession),
      (∀ sample ∈ s.samples, C sample) →
      ∀ sample ∈ (s.observe profile since (evaluateSample n s.elapsedHealthySeconds
        s.readinessConsecutiveSuccesses)).samples, C sample := by
    intro since n s hs sample hmem
    rw [samples_observe] at hmem
    rcases List.mem_append.mp hmem with hmem | hmem
    · exact hs sample hmem
    · rw [List.mem_singleton] at hmem
      rw [hmem]
      exact hC _ _ _
  induction n, s using verificationLoop.induct profile clock evaluateSample with
  | case1 n s hout =>
      rw [verificationLoop, if_pos hout]
      exact hs
  | case2 n s hgo sample s' hbreak =>
      rw [verificationLoop, if_neg hgo]
      simp only
      rw [if_pos hbreak]
      exact hnext _ _ _ hs
  | case3 n s hgo sample s' hbreak ih =>
      rw [verificationLoop, if_neg hgo]
      simp only
      rw [if_neg hbreak]
      exact ih (hnext _ _ _ hs)

theorem takeWhile_length_of_forall {samples : List EvaluationSample}
    (h : ∀ sample ∈ samples, sample.allPassed = true) :
    (samples.takeWhile EvaluationSample.allPassed).length = samples.length := by
  induction samples with
  | nil => rfl
  | cons x rest ih =>
      rw [List.takeWhile_cons_of_pos (h x List.mem_cons_self), List.length_cons, List.length_cons,
        ih (fun sample hmem => h sample (List.mem_cons_of_mem _ hmem))]

/-- Where every sample is ready and passes, all of them are counted. -/
theorem streak_of_passing {samples : List EvaluationSample}
    (h : ∀ sample ∈ samples, profile.ready sample = true ∧ sample.allPassed = true) :
    healthyStreak profile samples = samples.length ∧ closingStreak samples = samples.length := by
  have hobserved : observed profile samples = samples.reverse := by
    unfold observed
    cases samples with
    | nil => rfl
    | cons x rest =>
        rw [List.dropWhile_cons_of_neg]
        simp [(h x List.mem_cons_self).1]
  have hpass : ∀ sample ∈ samples.reverse, sample.allPassed = true :=
    fun sample hmem => (h sample (List.mem_reverse.mp hmem)).2
  unfold healthyStreak closingStreak
  rw [hobserved, takeWhile_length_of_forall hpass, List.length_reverse]
  exact ⟨rfl, rfl⟩

end Passing

/-- A clock by which nothing takes time but the sleep. -/
def SessionClock.exact (profile : VerificationProfile) : SessionClock profile where
  start := 0
  head := fun n => seconds (n * profile.evaluationIntervalSeconds)
  sampled := fun n => seconds (n * profile.evaluationIntervalSeconds)
  ended := fun n => seconds (n * profile.evaluationIntervalSeconds)
  start_le := by simp [seconds]
  head_le := fun n => Int.le_refl _
  slept := by
    intro n
    rw [Int.natCast_add, Int.add_mul]
    unfold seconds
    omega
  head_ended := fun n => Int.le_refl _
  sampled_ended := by
    intro n
    rw [Int.natCast_add, Int.add_mul]
    unfold seconds
    omega

/-- A sample that is ready and passes. -/
def VerificationProfile.passing (profile : VerificationProfile) : EvaluationSample :=
  { readinessConsecutiveSuccesses := profile.requiredReadiness.toNat, allPassed := true }

/-- **The shortest session that passes.**  It takes the samples that are needed, at the exact
interval, if there is time for them. -/
theorem exact_session (profile : VerificationProfile)
    (htime : (profile.samplesNeeded - 1) * profile.evaluationIntervalSeconds <
      profile.maxVerificationDurationSeconds) {s : VerificationSession}
    (hs : verificationLoop profile (SessionClock.exact profile) (fun _ _ _ => profile.passing)
      0 {} = s) :
    s.stabilized profile = true ∧ s.samples.length = profile.samplesNeeded ∧
      closingStreak s.samples = profile.samplesNeeded := by
  have hpos : 1 ≤ profile.samplesNeeded :=
    Nat.le_trans profile.samples_pos (Nat.le_max_left _ _)
  have hC : ∀ sample ∈ s.samples, profile.ready sample = true ∧ sample.allPassed = true := by
    rw [← hs]
    refine forall_samples_verificationLoop (fun _ _ _ => ⟨?_, rfl⟩) 0 {} (by simp)
    exact decide_eq_true (Int.self_le_toNat profile.requiredReadiness)
  have h : Concluded profile (SessionClock.exact profile) (fun _ _ _ => profile.passing) s := by
    rw [← hs]
    exact concluded_verificationLoop 0 {} underway_init
  obtain ⟨hhealthy, hclosing⟩ := streak_of_passing hC
  -- the first so many samples make the target stable when they are as many as needed
  have hstable : ∀ i ≤ s.samples.length,
      (Stabilised profile (s.samples.take i) ↔ profile.samplesNeeded ≤ i) := by
    intro i hi
    have hC' : ∀ sample ∈ s.samples.take i,
        profile.ready sample = true ∧ sample.allPassed = true :=
      fun sample hmem => hC sample (List.mem_of_mem_take hmem)
    obtain ⟨htake, -⟩ := streak_of_passing hC'
    rw [stabilised_iff, htake, List.length_take_of_le hi, samplesNeeded_le_iff]
  have hlen : s.samples.length = profile.samplesNeeded := by
    have hdone : profile.samplesNeeded ≤ s.samples.length := by
      rcases h.reason with hst | hout
      · have hst' : Stabilised profile (s.samples.take s.samples.length) := by
          rw [List.take_length]
          exact hst
        exact (hstable _ (Nat.le_refl _)).mp hst'
      · by_contra hless
        have hle : s.samples.length ≤ profile.samplesNeeded - 1 := by omega
        have hmul := Nat.mul_le_mul_right profile.evaluationIntervalSeconds hle
        have hout' : seconds profile.maxVerificationDurationSeconds ≤
            seconds ((s.samples.length : Int) * profile.evaluationIntervalSeconds) - 0 := hout
        rw [← Int.natCast_mul] at hout'
        unfold seconds at hout'
        omega
    by_contra hne
    have hlast := h.unstable profile.samplesNeeded (by omega)
    exact hlast ((hstable profile.samplesNeeded hdone).mpr (Nat.le_refl _))
  refine ⟨h.tracks.stabilized_iff.mpr ?_, hlen, hclosing.trans hlen⟩
  have hall := (hstable _ (Nat.le_refl _)).mpr (Nat.le_of_eq hlen.symm)
  rw [List.take_length] at hall
  exact hall

/-! ### Which profiles keep real time -/

/-- What a session ends with passes if it is stable and the fault did not go away by itself. -/
theorem runVerification_passed (profile : VerificationProfile) (clock : SessionClock profile)
    (evaluateSample : Nat → Nat → Nat → EvaluationSample) (fault : FaultAttribution) :
    (runVerification profile clock evaluateSample fault).passed =
      ((verificationLoop profile clock evaluateSample 0 {}).stabilized profile &&
        (checkExternalClearance fault (clock.ended
          (verificationLoop profile clock evaluateSample 0 {}).samples.length)).isNone) := rfl

end SelfHealing
