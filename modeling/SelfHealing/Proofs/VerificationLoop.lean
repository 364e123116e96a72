/-
What a verification session decides.

The loop keeps five counters, each updated in a branch of its own.  What they amount to can
be read off the samples alone: those from the first ready one on, newest first.  `Tracks`
says so, one sample keeps it, and the whole loop therefore stops exactly where the
description of a stable target says it does.

The samples are not any samples, but those that the evaluator returns, and two of the counters
are handed to it each time.  Since the counters can be read off the samples, so can what the
evaluator was asked: `Sampled` gives every sample as its answer to what the samples before it
amount to.

The induction is on the loop itself.  `Underway` is what holds at its head, and `Concluded` is
what is left of it where the loop ends, at a break or with the time up.
-/
import SelfHealing.Verification

namespace SelfHealing

/-! ### What is counted -/

section Samples

variable (profile : VerificationProfile)

/-- The samples from the first ready one on, newest first. -/
def observed (samples : List EvaluationSample) : List EvaluationSample :=
  (samples.dropWhile fun sample => !profile.ready sample).reverse

/-- How many of the newest samples have passed without a break. -/
def healthyStreak (samples : List EvaluationSample) : Nat :=
  ((observed profile samples).takeWhile EvaluationSample.allPassed).length

/-- How many streaks of samples that passed were broken by a later one: each where a sample that
passed is followed by one that did not.  The samples are given newest first. -/
def brokenStreaks : List EvaluationSample → Nat
  | newer :: older :: rest =>
      (if older.allPassed && !newer.allPassed then 1 else 0) + brokenStreaks (older :: rest)
  | _ => 0

/-- The readiness successes in a row that the newest sample shows. -/
def readinessSoFar (samples : List EvaluationSample) : Nat :=
  (samples.getLast?.map EvaluationSample.readinessConsecutiveSuccesses).getD 0

/-- Every sample is what the evaluator has returned for its number, for the seconds of health that
the samples before it amount to, and for the readiness that they show. -/
def Sampled (evaluateSample : Nat → Nat → Nat → EvaluationSample)
    (samples : List EvaluationSample) : Prop :=
  ∀ i < samples.length, samples[i]? = some (evaluateSample i
    (healthyStreak profile (samples.take i) * profile.evaluationIntervalSeconds)
    (readinessSoFar (samples.take i)))

/-- The last `k` samples, all from the first ready one on, have passed, for enough samples and
enough seconds. -/
def Stabilised (samples : List EvaluationSample) : Prop :=
  ∃ k, profile.minConsecutivePassingSamples ≤ k ∧
    profile.stabilizationWindowSeconds ≤ k * profile.evaluationIntervalSeconds ∧
    k ≤ (observed profile samples).length ∧
    ∀ sample ∈ (observed profile samples).take k, sample.allPassed = true

end Samples

theorem take_passed_iff (l : List EvaluationSample) (k : Nat) :
    (k ≤ l.length ∧ ∀ sample ∈ l.take k, sample.allPassed = true) ↔
      k ≤ (l.takeWhile EvaluationSample.allPassed).length := by
  induction l generalizing k with
  | nil => simp
  | cons x rest ih =>
      cases k with
      | zero => simp
      | succ k =>
          by_cases hx : x.allPassed = true
          · rw [List.takeWhile_cons_of_pos hx]
            simp only [List.length_cons, List.take_succ_cons, List.mem_cons, forall_eq_or_imp, hx,
              true_and]
            rw [Nat.add_le_add_iff_right, ih, Nat.add_le_add_iff_right]
          · rw [List.takeWhile_cons_of_neg hx]
            simp [hx]

/-- The streak decides. -/
theorem stabilised_iff (profile : VerificationProfile) (samples : List EvaluationSample) :
    Stabilised profile samples ↔
      profile.minConsecutivePassingSamples ≤ healthyStreak profile samples ∧
        profile.stabilizationWindowSeconds ≤
          healthyStreak profile samples * profile.evaluationIntervalSeconds := by
  constructor
  · intro h
    obtain ⟨k, hmin, hwindow, hlen, hpass⟩ := h
    have hk : k ≤ healthyStreak profile samples := (take_passed_iff _ k).mp ⟨hlen, hpass⟩
    exact ⟨by omega, Nat.le_trans hwindow (Nat.mul_le_mul_right _ hk)⟩
  · intro h
    obtain ⟨hlen, hpass⟩ := (take_passed_iff (observed profile samples) _).mpr (Nat.le_refl _)
    exact ⟨healthyStreak profile samples, h.1, h.2, hlen, hpass⟩

/-! ### One more sample

There are four cases: before the first ready sample, at it, a pass after it and a failure after it.
The ready sample counts as the first of its streak already.  In each case the counters are those of
the longer list, and what the evaluator was asked next is read off them.
-/

section Snoc

variable {profile : VerificationProfile} {samples : List EvaluationSample}
  {sample : EvaluationSample}

theorem observed_snoc_warm (h : observed profile samples ≠ []) :
    observed profile (samples ++ [sample]) = sample :: observed profile samples := by
  unfold observed at h ⊢
  have hne : (samples.dropWhile fun sample => !profile.ready sample).isEmpty = false := by
    rw [List.isEmpty_eq_false_iff]
    intro hnil
    exact h (by rw [hnil, List.reverse_nil])
  rw [List.dropWhile_append, hne]
  simp

theorem observed_snoc_cold (h : observed profile samples = []) :
    observed profile (samples ++ [sample]) = if profile.ready sample then [sample] else [] := by
  unfold observed at h ⊢
  have hnil : samples.dropWhile (fun sample => !profile.ready sample) = [] := by
    rw [← List.reverse_eq_nil_iff]
    exact h
  rw [List.dropWhile_append, hnil]
  by_cases hr : profile.ready sample = true
  · simp [hr]
  · simp [hr]

end Snoc

/-- The counters say of the samples what they are meant to say. -/
structure Tracks (profile : VerificationProfile) (s : VerificationSession) : Prop where
  prerequisite : s.prerequisiteSatisfied = !(observed profile s.samples).isEmpty
  streak : s.consecutiveHealthyEvaluations = healthyStreak profile s.samples
  elapsed : s.elapsedHealthySeconds =
    healthyStreak profile s.samples * profile.evaluationIntervalSeconds
  resets : s.stabilizationResets = brokenStreaks (observed profile s.samples)

theorem tracks_init (profile : VerificationProfile) : Tracks profile {} := by
  refine ⟨?_, ?_, ?_, ?_⟩
  all_goals simp [observed, healthyStreak, brokenStreaks]

section Step

variable {profile : VerificationProfile} {s : VerificationSession} {sample : EvaluationSample}
  {since : Int}

@[simp] theorem samples_warmUp : (s.warmUp profile since sample).samples = s.samples := by
  unfold VerificationSession.warmUp
  split
  · rfl
  · split
    · rfl
    · rfl

@[simp] theorem samples_stabilize : (s.stabilize profile sample).samples = s.samples := by
  unfold VerificationSession.stabilize
  split
  · split
    · rfl
    · rfl
  · rfl

theorem samples_observe :
    (s.observe profile since sample).samples = s.samples ++ [sample] := by
  simp [VerificationSession.observe]

theorem readiness_warmUp :
    (s.warmUp profile since sample).readinessConsecutiveSuccesses =
      s.readinessConsecutiveSuccesses := by
  unfold VerificationSession.warmUp
  split
  · rfl
  · split
    · rfl
    · rfl

theorem readiness_stabilize :
    (s.stabilize profile sample).readinessConsecutiveSuccesses =
      s.readinessConsecutiveSuccesses := by
  unfold VerificationSession.stabilize
  split
  · split
    · rfl
    · rfl
  · rfl

theorem readiness_observe :
    (s.observe profile since sample).readinessConsecutiveSuccesses =
      readinessSoFar (s.samples ++ [sample]) := by
  unfold VerificationSession.observe readinessSoFar
  rw [readiness_stabilize, readiness_warmUp, List.getLast?_append_cons]
  rfl

/-- Whether a streak is under way is seen from the newest sample. -/
theorem streak_pos_iff {x : EvaluationSample} {rest : List EvaluationSample} :
    0 < ((x :: rest).takeWhile EvaluationSample.allPassed).length ↔ x.allPassed = true := by
  by_cases hx : x.allPassed = true
  · simp [List.takeWhile_cons_of_pos hx, hx]
  · simp [List.takeWhile_cons_of_neg hx, hx]

/-- A sample after the first ready one. -/
theorem Tracks.observe_warm (h : Tracks profile s) (hwarm : observed profile s.samples ≠ []) :
    Tracks profile (s.observe profile since sample) := by
  have hpre : s.prerequisiteSatisfied = true := by
    rw [h.prerequisite]
    simpa using hwarm
  have hpos := profile.interval_pos
  obtain ⟨x, rest, hobs⟩ := List.exists_cons_of_ne_nil hwarm
  have hstreak : healthyStreak profile s.samples =
      ((x :: rest).takeWhile EvaluationSample.allPassed).length := by
    unfold healthyStreak
    rw [hobs]
  by_cases hpass : sample.allPassed = true
  · have heq : s.observe profile since sample =
        { s with
          samples := s.samples ++ [sample]
          readinessConsecutiveSuccesses := sample.readinessConsecutiveSuccesses
          elapsedHealthySeconds := s.elapsedHealthySeconds + profile.evaluationIntervalSeconds
          consecutiveHealthyEvaluations := s.consecutiveHealthyEvaluations + 1 } := by
      simp [VerificationSession.observe, VerificationSession.warmUp,
        VerificationSession.stabilize, hpre, hpass]
    have hnew : healthyStreak profile (s.samples ++ [sample]) =
        healthyStreak profile s.samples + 1 := by
      unfold healthyStreak
      rw [observed_snoc_warm hwarm, List.takeWhile_cons_of_pos hpass, List.length_cons]
    rw [heq]
    refine ⟨?_, ?_, ?_, ?_⟩
    · show s.prerequisiteSatisfied = _
      rw [hpre, observed_snoc_warm hwarm]
      rfl
    · show s.consecutiveHealthyEvaluations + 1 = _
      rw [hnew, h.streak]
    · show s.elapsedHealthySeconds + profile.evaluationIntervalSeconds = _
      rw [hnew, h.elapsed, Nat.succ_mul]
    · show s.stabilizationResets = _
      rw [observed_snoc_warm hwarm, h.resets, hobs]
      simp [brokenStreaks, hpass]
  · have heq : s.observe profile since sample =
        { s with
          samples := s.samples ++ [sample]
          readinessConsecutiveSuccesses := sample.readinessConsecutiveSuccesses
          stabilizationResets :=
            if 0 < s.elapsedHealthySeconds ∨ 0 < s.consecutiveHealthyEvaluations then
              s.stabilizationResets + 1
            else s.stabilizationResets
          elapsedHealthySeconds := 0
          consecutiveHealthyEvaluations := 0 } := by
      simp [VerificationSession.observe, VerificationSession.warmUp,
        VerificationSession.stabilize, hpre, hpass]
    have hnew : healthyStreak profile (s.samples ++ [sample]) = 0 := by
      unfold healthyStreak
      rw [observed_snoc_warm hwarm, List.takeWhile_cons_of_neg hpass, List.length_nil]
    rw [heq]
    refine ⟨?_, ?_, ?_, ?_⟩
    · show s.prerequisiteSatisfied = _
      rw [hpre, observed_snoc_warm hwarm]
      rfl
    · show 0 = _
      rw [hnew]
    · show 0 = _
      rw [hnew, Nat.zero_mul]
    · show (if 0 < s.elapsedHealthySeconds ∨ 0 < s.consecutiveHealthyEvaluations then
          s.stabilizationResets + 1 else s.stabilizationResets) = _
      rw [observed_snoc_warm hwarm, hobs, brokenStreaks, ← hobs, ← h.resets]
      by_cases hx : x.allPassed = true
      · have hgo : 0 < s.consecutiveHealthyEvaluations := by
          rw [h.streak, hstreak]
          exact streak_pos_iff.mpr hx
        rw [if_pos (Or.inr hgo)]
        simp only [hx, hpass, Bool.not_false, Bool.and_self, if_true]
        omega
      · have hzero : healthyStreak profile s.samples = 0 := by
          rw [hstreak, List.takeWhile_cons_of_neg hx, List.length_nil]
        have hstop : ¬ (0 < s.elapsedHealthySeconds ∨ 0 < s.consecutiveHealthyEvaluations) := by
          rw [h.elapsed, h.streak, hzero]
          simp
        rw [if_neg hstop]
        simp [hx]

/-- A sample of the warm-up, or the one that ends it. -/
theorem Tracks.observe_cold (h : Tracks profile s) (hcold : observed profile s.samples = []) :
    Tracks profile (s.observe profile since sample) := by
  have hpre : s.prerequisiteSatisfied = false := by
    rw [h.prerequisite, hcold]
    rfl
  have hstreak : healthyStreak profile s.samples = 0 := by
    unfold healthyStreak
    rw [hcold]
    rfl
  have hcount : s.consecutiveHealthyEvaluations = 0 := by rw [h.streak, hstreak]
  have helapsed : s.elapsedHealthySeconds = 0 := by rw [h.elapsed, hstreak, Nat.zero_mul]
  have hresets : s.stabilizationResets = 0 := by
    rw [h.resets, hcold]
    rfl
  by_cases hready : profile.ready sample = true
  · have hnew : observed profile (s.samples ++ [sample]) = [sample] := by
      rw [observed_snoc_cold hcold, if_pos hready]
    by_cases hpass : sample.allPassed = true
    · refine ⟨?_, ?_, ?_, ?_⟩
      all_goals
        simp [VerificationSession.observe, VerificationSession.warmUp,
          VerificationSession.stabilize, hpre, hready, hpass, healthyStreak, hnew, brokenStreaks,
          hcount, helapsed, hresets]
    · refine ⟨?_, ?_, ?_, ?_⟩
      all_goals
        simp [VerificationSession.observe, VerificationSession.warmUp,
          VerificationSession.stabilize, hpre, hready, hpass, healthyStreak, hnew, brokenStreaks,
          hcount, helapsed, hresets]
  · have hnew : observed profile (s.samples ++ [sample]) = [] := by
      rw [observed_snoc_cold hcold, if_neg hready]
    refine ⟨?_, ?_, ?_, ?_⟩
    all_goals
      simp [VerificationSession.observe, VerificationSession.warmUp,
        VerificationSession.stabilize, hpre, hready, healthyStreak, hnew, brokenStreaks, hresets]

/-- **One sample keeps the counters true.** -/
theorem Tracks.observe (h : Tracks profile s) :
    Tracks profile (s.observe profile since sample) := by
  by_cases hcold : observed profile s.samples = []
  · exact h.observe_cold hcold
  · exact h.observe_warm hcold

theorem Tracks.stabilized_iff (h : Tracks profile s) :
    s.stabilized profile = true ↔ Stabilised profile s.samples := by
  rw [stabilised_iff]
  unfold VerificationSession.stabilized
  rw [h.elapsed, h.streak]
  simp only [Bool.and_eq_true, decide_eq_true_eq]
  exact And.comm

/-- A target that is stable has just passed, after its warm-up. -/
theorem Stabilised.passed {samples : List EvaluationSample}
    (h : Stabilised profile (samples ++ [sample])) :
    observed profile (samples ++ [sample]) ≠ [] ∧ sample.allPassed = true := by
  obtain ⟨k, hmin, -, hlen, hpass⟩ := h
  have hk : 1 ≤ k := Nat.le_trans profile.samples_pos hmin
  have hhead : ∃ rest, observed profile (samples ++ [sample]) = sample :: rest := by
    by_cases hcold : observed profile samples = []
    · rw [observed_snoc_cold hcold] at hlen ⊢
      by_cases hready : profile.ready sample = true
      · exact ⟨[], by rw [if_pos hready]⟩
      · rw [if_neg hready] at hlen
        simp only [List.length_nil] at hlen
        omega
    · exact ⟨_, observed_snoc_warm hcold⟩
  obtain ⟨rest, hrest⟩ := hhead
  rw [hrest] at hpass ⊢
  refine ⟨by simp, hpass sample ?_⟩
  obtain ⟨j, rfl⟩ : ∃ j, k = j + 1 := ⟨k - 1, by omega⟩
  simp

/-- **The loop is left at a sample that makes the target stable, and at no other.** -/
theorem Tracks.breaks_iff (h : Tracks profile s) :
    (s.observe profile since sample).breaks profile sample = true ↔
      Stabilised profile (s.observe profile since sample).samples := by
  have hnew : Tracks profile (s.observe profile since sample) := h.observe
  unfold VerificationSession.breaks
  rw [Bool.and_eq_true, Bool.and_eq_true, hnew.stabilized_iff]
  constructor
  · intro hb
    exact hb.2
  · intro hst
    refine ⟨?_, hst⟩
    rw [hnew.prerequisite]
    rw [samples_observe] at hst ⊢
    obtain ⟨hne, hpass⟩ := hst.passed
    exact ⟨by simpa using hne, hpass⟩

end Step

/-! ### The loop -/

/-- The session has gone through `n` samples without an end. -/
structure Underway (profile : VerificationProfile) (clock : SessionClock profile)
    (evaluateSample : Nat → Nat → Nat → EvaluationSample) (n : Nat)
    (s : VerificationSession) : Prop where
  tracks : Tracks profile s
  readiness : s.readinessConsecutiveSuccesses = readinessSoFar s.samples
  sampled : Sampled profile evaluateSample s.samples
  length : s.samples.length = n
  inTime : ∀ i < n, ¬ clock.timedOut profile i
  unstable : ∀ i ≤ n, ¬ Stabilised profile (s.samples.take i)

/-- The session is over. -/
structure Concluded (profile : VerificationProfile) (clock : SessionClock profile)
    (evaluateSample : Nat → Nat → Nat → EvaluationSample) (s : VerificationSession) : Prop where
  tracks : Tracks profile s
  sampled : Sampled profile evaluateSample s.samples
  inTime : ∀ i < s.samples.length, ¬ clock.timedOut profile i
  unstable : ∀ i < s.samples.length, ¬ Stabilised profile (s.samples.take i)
  reason : Stabilised profile s.samples ∨ clock.timedOut profile s.samples.length

section Loop

variable {profile : VerificationProfile} {clock : SessionClock profile}
  {evaluateSample : Nat → Nat → Nat → EvaluationSample}

theorem not_stabilised_nil : ¬ Stabilised profile [] := by
  intro h
  obtain ⟨k, hmin, -, hlen, -⟩ := h
  have hpos := profile.samples_pos
  have hzero : (observed profile []).length = 0 := rfl
  omega

theorem underway_init : Underway profile clock evaluateSample 0 {} := by
  refine ⟨tracks_init profile, rfl, ?_, rfl, by omega, ?_⟩
  · intro i hi
    exact absurd hi (Nat.not_lt_zero i)
  · intro i hi
    rw [List.take_nil]
    exact not_stabilised_nil

theorem take_snoc_of_le {samples : List EvaluationSample} {sample : EvaluationSample} {i : Nat}
    (h : i ≤ samples.length) : (samples ++ [sample]).take i = samples.take i := by
  rw [List.take_append_of_le_length h]

/-- The evaluator is asked for one more sample. -/
theorem Sampled.snoc {samples : List EvaluationSample} {sample : EvaluationSample}
    (h : Sampled profile evaluateSample samples)
    (hsample : sample = evaluateSample samples.length
      (healthyStreak profile samples * profile.evaluationIntervalSeconds)
      (readinessSoFar samples)) :
    Sampled profile evaluateSample (samples ++ [sample]) := by
  intro i hi
  rw [List.length_append, List.length_singleton] at hi
  rw [take_snoc_of_le (by omega)]
  by_cases hlast : i = samples.length
  · rw [hlast, List.take_length, List.getElem?_concat_length, hsample]
  · rw [List.getElem?_append_left (by omega)]
    exact h i (by omega)

/-- The loop asks with its counters, which are what the samples amount to. -/
theorem Underway.sampled_observe {n : Nat} {s : VerificationSession} {since : Int}
    (h : Underway profile clock evaluateSample n s) :
    Sampled profile evaluateSample (s.observe profile since
      (evaluateSample n s.elapsedHealthySeconds s.readinessConsecutiveSuccesses)).samples := by
  rw [samples_observe]
  refine h.sampled.snoc ?_
  rw [h.length, h.tracks.elapsed, h.readiness]

theorem concluded_verificationLoop (n : Nat) (s : VerificationSession)
    (h : Underway profile clock evaluateSample n s) :
    Concluded profile clock evaluateSample
      (verificationLoop profile clock evaluateSample n s) := by
  induction n, s using verificationLoop.induct profile clock evaluateSample with
  | case1 n s hout =>
      rw [verificationLoop, if_pos hout]
      refine ⟨h.tracks, h.sampled, ?_, ?_, Or.inr ?_⟩
      · rw [h.length]
        exact h.inTime
      · rw [h.length]
        exact fun i hi => h.unstable i (Nat.le_of_lt hi)
      · rw [h.length]
        exact hout
  | case2 n s hgo sample s' hbreak =>
      rw [verificationLoop, if_neg hgo]
      simp only
      rw [if_pos hbreak]
      have hsamples : s'.samples = s.samples ++ [sample] := samples_observe
      have hlen : s'.samples.length = n + 1 := by
        rw [hsamples, List.length_append, h.length, List.length_singleton]
      refine ⟨h.tracks.observe, h.sampled_observe, ?_, ?_,
        Or.inl (h.tracks.breaks_iff.mp hbreak)⟩
      · intro i hi
        have hi' : i < n + 1 := hlen ▸ hi
        by_cases hin : i = n
        · rw [hin]
          exact hgo
        · exact h.inTime i (by omega)
      · intro i hi
        have hi' : i < n + 1 := hlen ▸ hi
        show ¬ Stabilised profile (s'.samples.take i)
        rw [hsamples, take_snoc_of_le (by rw [h.length]; omega)]
        exact h.unstable i (by omega)
  | case3 n s hgo sample s' hbreak ih =>
      rw [verificationLoop, if_neg hgo]
      simp only
      rw [if_neg hbreak]
      have hsamples : s'.samples = s.samples ++ [sample] := samples_observe
      have hlen : s'.samples.length = n + 1 := by
        rw [hsamples, List.length_append, h.length, List.length_singleton]
      have hreadiness : s'.readinessConsecutiveSuccesses = readinessSoFar s'.samples := by
        rw [hsamples]
        exact readiness_observe
      refine ih ⟨h.tracks.observe, hreadiness, h.sampled_observe, hlen, ?_, ?_⟩
      · intro i hi
        by_cases hin : i = n
        · rw [hin]
          exact hgo
        · exact h.inTime i (by omega)
      · intro i hi
        by_cases hin : i = n + 1
        · rw [hin, ← hlen, List.take_length]
          exact fun hst => hbreak (h.tracks.breaks_iff.mpr hst)
        · rw [hsamples, take_snoc_of_le (by rw [h.length]; omega)]
          exact h.unstable i (by omega)

end Loop

end SelfHealing
