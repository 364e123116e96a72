/-
The verification of a restart.

A session samples the health of the target until it has been healthy for long enough
without a break, or until its time is up.  The stabilization timer starts with the sample
that shows enough readiness successes in a row, which is counted itself, and any failed
check sets it back.

Seconds are whole numbers here.  The source keeps them as floats, but only ever adds the
interval to them, which is exact as long as the sums stay below 2^53.
-/
import Mathlib.Data.Rat.Defs
import SelfHealing.Formats

namespace SelfHealing

/-! ### Profiles, samples and verdicts -/

inductive CheckStatus
  | pass
  | fail
  | unknown
deriving DecidableEq, Repr

/-- A sample of all checks; of each check, its status. -/
structure EvaluationSample where
  readinessConsecutiveSuccesses : Nat
  allPassed : Bool
  healthScore : Rat := 0
  checks : List (String × CheckStatus) := []
deriving DecidableEq, Repr

/-- A profile, of which the model accepts no number of seconds or samples below one. -/
structure VerificationProfile where
  profileId : String
  version : String := "1.0"
  evaluationIntervalSeconds : Nat := 15
  stabilizationWindowSeconds : Nat := 90
  minConsecutivePassingSamples : Nat := 7
  maxVerificationDurationSeconds : Nat := 300
  /-- `required_consecutive_successes` of the readiness requirements. -/
  requiredConsecutiveSuccesses : Option Int := none
  interval_pos : 1 ≤ evaluationIntervalSeconds := by decide
  window_pos : 1 ≤ stabilizationWindowSeconds := by decide
  samples_pos : 1 ≤ minConsecutivePassingSamples := by decide
  duration_pos : 1 ≤ maxVerificationDurationSeconds := by decide

structure VerificationVerdict where
  passed : Bool
  status : String
  attribution : RecoveryAttribution
  profileId : String
  profileVersion : String
  windowStart : Int
  windowEnd : Int
  totalEvaluations : Nat
  consecutiveHealthyEvaluations : Nat
  elapsedHealthySeconds : Nat
  warmUpDuration : Option Int
  stabilizationResets : Nat
  healthScore : Rat
  checks : List (String × CheckStatus)
  samples : List EvaluationSample
  failureReason : Option String
deriving DecidableEq, Repr

/-! ### The loop -/

/-- What the clock shows in a session: when it starts, at each head of the loop, after each
sample, and at the end, by the number of samples.  It does not go back, and the sleep between two
samples takes at least the interval. -/
structure SessionClock (profile : VerificationProfile) where
  start : Int
  head : Nat → Int
  sampled : Nat → Int
  ended : Nat → Int
  start_le : start ≤ head 0
  head_le : ∀ n, head n ≤ sampled n
  slept : ∀ n, sampled n + seconds profile.evaluationIntervalSeconds ≤ head (n + 1)
  head_ended : ∀ n, head n ≤ ended n
  sampled_ended : ∀ n, sampled n ≤ ended (n + 1)

/-- The local variables of `run_verification`. -/
structure VerificationSession where
  samples : List EvaluationSample := []
  warmUpDuration : Option Int := none
  readinessConsecutiveSuccesses : Nat := 0
  prerequisiteSatisfied : Bool := false
  elapsedHealthySeconds : Nat := 0
  consecutiveHealthyEvaluations : Nat := 0
  stabilizationResets : Nat := 0
deriving DecidableEq, Repr

namespace VerificationProfile

variable (profile : VerificationProfile)

def requiredReadiness : Int := profile.requiredConsecutiveSuccesses.getD 3

/-- The sample shows as many readiness successes in a row as are required. -/
def ready (sample : EvaluationSample) : Bool :=
  decide (profile.requiredReadiness ≤ sample.readinessConsecutiveSuccesses)

end VerificationProfile

namespace VerificationSession

variable (profile : VerificationProfile)

/-- The target has been healthy for long enough. -/
def stabilized (s : VerificationSession) : Bool :=
  decide (profile.stabilizationWindowSeconds ≤ s.elapsedHealthySeconds) &&
    decide (profile.minConsecutivePassingSamples ≤ s.consecutiveHealthyEvaluations)

/-- Phase 1: the warm-up, which ends with the first sample that is ready. -/
def warmUp (sinceStart : Int) (sample : EvaluationSample) (s : VerificationSession) :
    VerificationSession :=
  if s.prerequisiteSatisfied then s
  else if profile.ready sample then
    { s with prerequisiteSatisfied := true, warmUpDuration := some sinceStart }
  else { s with elapsedHealthySeconds := 0, consecutiveHealthyEvaluations := 0 }

/-- Phase 2: the stabilization timer, once the warm-up is over. -/
def stabilize (sample : EvaluationSample) (s : VerificationSession) : VerificationSession :=
  if s.prerequisiteSatisfied then
    if sample.allPassed then
      { s with
        elapsedHealthySeconds := s.elapsedHealthySeconds + profile.evaluationIntervalSeconds
        consecutiveHealthyEvaluations := s.consecutiveHealthyEvaluations + 1 }
    else
      { s with
        stabilizationResets :=
          if 0 < s.elapsedHealthySeconds ∨ 0 < s.consecutiveHealthyEvaluations then
            s.stabilizationResets + 1
          else s.stabilizationResets
        elapsedHealthySeconds := 0
        consecutiveHealthyEvaluations := 0 }
  else s

/-- One sample, taken when `sinceStart` has passed. -/
def observe (sinceStart : Int) (sample : EvaluationSample) (s : VerificationSession) :
    VerificationSession :=
  let s := { s with
    samples := s.samples ++ [sample]
    readinessConsecutiveSuccesses := sample.readinessConsecutiveSuccesses }
  (s.warmUp profile sinceStart sample).stabilize profile sample

/-- The loop is left after this sample. -/
def breaks (sample : EvaluationSample) (s : VerificationSession) : Bool :=
  s.prerequisiteSatisfied && sample.allPassed && s.stabilized profile

end VerificationSession

section Run

variable (profile : VerificationProfile) (clock : SessionClock profile)
  (evaluateSample : Nat → Nat → Nat → EvaluationSample)

/-- At the head of the loop for the `n`-th time, the session has lasted too long. -/
def SessionClock.timedOut (n : Nat) : Prop :=
  seconds profile.maxVerificationDurationSeconds ≤ clock.head n - clock.start

instance (n : Nat) : Decidable (clock.timedOut profile n) :=
  inferInstanceAs (Decidable (_ ≤ _))

/-- The evaluator is given the number of the sample, the seconds of health so far, and the
readiness successes in a row. -/
def verificationLoop (n : Nat) (s : VerificationSession) : VerificationSession :=
  if clock.timedOut profile n then s
  else
    let sample := evaluateSample n s.elapsedHealthySeconds s.readinessConsecutiveSuccesses
    let s := s.observe profile (clock.sampled n - clock.start) sample
    if s.breaks profile sample then s
    else verificationLoop (n + 1) s
termination_by
  (clock.start + seconds profile.maxVerificationDurationSeconds - clock.head n).toNat
decreasing_by
  rename_i hgo _
  have hhead := clock.head_le n
  have hslept := clock.slept n
  have hpos := profile.interval_pos
  unfold SessionClock.timedOut at hgo
  unfold seconds at hslept hgo ⊢
  omega

/-- What a fault status provider does: it raises, or it returns a value. -/
inductive FaultStatusAnswer
  | raised (text : String)
  | returned (value : Data)

/-- The status that an answer tells of: its own, or else that of its record. -/
def faultStatus (res : DataDict) : Data :=
  let status := res.getOr "status" dataNull
  if truthy status then status
  else
    match dictOf (res.getOr "record" (.map [])) with
    | some record => record.getOr "status" dataNull
    | none => dataNull

/-- What is made of an exception in the lookup. -/
def lookupFailed (required : Bool) : Option String :=
  if required then some "Fault attribution unavailable; recovery cannot be confirmed" else none

/-- What is said of a fault that has gone away. -/
def clearedText (res : DataDict) (st : String) : String :=
  let clearedAt :=
    match dictOf (res.getOr "record" (.map [])) with
    | some record => dataStr (record.getOr "cleared_at" dataNull)
    | none => "None"
  s!"Fault status is '{st}' (cleared_at={clearedAt})"

/-- What a dictionary says.  A list or a dictionary cannot be looked up among the two statuses, which
raises. -/
def dictClearance (required : Bool) (res : DataDict) : Option String :=
  match faultStatus res with
  | .atom (.text st) =>
      if st = "expired" ∨ st = "cleared" then some (clearedText res st) else none
  | .atom _ => none
  | .seq _ | .map _ => lookupFailed required

/-- The second half of `_check_external_clearance`: what the provider says. -/
def FaultStatusAnswer.clearance (required : Bool) : FaultStatusAnswer → Option String
  | .raised _ => lookupFailed required
  | .returned (.map res) => dictClearance required res
  | .returned _ => none

/-- What is known of the fault that was injected. -/
structure FaultAttribution where
  scenarioId : Option String := none
  injectedAt : Option Int := none
  ttl : Option Int := none
  provider : Option (String → FaultStatusAnswer) := none
  required : Bool := false

def checkExternalClearance (fault : FaultAttribution) (windowEnd : Int) : Option String :=
  let expired := do
    let injectedAt ← fault.injectedAt
    let ttl ← fault.ttl
    let expiresAt := injectedAt + ttl
    if expiresAt ≤ windowEnd then
      some ("Injected fault TTL expired at " ++ isoformat expiresAt)
    else none
  match expired with
  | some text => some text
  | none => do
      let provider ← fault.provider
      let scenarioId ← fault.scenarioId.filter (· ≠ "")
      (provider scenarioId).clearance fault.required

def runVerification (fault : FaultAttribution) : VerificationVerdict :=
  let s := verificationLoop profile clock evaluateSample 0 {}
  let windowEnd := clock.ended s.samples.length
  let passed := s.stabilized profile
  let target := profile.stabilizationWindowSeconds
  let achieved := s.elapsedHealthySeconds
  let count := s.consecutiveHealthyEvaluations
  let needed := profile.minConsecutivePassingSamples
  let clearance := checkExternalClearance fault windowEnd
  { passed := passed && clearance.isNone
    status :=
      if clearance.isSome then "EXTERNALLY_RECOVERED"
      else if passed then "RESOLVED"
      else "VERIFICATION_FAILED"
    attribution := if clearance.isSome then .externallyRecovered else .agentHealed
    profileId := profile.profileId
    profileVersion := profile.version
    windowStart := clock.start
    windowEnd := windowEnd
    totalEvaluations := s.samples.length
    consecutiveHealthyEvaluations := count
    elapsedHealthySeconds := achieved
    warmUpDuration := s.warmUpDuration
    stabilizationResets := s.stabilizationResets
    healthScore := (s.samples.getLast?.map EvaluationSample.healthScore).getD 0
    checks := (s.samples.getLast?.map EvaluationSample.checks).getD []
    samples := s.samples
    failureReason :=
      match clearance with
      | some text =>
          some (s!"Fault expired or cleared externally before verification completed ({text}). " ++
            "Recovery cannot be attributed to agent mutation.")
      | none =>
          if passed then none
          else some (s!"Verification timed out or failed to maintain {target}.0s continuous " ++
            s!"health. Achieved {achieved}.0s ({count}/{needed} samples).") }

end Run

end SelfHealing
