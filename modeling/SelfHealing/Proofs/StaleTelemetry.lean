/-
Which samples that are too old the checks let pass.

The freshness of a result is the age of the youngest of its series, and the value that is compared
is that of the first.  The load and the requests are stopped by the freshness of their results, so
that an old first series passes beside a younger one; the errors and the latency are compared
whatever their age.

The ages are exact here, in microseconds from the sample to the time at which the response was
parsed.  What a check lets pass is taken from `Proofs/NonFiniteTelemetry.lean`; what is added is
where the age of the compared value is looked at, and where it is not.
-/
import SelfHealing.Proofs.NonFiniteTelemetry

namespace SelfHealing

open Floats

/-- When the response was parsed. -/
def PrometheusAnswer.parsedAt : PrometheusAnswer → Option Int
  | .response receivedAt _ _ => some receivedAt
  | .timeout | .connectError | .failed => none

/-- The age of the value that is compared, which is the latest of the first series. -/
def PrometheusAnswer.comparedAge (answer : PrometheusAnswer) : Option Int := do
  let now ← answer.parsedAt
  let sample ← (executeQuery answer).samples.head?
  let time ← sample.latestTimestamp
  pure (now - time)

section Checks

variable (profile : TelemetryProfile) (ready : Bool) (answer total errors : PrometheusAnswer)

/-- The value that is compared is older than the profile allows. -/
def PrometheusAnswer.TooOld : Prop :=
  ∃ age, answer.comparedAge = some age ∧ seconds profile.sampleFreshnessLimitSeconds < age

/-- The errors are divided by the requests. -/
def ComparesErrors : Prop :=
  ∃ t e, (executeQuery total).observation = some t ∧ (0.0 : Float) < t ∧
    (executeQuery errors).latestValue = some e

/-! ### The load -/

/-- What stops a load that is too old: that its whole result is, or that the load exceeds the
threshold or cannot be told. -/
def OldLoadStopped : Prop :=
  ready = true → profile.stale (executeQuery answer) = false → answer.TooOld profile →
    ∀ v maxSat cores, (executeQuery answer).observation = some v →
      profile.maxSaturation = .ok maxSat → profile.cpuBudgetCores = .ok cores →
        (cores == 0.0) = true ∨ maxSat < v / cores

theorem old_load_stopped_iff :
    (evaluateCpu profile ready (executeQuery answer) = .ok .pass → ¬ answer.TooOld profile) ↔
      OldLoadStopped profile ready answer := by
  constructor
  · intro hfresh hready hstale hold v maxSat cores hv hmax hcores
    by_contra hopen
    rw [not_or, Bool.not_eq_true] at hopen
    exact hfresh (evaluateCpu_pass_iff.mpr
      ⟨hready, hstale, maxSat, cores, v, hmax, hcores, hv, hopen.1, hopen.2⟩) hold
  · intro hstopped hpass hold
    obtain ⟨hready, hstale, maxSat, cores, v, hmax, hcores, hv, hzero, hlt⟩ :=
      evaluateCpu_pass_iff.mp hpass
    rcases hstopped hready hstale hold v maxSat cores hv hmax hcores with h | h
    · rw [hzero] at h
      cases h
    · exact hlt h

/-! ### The error rate

Two results are compared here, and the freshness of one of them is looked at.  The total is stopped
if even its youngest series is too old; the errors may be of any age, and count if the total is
positive and the query has succeeded.
-/

/-- The requests are too old, or the errors that are divided by them. -/
def OldTraffic : Prop :=
  total.TooOld profile ∨ ComparesErrors total errors ∧ errors.TooOld profile

/-- What stops an error rate of which a part is too old: that all requests are, that they are too
few, that the errors are not known, or that the limit does not let the rate pass. -/
def OldTrafficStopped : Prop :=
  ready = true → profile.stale (executeQuery total) = false → OldTraffic profile total errors →
    ∀ t least, (executeQuery total).observation = some t → profile.minRequests = .ok least →
      compareInt (t * 60.0) least ≠ some .lt → (executeQuery errors).status = .success →
        ¬ profile.errorLimit.Allows (errorRate t (executeQuery errors).latestValue)

theorem old_traffic_stopped_iff :
    (evaluateTrafficErrorRate profile ready (executeQuery total) (executeQuery errors) =
        .ok .pass → ¬ OldTraffic profile total errors) ↔
      OldTrafficStopped profile ready total errors := by
  constructor
  · intro hfresh hready hstale hold t least ht hleast hmany hsuccess hallows
    exact hfresh (evaluateTrafficErrorRate_pass_iff.mpr
      ⟨hready, hstale, least, t, hleast, ht, hmany, hsuccess, hallows⟩) hold
  · intro hstopped hpass hold
    obtain ⟨hready, hstale, least, t, hleast, ht, hmany, hsuccess, hallows⟩ :=
      evaluateTrafficErrorRate_pass_iff.mp hpass
    exact hstopped hready hstale hold t least ht hleast hmany hsuccess hallows

/-! ### The latency -/

/-- What stops a latency that is too old: that it exceeds the threshold, or that the threshold is
none.  Nothing asks for its age. -/
def OldLatencyStopped : Prop :=
  profile.maxP95LatencySeconds ≠ .null → ready = true → answer.TooOld profile →
    ∀ v, (executeQuery answer).observation = some v →
      ¬ (pyGreater v profile.maxP95LatencySeconds = .ok false ∧
        profile.maxP95LatencySeconds.observed = .ok ())

theorem old_latency_stopped_iff :
    (profile.maxP95LatencySeconds ≠ .null →
        evaluateLatency profile ready (executeQuery answer) = .pass → ¬ answer.TooOld profile) ↔
      OldLatencyStopped profile ready answer := by
  constructor
  · intro hfresh hasked hready hold v hv hwithin
    exact hfresh hasked
      (evaluateLatency_pass_iff.mpr (Or.inr ⟨hready, v, hv, hwithin⟩)) hold
  · intro hstopped hasked hpass hold
    rcases evaluateLatency_pass_iff.mp hpass with hnone | ⟨hready, v, hv, hwithin⟩
    · exact hasked hnone
    · exact hstopped hasked hready hold v hv hwithin

end Checks

/-! ### The three checks -/

section Sample

variable (profile : TelemetryProfile) (args : SampleArguments) (answers : TelemetryAnswers)

/-- What the checks that pass with a threshold have compared is as fresh as the profile asks. -/
structure StaleNeverPasses : Prop where
  cpu : evaluateCpu profile args.counterReady (executeQuery answers.cpu) = .ok .pass →
    ¬ answers.cpu.TooOld profile
  traffic : evaluateTrafficErrorRate profile args.counterReady (executeQuery answers.total)
      (executeQuery answers.errors) = .ok .pass →
    ¬ OldTraffic profile answers.total answers.errors
  latency : profile.maxP95LatencySeconds ≠ .null →
    evaluateLatency profile args.counterReady (executeQuery answers.latency) = .pass →
      ¬ answers.latency.TooOld profile

/-- **What is too old passes unless something else stops it.**  Whatever the profile says and
Prometheus answers, the checks that pass have compared nothing that is too old exactly when an old
load beside a younger series exceeds its threshold, an error rate with old requests beside a younger
series or with old errors is above its limit, and an old latency exceeds its threshold. -/
theorem stale_never_passes_iff :
    StaleNeverPasses profile args answers ↔
      OldLoadStopped profile args.counterReady answers.cpu ∧
        OldTrafficStopped profile args.counterReady answers.total answers.errors ∧
        OldLatencyStopped profile args.counterReady answers.latency := by
  constructor
  · rintro ⟨hcpu, htraffic, hlatency⟩
    exact ⟨(old_load_stopped_iff _ _ _).mp hcpu, (old_traffic_stopped_iff _ _ _ _).mp htraffic,
      (old_latency_stopped_iff _ _ _).mp hlatency⟩
  · rintro ⟨hcpu, htraffic, hlatency⟩
    exact ⟨(old_load_stopped_iff _ _ _).mpr hcpu, (old_traffic_stopped_iff _ _ _ _).mpr htraffic,
      (old_latency_stopped_iff _ _ _).mpr hlatency⟩

end Sample

/-- A series with one value, of so many seconds after the epoch. -/
def seriesAt (time : Int) (value : String) : Series :=
  { value := some (some (seconds time), .text value) }

/-- What is answered after a thousand seconds. -/
def answerOf (result : List Series) : PrometheusAnswer :=
  .response (seconds 1000) 100 (some ⟨some "success", result⟩)

/-- A load of a thousand seconds ago beside one of one second ago, and a latency of a thousand
seconds ago. -/
def oldAnswers : TelemetryAnswers where
  probe := .answered 200 50000
  cpu := answerOf [seriesAt 0 "0.1", seriesAt 999 "0.9"]
  total := answerOf [seriesAt 999 "10"]
  errors := answerOf [seriesAt 999 "0"]
  latency := answerOf [seriesAt 0 "0.05"]

def oldArguments : SampleArguments where
  now := seconds 1000
  containerState := some { containerId := "0123456789ab", status := "running" }

/-- Under the default profile, which allows thirty seconds, the sample passes. -/
theorem old_sample_passes :
    (evaluateSample defaultTelemetryProfile oldArguments oldAnswers).toOption.map
        TelemetrySample.allPassed = some true ∧
      oldAnswers.cpu.TooOld defaultTelemetryProfile ∧
      oldAnswers.latency.TooOld defaultTelemetryProfile ∧
      ¬ StaleNeverPasses defaultTelemetryProfile oldArguments oldAnswers := by
  have hcpu : oldAnswers.cpu.TooOld defaultTelemetryProfile :=
    ⟨seconds 1000, by decide +kernel, by decide⟩
  have hlatency : oldAnswers.latency.TooOld defaultTelemetryProfile :=
    ⟨seconds 1000, by decide +kernel, by decide⟩
  have hpassed : evaluateLatency defaultTelemetryProfile oldArguments.counterReady
      (executeQuery oldAnswers.latency) = .pass := by decide +kernel
  refine ⟨by decide +kernel, hcpu, hlatency, fun hnever => ?_⟩
  exact hnever.latency (fun h => by cases h) hpassed hlatency

end SelfHealing
