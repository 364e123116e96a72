/-
Which values that are not finite a sample lets pass.

A check passes unless its comparison holds, and no comparison with `NaN` does.  So a check is safe
from such a value only where something else stops it: a threshold that is no number, a budget of
zero, a window that holds too few requests.  Infinities are found where the comparison is with a
threshold that they exceed, and a quotient by an infinity is a zero or not a number.

For each check it is first said when it passes, and then, for the values that are not finite, what
that comes to.

Thresholds come from a profile and may be anything that a number can be read from, and texts are
read by Python's own rules.  So a threshold may be `NaN` too, and a check with it passes.
-/
import Mathlib
import SelfHealing.Telemetry

namespace SelfHealing

open Floats

/-! ### Thresholds

A threshold is usable if a float can be made of it.  One that is not makes the check raise, which is
no pass.
-/

/-- A threshold that floats can be compared with, and that an observation can hold. -/
def Scalar.usable : Scalar → Bool
  | .bool _ | .float _ => true
  | .int n => (floatOfInt n).toBool
  | .null | .text _ | .container _ => false

/-- A threshold that the positive infinity exceeds. -/
def Scalar.exceeded : Scalar → Bool
  | .float y => decide (y < infinity .positive)
  | _ => true

variable {x x' : Float} {threshold : Scalar}

theorem observed_of_usable (h : threshold.usable = true) : threshold.observed = .ok () := by
  cases threshold with
  | int n =>
      simp only [Scalar.usable] at h
      cases hn : floatOfInt n with
      | ok y => simp only [Scalar.observed, hn]
      | error e =>
          rw [hn] at h
          cases h
  | null => cases h
  | text s => cases h
  | container empty => cases h
  | bool b => rfl
  | float y => rfl

/-- A comparison that does not hold lets pass what it is with, if the threshold is one. -/
theorem status_pass_iff {comparison : Except PyExc Bool} :
    (do
      let outside ← comparison
      threshold.observed
      return withinThreshold outside) = (.ok .pass : Except PyExc CheckStatus) ↔
      comparison = .ok false ∧ threshold.observed = .ok () := by
  cases comparison with
  | error e => simp [bind, Except.bind]
  | ok outside =>
      cases hobserved : threshold.observed with
      | error e => simp [bind, Except.bind]
      | ok u => cases outside <;> simp [bind, Except.bind, pure, Except.pure, withinThreshold]

theorem pyGreater_congr (h : shape x = shape x') :
    pyGreater x threshold = pyGreater x' threshold := by
  unfold pyGreater
  simp only [compareInt_congr h, lt_congr_right h]

theorem pyLess_congr (h : shape x = shape x') : pyLess x threshold = pyLess x' threshold := by
  unfold pyLess
  simp only [compareInt_congr h, lt_congr_left h]

/-- A threshold of integers can be observed if a float can hold it. -/
theorem observed_int_iff {n : Int} :
    (Scalar.int n).observed = .ok () ↔ (Scalar.int n).usable = true := by
  refine ⟨fun h => ?_, observed_of_usable⟩
  simp only [Scalar.observed] at h
  simp only [Scalar.usable]
  cases hn : floatOfInt n with
  | ok y => rfl
  | error e =>
      rw [hn] at h
      cases h

/-- What is above nothing passes under every threshold. -/
theorem pyGreater_false_iff (hint : ∀ n, compareInt x n ≠ some .gt) (hfloat : ∀ y, ¬ y < x) :
    (pyGreater x threshold = .ok false ∧ threshold.observed = .ok ()) ↔
      threshold.usable = true := by
  cases threshold with
  | null => simp [pyGreater, Scalar.usable]
  | text s => simp [pyGreater, Scalar.usable]
  | container empty => simp [pyGreater, Scalar.usable]
  | bool b => simp [pyGreater, Scalar.usable, Scalar.observed, hint]
  | float y => simp [pyGreater, Scalar.usable, Scalar.observed, hfloat]
  | int n => simp [pyGreater, hint, observed_int_iff]

/-- What is below nothing passes over every threshold. -/
theorem pyLess_false_iff (hint : ∀ n, compareInt x n ≠ some .lt) (hfloat : ∀ y, ¬ x < y) :
    (pyLess x threshold = .ok false ∧ threshold.observed = .ok ()) ↔
      threshold.usable = true := by
  cases threshold with
  | null => simp [pyLess, Scalar.usable]
  | text s => simp [pyLess, Scalar.usable]
  | container empty => simp [pyLess, Scalar.usable]
  | bool b => simp [pyLess, Scalar.usable, Scalar.observed, hint]
  | float y => simp [pyLess, Scalar.usable, Scalar.observed, hfloat]
  | int n => simp [pyLess, hint, observed_int_iff]

theorem nan_above_nothing (h : shape x = .notANumber) :
    (∀ n, compareInt x n ≠ some .gt) ∧ ∀ y, ¬ y < x := by
  refine ⟨fun n => ?_, fun y => not_nan_lt h⟩
  rw [compareInt_nan h]
  exact fun hn => by cases hn

theorem bot_above_nothing (h : shape x = .infinity .negative) :
    (∀ n, compareInt x n ≠ some .gt) ∧ ∀ y, ¬ y < x := by
  refine ⟨fun n => ?_, fun y => not_lt_bot h⟩
  rw [compareInt_bot h]
  exact fun hn => by cases hn

theorem nan_below_nothing (h : shape x = .notANumber) :
    (∀ n, compareInt x n ≠ some .lt) ∧ ∀ y, ¬ x < y := by
  refine ⟨fun n => ?_, fun y => not_lt_of_nan h⟩
  rw [compareInt_nan h]
  exact fun hn => by cases hn

theorem top_below_nothing (h : shape x = .infinity .positive) :
    (∀ n, compareInt x n ≠ some .lt) ∧ ∀ y, ¬ x < y := by
  refine ⟨fun n => ?_, fun y => not_top_lt h⟩
  rw [compareInt_top h]
  exact fun hn => by cases hn

/-- The positive infinity passes under a threshold only if it does not exceed it. -/
theorem pyGreater_top_iff (h : shape x = .infinity .positive) :
    (pyGreater x threshold = .ok false ∧ threshold.observed = .ok ()) ↔
      threshold.usable = true ∧ threshold.exceeded = false := by
  have htop : ∀ y, y < x ↔ y < infinity .positive :=
    fun y => lt_congr_right (h.trans (shape_infinity _).symm)
  cases threshold with
  | null => simp [pyGreater, Scalar.usable]
  | text s => simp [pyGreater, Scalar.usable]
  | container empty => simp [pyGreater, Scalar.usable]
  | bool b => simp [pyGreater, Scalar.exceeded, compareInt_top h]
  | float y => simp [pyGreater, Scalar.usable, Scalar.observed, Scalar.exceeded, htop]
  | int n => simp [pyGreater, Scalar.exceeded, compareInt_top h]

/-! ### Limits of the error rate -/

/-- The limit lets the error rate pass. -/
def ErrorLimit.Allows (limit : ErrorLimit) (errRate : Float) : Prop :=
  judgeErrorRate limit errRate = .ok .pass

/-- The threshold of the limit is one. -/
def ErrorLimit.usable : ErrorLimit → Bool
  | .baselineSuccessRateMin least => least.usable
  | .max5xxErrorRate most => most.usable
  | .maxErrorRate most => (pyFloat most).toBool

variable {limit : ErrorLimit}

theorem judgeErrorRate_congr (h : shape x = shape x') :
    judgeErrorRate limit x = judgeErrorRate limit x' := by
  have hsub : shape (1.0 - x) = shape (1.0 - x') := by rw [shape_sub, shape_sub, h]
  cases limit with
  | baselineSuccessRateMin least => simp only [judgeErrorRate, pyLess_congr hsub]
  | max5xxErrorRate most => simp only [judgeErrorRate, pyGreater_congr h]
  | maxErrorRate most => simp only [judgeErrorRate, lt_congr_right h]

/-- An error rate that nothing is below and that leaves a success rate above everything. -/
theorem allows_iff_usable (hint : ∀ n, compareInt x n ≠ some .gt) (hfloat : ∀ y, ¬ y < x)
    (hint' : ∀ n, compareInt (1.0 - x) n ≠ some .lt) (hfloat' : ∀ y, ¬ 1.0 - x < y) :
    limit.Allows x ↔ limit.usable = true := by
  unfold ErrorLimit.Allows
  cases limit with
  | baselineSuccessRateMin least =>
      simp only [judgeErrorRate, ErrorLimit.usable]
      rw [status_pass_iff, pyLess_false_iff hint' hfloat']
  | max5xxErrorRate most =>
      simp only [judgeErrorRate, ErrorLimit.usable]
      rw [status_pass_iff, pyGreater_false_iff hint hfloat]
  | maxErrorRate most =>
      simp only [judgeErrorRate, ErrorLimit.usable, hfloat, decide_false]
      cases pyFloat most with
      | ok y => simp [bind, Except.bind, pure, Except.pure, withinThreshold, Except.toBool]
      | error e => simp [bind, Except.bind, Except.toBool]

/-- `NaN` passes under every threshold. -/
theorem allows_nan (h : shape x = .notANumber) : limit.Allows x ↔ limit.usable = true :=
  allows_iff_usable (nan_above_nothing h).1 (nan_above_nothing h).2
    (nan_below_nothing (sub_nan h)).1 (nan_below_nothing (sub_nan h)).2

/-- So does the negative infinity, which leaves a success rate of infinity. -/
theorem allows_bot (h : shape x = .infinity .negative) : limit.Allows x ↔ limit.usable = true := by
  have hone : shape 1.0 = .finite .positive 4503599627370496 (-52) (by decide) := rfl
  have hsub : shape (1.0 - x) = .infinity .positive := finite_sub_infinity hone h
  exact allows_iff_usable (bot_above_nothing h).1 (bot_above_nothing h).2
    (top_below_nothing hsub).1 (top_below_nothing hsub).2

/-- The sign of an error rate of zero does not matter. -/
theorem allows_zero {sign : Float.Model.UnpackedFloat.Sign} (h : shape x = .zero sign) :
    limit.Allows x ↔ limit.Allows 0.0 := by
  have hone : shape 1.0 = .finite .positive 4503599627370496 (-52) (by decide) := rfl
  have hzero : shape 0.0 = .zero .positive := rfl
  have hsub : shape (1.0 - x) = shape (1.0 - 0.0) := by
    rw [finite_sub_zero hone h, finite_sub_zero hone hzero]
  have hlt : ∀ y, y < x ↔ y < 0.0 := fun y => lt_zero_congr h hzero
  have hint : ∀ n, compareInt x n = compareInt 0.0 n := by
    intro n
    rw [compareInt_zero h, compareInt_zero hzero]
  unfold ErrorLimit.Allows
  cases limit with
  | baselineSuccessRateMin least => simp only [judgeErrorRate, pyLess_congr hsub]
  | max5xxErrorRate most =>
      have hgreater : pyGreater x most = pyGreater 0.0 most := by
        unfold pyGreater
        simp only [hint, hlt]
      simp only [judgeErrorRate, hgreater]
  | maxErrorRate most => simp only [judgeErrorRate, hlt]

theorem allows_top (h : shape x = .infinity .positive) :
    limit.Allows x ↔ limit.Allows (infinity .positive) := by
  unfold ErrorLimit.Allows
  rw [judgeErrorRate_congr (h.trans (shape_infinity _).symm)]

/-! ### When a check passes

For each of the three checks there is an equation: its status is a pass if and only if what is said
on the right holds, and that is said of the value and the settings and not of the code.  From here
on the values that are not finite are put in, and what is left is arithmetic with them.
-/

section Checks

variable {profile : TelemetryProfile} {ready : Bool} {res errRes : MetricQueryResult}

theorem caught_pass_iff {status : Except PyExc CheckStatus} :
    caught status = .pass ↔ status = .ok .pass := by
  cases status with
  | ok status => simp [caught]
  | error e => simp [caught]

theorem withinThreshold_pass_iff {outside : Bool} :
    withinThreshold outside = .pass ↔ outside = false := by
  cases outside <;> simp [withinThreshold]

theorem evaluateCpu_pass_iff :
    evaluateCpu profile ready res = .ok .pass ↔
      ready = true ∧ profile.stale res = false ∧ ∃ maxSat cores v,
        profile.maxSaturation = .ok maxSat ∧ profile.cpuBudgetCores = .ok cores ∧
          res.observation = some v ∧ (cores == 0.0) = false ∧ ¬ maxSat < v / cores := by
  unfold evaluateCpu
  cases ready with
  | false => simp [pure, Except.pure]
  | true =>
      cases hmax : profile.maxSaturation with
      | error e => simp [bind, Except.bind]
      | ok maxSat =>
          cases hcores : profile.cpuBudgetCores with
          | error e => simp [bind, Except.bind]
          | ok cores =>
              cases hres : res.observation with
              | none => simp [bind, Except.bind, pure, Except.pure]
              | some v =>
                  by_cases hstale : profile.stale res = true
                  · simp [bind, Except.bind, pure, Except.pure, hstale]
                  · by_cases hzero : (cores == 0.0) = true
                    · simp [bind, Except.bind, pure, Except.pure, hstale, pyDiv, hzero, caught]
                    · simp [bind, Except.bind, pure, Except.pure, hstale, pyDiv, hzero,
                        caught, withinThreshold_pass_iff]

/-- The error rate of so many requests and so many errors. -/
def errorRate (t : Float) : Option Float → Float
  | none => 0.0
  | some e => if (0.0 : Float) < t then e / t else 0.0

/-- What is above zero can be divided by. -/
theorem pyDiv_pos {t : Float} (e : Float) (h : (0.0 : Float) < t) : pyDiv e t = .ok (e / t) := by
  have hne : ¬ (t == 0.0) = true := by
    intro hzero
    obtain ⟨sign, ht⟩ := beq_zero_iff.mp hzero
    rw [lt_zero_congr ht (show shape 0.0 = .zero .positive from rfl)] at h
    exact absurd h (by decide +kernel)
  unfold pyDiv
  rw [if_neg hne]

theorem evaluateTrafficErrorRate_pass_iff :
    evaluateTrafficErrorRate profile ready res errRes = .ok .pass ↔
      ready = true ∧ profile.stale res = false ∧ ∃ least t,
        profile.minRequests = .ok least ∧ res.observation = some t ∧
          compareInt (t * 60.0) least ≠ some .lt ∧ errRes.status = .success ∧
            profile.errorLimit.Allows (errorRate t errRes.latestValue) := by
  unfold evaluateTrafficErrorRate
  cases ready with
  | false => simp [pure, Except.pure]
  | true =>
      cases hleast : profile.minRequests with
      | error e => simp [bind, Except.bind]
      | ok least =>
          cases hres : res.observation with
          | none => simp [bind, Except.bind, pure, Except.pure]
          | some t =>
              by_cases hstale : profile.stale res = true
              · simp [bind, Except.bind, pure, Except.pure, hstale]
              · by_cases hfew : compareInt (t * 60.0) least = some .lt
                · simp [bind, Except.bind, pure, Except.pure, hstale, hfew]
                · by_cases herr : errRes.status = .success
                  · cases errRes.latestValue with
                    | none =>
                        simp [bind, Except.bind, pure, Except.pure, hstale, hfew, herr,
                          caught_pass_iff, ErrorLimit.Allows, errorRate]
                    | some e =>
                        by_cases hpos : (0.0 : Float) < t
                        · simp [bind, Except.bind, pure, Except.pure, hstale, hfew, herr,
                            caught_pass_iff, ErrorLimit.Allows, errorRate, hpos, pyDiv_pos e hpos]
                        · simp [bind, Except.bind, pure, Except.pure, hstale, hfew, herr,
                            caught_pass_iff, ErrorLimit.Allows, errorRate, hpos]
                  · simp [bind, Except.bind, pure, Except.pure, hstale, hfew, herr]

theorem evaluateLatency_pass_iff :
    evaluateLatency profile ready res = .pass ↔
      profile.maxP95LatencySeconds = .null ∨
        ready = true ∧ ∃ v, res.observation = some v ∧
          pyGreater v profile.maxP95LatencySeconds = .ok false ∧
            profile.maxP95LatencySeconds.observed = .ok () := by
  have hasked : ∀ maxLat : Scalar, maxLat ≠ .null →
      ((if ¬ ready then CheckStatus.unknown
        else
          match res.observation with
          | none => .unknown
          | some val =>
              caught (do
                let above ← pyGreater val maxLat
                maxLat.observed
                return withinThreshold above)) = .pass ↔
        maxLat = .null ∨ ready = true ∧ ∃ v, res.observation = some v ∧
          pyGreater v maxLat = .ok false ∧ maxLat.observed = .ok ()) := by
    intro maxLat hne
    cases ready with
    | false => simp [hne]
    | true =>
        cases res.observation with
        | none => simp [hne]
        | some v =>
            rw [if_neg (by simp)]
            simp only [caught_pass_iff, hne, false_or, true_and, Option.some.injEq,
              exists_eq_left']
            exact status_pass_iff
  unfold evaluateLatency
  cases hmax : profile.maxP95LatencySeconds with
  | null => simp
  | bool b => exact hasked _ (fun h => by cases h)
  | int n => exact hasked _ (fun h => by cases h)
  | float y => exact hasked _ (fun h => by cases h)
  | text s => exact hasked _ (fun h => by cases h)
  | container empty => exact hasked _ (fun h => by cases h)

/-! ### The load -/

/-- The latest value of a result is not finite. -/
def MetricQueryResult.NonFinite (res : MetricQueryResult) : Prop :=
  ∃ v, res.observation = some v ∧ v.isFinite = false

/-- A load that is not finite exceeds a threshold only as an infinity of the sign of a finite
budget, and only a threshold below infinity. -/
theorem lt_load_iff {maxSat cores v : Float} (hv : v.isFinite = false)
    (hcores : (cores == 0.0) = false) :
    maxSat < v / cores ↔
      (∃ sign m e hm, shape v = .infinity sign ∧ shape cores = .finite sign m e hm) ∧
        maxSat < infinity .positive := by
  rcases shape_of_not_finite hv with hnan | ⟨sign, hinf⟩
  · refine ⟨fun h => absurd h (not_nan_lt (div_of_nan hnan)), ?_⟩
    rintro ⟨⟨sign, m, e, hm, hsign, -⟩, -⟩
    rw [hnan] at hsign
    cases hsign
  · cases hc : shape cores with
    | notANumber =>
        refine ⟨fun h => absurd h (not_nan_lt (div_nan hc)), ?_⟩
        rintro ⟨⟨sign, m, e, hm, -, hfinite⟩, -⟩
        cases hfinite
    | infinity sign' =>
        refine ⟨fun h => absurd h (not_nan_lt (div_infinities hinf hc)), ?_⟩
        rintro ⟨⟨sign, m, e, hm, -, hfinite⟩, -⟩
        cases hfinite
    | zero sign' =>
        rw [beq_zero_iff.mpr ⟨sign', hc⟩] at hcores
        cases hcores
    | finite sign' m e hm =>
        have hquotient := infinity_div hinf hc
        by_cases hsame : sign = sign'
        · subst hsame
          have htop : shape (v / cores) = .infinity .positive := by
            rw [hquotient]
            cases sign <;> rfl
          rw [lt_congr_right (htop.trans (shape_infinity _).symm)]
          exact ⟨fun h => ⟨⟨sign, m, e, hm, hinf, rfl⟩, h⟩, fun h => h.2⟩
        · have hbot : shape (v / cores) = .infinity .negative := by
            rw [hquotient]
            cases sign <;> cases sign' <;> first | rfl | exact absurd rfl hsame
          refine ⟨fun h => absurd h (not_lt_bot hbot), ?_⟩
          rintro ⟨⟨sign₁, m₁, e₁, hm₁, hinf₁, hfinite⟩, -⟩
          rw [hinf] at hinf₁
          cases hinf₁
          cases hfinite
          exact absurd rfl hsame

/-- What stops a load that is not finite: that the source does not come to the comparison, that the
budget is zero, or that the load exceeds the threshold. -/
def CpuStopped (profile : TelemetryProfile) (ready : Bool) (res : MetricQueryResult) : Prop :=
  ready = true → profile.stale res = false → ∀ v, res.observation = some v → v.isFinite = false →
    ∀ maxSat cores, profile.maxSaturation = .ok maxSat → profile.cpuBudgetCores = .ok cores →
      (cores == 0.0) = true ∨
        (∃ sign m e hm, shape v = .infinity sign ∧ shape cores = .finite sign m e hm) ∧
          maxSat < infinity .positive

theorem cpu_stopped_iff :
    (res.NonFinite → evaluateCpu profile ready res ≠ .ok .pass) ↔
      CpuStopped profile ready res := by
  constructor
  · intro hnever hready hstale v hv hfinite maxSat cores hmax hcores
    by_cases hzero : (cores == 0.0) = true
    · exact Or.inl hzero
    · rw [Bool.not_eq_true] at hzero
      rw [← lt_load_iff hfinite hzero]
      by_contra hlt
      rw [not_or] at hlt
      refine hnever ⟨v, hv, hfinite⟩ (evaluateCpu_pass_iff.mpr ?_)
      exact ⟨hready, hstale, maxSat, cores, v, hmax, hcores, hv, hzero, hlt.2⟩
  · rintro hstopped ⟨v, hv, hfinite⟩ hpass
    obtain ⟨hready, hstale, maxSat, cores, v', hmax, hcores, hv', hzero, hlt⟩ :=
      evaluateCpu_pass_iff.mp hpass
    rw [hv] at hv'
    cases hv'
    rcases hstopped hready hstale v hv hfinite maxSat cores hmax hcores with h | h
    · rw [hzero] at h
      cases h
    · exact hlt ((lt_load_iff hfinite hzero).mpr h)

/-! ### The error rate -/

/-- Of the requests, or of the errors that are divided by them, one is not finite. -/
def NonFiniteRate (t : Float) (errors : Option Float) : Prop :=
  t.isFinite = false ∨ (0.0 : Float) < t ∧ ∃ e, errors = some e ∧ e.isFinite = false

/-- What stops an error rate of so many requests and errors of which one is not finite.  Requests
that are not a number count as no errors, and so do errors divided by infinity; for everything else
that is not finite the rate is an infinity, or not a number. -/
def ErrorLimit.Stops (limit : ErrorLimit) (t : Float) (errors : Option Float) : Prop :=
  match shape t, errors.map shape with
  | .notANumber, _ => ¬ limit.Allows 0.0
  | .infinity _, some .notANumber => limit.usable = false
  | .infinity _, some (.infinity _) => limit.usable = false
  | .infinity _, _ => ¬ limit.Allows 0.0
  | _, some (.infinity .positive) => ¬ limit.Allows (infinity .positive)
  | _, _ => limit.usable = false

theorem stops_iff {t : Float} {errors : Option Float} (ht : shape t ≠ .infinity .negative)
    (hrate : NonFiniteRate t errors) :
    limit.Stops t errors ↔ ¬ limit.Allows (errorRate t errors) := by
  have husable : ∀ {x : Float}, shape x = .notANumber →
      (limit.usable = false ↔ ¬ limit.Allows x) := by
    intro x hx
    rw [allows_nan hx, Bool.not_eq_true]
  cases hshape : shape t with
  | notANumber =>
      have hzero : errorRate t errors = 0.0 := by
        cases errors with
        | none => rfl
        | some e => exact if_neg (not_nan_lt hshape)
      rw [hzero]
      simp only [ErrorLimit.Stops, hshape]
  | infinity sign =>
      cases sign with
      | negative => exact absurd hshape ht
      | positive =>
          cases errors with
          | none => simp only [ErrorLimit.Stops, hshape, Option.map_none, errorRate]
          | some e =>
              have hquotient : errorRate t (some e) = e / t := if_pos (zero_lt_top hshape)
              rw [hquotient]
              cases he : shape e with
              | notANumber =>
                  simp only [ErrorLimit.Stops, hshape, Option.map_some, he]
                  exact husable (div_of_nan he)
              | infinity sign =>
                  simp only [ErrorLimit.Stops, hshape, Option.map_some, he]
                  exact husable (div_infinities he hshape)
              | zero sign =>
                  simp only [ErrorLimit.Stops, hshape, Option.map_some, he]
                  have hfinite : e.isFinite = true := by rw [isFinite_eq, he]; rfl
                  obtain ⟨sign', hdiv⟩ := finite_div_infinity hfinite hshape
                  rw [allows_zero hdiv]
              | finite sign m e' hm =>
                  simp only [ErrorLimit.Stops, hshape, Option.map_some, he]
                  have hfinite : e.isFinite = true := by rw [isFinite_eq, he]; rfl
                  obtain ⟨sign', hdiv⟩ := finite_div_infinity hfinite hshape
                  rw [allows_zero hdiv]
  | zero sign =>
      rcases hrate with hfinite | ⟨hpos, -⟩
      · rw [isFinite_eq, hshape] at hfinite
        cases hfinite
      · obtain ⟨m, e, hm, hpositive⟩ := shape_of_pos hpos (by rw [isFinite_eq, hshape]; rfl)
        rw [hshape] at hpositive
        cases hpositive
  | finite sign m e' hm =>
      rcases hrate with hfinite | ⟨hpos, e, rfl, hfinite⟩
      · rw [isFinite_eq, hshape] at hfinite
        cases hfinite
      · have hquotient : errorRate t (some e) = e / t := if_pos hpos
        obtain ⟨m₁, e₁, hm₁, hpositive⟩ := shape_of_pos hpos (by rw [isFinite_eq, hshape]; rfl)
        rw [hquotient]
        rcases shape_of_not_finite hfinite with he | ⟨sign', he⟩
        · simp only [ErrorLimit.Stops, hshape, Option.map_some, he]
          exact husable (div_of_nan he)
        · have hdiv := infinity_div he hpositive
          cases sign' with
          | positive =>
              simp only [ErrorLimit.Stops, hshape, Option.map_some, he]
              rw [allows_top hdiv]
          | negative =>
              simp only [ErrorLimit.Stops, hshape, Option.map_some, he]
              rw [allows_bot hdiv, Bool.not_eq_true]

/-- Too many requests are not the negative infinity. -/
theorem not_bot_of_requests {t : Float} {least : Int}
    (h : compareInt (t * 60.0) least ≠ some .lt) : shape t ≠ .infinity .negative := by
  intro hbot
  have hsixty : shape 60.0 = .finite .positive 8444249301319680 (-47) (by decide) := rfl
  exact h (compareInt_bot (infinity_mul hbot hsixty) least)

/-- What stops a rate that is not finite: that the source does not come to the comparison, or that
the limit does not let the rate pass. -/
def TrafficStopped (profile : TelemetryProfile) (ready : Bool) (res errRes : MetricQueryResult) :
    Prop :=
  ready = true → profile.stale res = false → ∀ t least, res.observation = some t →
    profile.minRequests = .ok least → compareInt (t * 60.0) least ≠ some .lt →
      errRes.status = .success → NonFiniteRate t errRes.latestValue →
        profile.errorLimit.Stops t errRes.latestValue

theorem traffic_stopped_iff :
    ((∃ t, res.observation = some t ∧ NonFiniteRate t errRes.observation) →
        evaluateTrafficErrorRate profile ready res errRes ≠ .ok .pass) ↔
      TrafficStopped profile ready res errRes := by
  have hobserved : errRes.status = .success → errRes.observation = errRes.latestValue :=
    fun h => if_pos h
  constructor
  · intro hnever hready hstale t least ht hleast hmany hsuccess hrate
    rw [stops_iff (not_bot_of_requests hmany) hrate]
    intro hallows
    refine hnever ⟨t, ht, by rwa [hobserved hsuccess]⟩ (evaluateTrafficErrorRate_pass_iff.mpr ?_)
    exact ⟨hready, hstale, least, t, hleast, ht, hmany, hsuccess, hallows⟩
  · rintro hstopped ⟨t, ht, hrate⟩ hpass
    obtain ⟨hready, hstale, least, t', hleast, ht', hmany, hsuccess, hallows⟩ :=
      evaluateTrafficErrorRate_pass_iff.mp hpass
    rw [ht] at ht'
    cases ht'
    rw [hobserved hsuccess] at hrate
    have hstops := hstopped hready hstale t least ht hleast hmany hsuccess hrate
    exact (stops_iff (not_bot_of_requests hmany) hrate).mp hstops hallows

/-! ### The latency -/

/-- What stops a latency that is not finite: that the source does not come to the comparison, that
the threshold is none, or that the latency is the positive infinity and exceeds it. -/
def LatencyStopped (profile : TelemetryProfile) (ready : Bool) (res : MetricQueryResult) : Prop :=
  profile.maxP95LatencySeconds ≠ .null → ready = true → ∀ v, res.observation = some v →
    v.isFinite = false →
      profile.maxP95LatencySeconds.usable = false ∨
        shape v = .infinity .positive ∧ profile.maxP95LatencySeconds.exceeded = true

theorem latency_stopped_iff :
    (profile.maxP95LatencySeconds ≠ .null → res.NonFinite →
        evaluateLatency profile ready res ≠ .pass) ↔
      LatencyStopped profile ready res := by
  have hpasses : ∀ v, v.isFinite = false →
      ((pyGreater v profile.maxP95LatencySeconds = .ok false ∧
          profile.maxP95LatencySeconds.observed = .ok ()) ↔
        ¬ (profile.maxP95LatencySeconds.usable = false ∨
          shape v = .infinity .positive ∧ profile.maxP95LatencySeconds.exceeded = true)) := by
    intro v hv
    rcases shape_of_not_finite hv with hnan | ⟨sign, hinf⟩
    · rw [pyGreater_false_iff (nan_above_nothing hnan).1 (nan_above_nothing hnan).2, hnan]
      simp
    · cases sign with
      | negative =>
          rw [pyGreater_false_iff (bot_above_nothing hinf).1 (bot_above_nothing hinf).2, hinf]
          simp
      | positive =>
          rw [pyGreater_top_iff hinf]
          simp [hinf]
  constructor
  · intro hnever hasked hready v hv hfinite
    by_contra hopen
    refine hnever hasked ⟨v, hv, hfinite⟩ (evaluateLatency_pass_iff.mpr (Or.inr ?_))
    exact ⟨hready, v, hv, (hpasses v hfinite).mpr hopen⟩
  · rintro hstopped hasked ⟨v, hv, hfinite⟩ hpass
    rcases evaluateLatency_pass_iff.mp hpass with hnone | ⟨hready, v', hv', hgreater⟩
    · exact hasked hnone
    · rw [hv] at hv'
      cases hv'
      exact (hpasses v hfinite).mp hgreater (hstopped hasked hready v hv hfinite)

end Checks

/-! ### The sample -/

section Sample

variable (profile : TelemetryProfile) (args : SampleArguments) (answers : TelemetryAnswers)

/-- The counters have had the time to settle. -/
def SampleArguments.counterReady : Bool :=
  checkCounterStability args.containerStartedAt args.now

/-- The requests, or the errors that are divided by them, are not finite. -/
def TelemetryAnswers.NonFiniteTraffic : Prop :=
  ∃ t, (executeQuery answers.total).observation = some t ∧
    NonFiniteRate t (executeQuery answers.errors).observation

/-- The latency is not finite, and the profile asks for one. -/
def TelemetryAnswers.NonFiniteLatency : Prop :=
  profile.maxP95LatencySeconds ≠ .null ∧ (executeQuery answers.latency).NonFinite

/-- No check passes a value that is not finite, and no sample does. -/
structure NonFiniteNeverPasses : Prop where
  cpu : (executeQuery answers.cpu).NonFinite →
    evaluateCpu profile args.counterReady (executeQuery answers.cpu) ≠ .ok .pass
  traffic : answers.NonFiniteTraffic →
    evaluateTrafficErrorRate profile args.counterReady (executeQuery answers.total)
      (executeQuery answers.errors) ≠ .ok .pass
  latency : answers.NonFiniteLatency profile →
    evaluateLatency profile args.counterReady (executeQuery answers.latency) ≠ .pass
  sample : ∀ sample, evaluateSample profile args answers = .ok sample →
    (executeQuery answers.cpu).NonFinite ∨ answers.NonFiniteTraffic ∨
        answers.NonFiniteLatency profile → sample.allPassed = false

variable {profile args answers}

/-- A sample in which everything has passed. -/
theorem passed_of_allPassed {sample : TelemetrySample}
    (h : evaluateSample profile args answers = .ok sample) (hall : sample.allPassed = true) :
    evaluateCpu profile args.counterReady (executeQuery answers.cpu) = .ok .pass ∧
      evaluateTrafficErrorRate profile args.counterReady (executeQuery answers.total)
        (executeQuery answers.errors) = .ok .pass ∧
      evaluateLatency profile args.counterReady (executeQuery answers.latency) = .pass := by
  unfold SampleArguments.counterReady
  unfold evaluateSample at h
  cases hreadiness : evaluateReadiness profile answers.probe with
  | error e =>
      rw [hreadiness] at h
      cases h
  | ok readiness =>
      cases hcpu : evaluateCpu profile (checkCounterStability args.containerStartedAt args.now)
          (executeQuery answers.cpu) with
      | error e =>
          simp only [hreadiness, hcpu, bind, Except.bind] at h
          cases h
      | ok cpu =>
          cases htraffic : evaluateTrafficErrorRate profile
              (checkCounterStability args.containerStartedAt args.now)
              (executeQuery answers.total) (executeQuery answers.errors) with
          | error e =>
              simp only [hreadiness, hcpu, htraffic, bind, Except.bind] at h
              cases h
          | ok traffic =>
              simp only [hreadiness, hcpu, htraffic, bind, Except.bind, pure, Except.pure,
                Except.ok.injEq] at h
              rw [← h] at hall
              simp only [List.all_cons, Bool.and_eq_true, decide_eq_true_eq] at hall
              obtain ⟨-, -, hcpu', htraffic', hlatency, -⟩ := hall
              rw [hcpu', htraffic']
              exact ⟨rfl, rfl, hlatency⟩

variable (profile args answers)

/-- **What is not finite passes unless something else stops it.**  Whatever the profile says and
Prometheus answers, no check passes a value that is not finite exactly when each of the three is
stopped: the load by a budget of zero or by exceeding the threshold, the error rate by a limit that
does not let it pass, the latency by exceeding the threshold. -/
theorem nonFinite_never_passes_iff :
    NonFiniteNeverPasses profile args answers ↔
      CpuStopped profile args.counterReady (executeQuery answers.cpu) ∧
        TrafficStopped profile args.counterReady (executeQuery answers.total)
          (executeQuery answers.errors) ∧
        LatencyStopped profile args.counterReady (executeQuery answers.latency) := by
  constructor
  · rintro ⟨hcpu, htraffic, hlatency, -⟩
    exact ⟨cpu_stopped_iff.mp hcpu, traffic_stopped_iff.mp htraffic,
      latency_stopped_iff.mp fun hasked h => hlatency ⟨hasked, h⟩⟩
  · rintro ⟨hcpu, htraffic, hlatency⟩
    have hcpu := cpu_stopped_iff.mpr hcpu
    have htraffic := traffic_stopped_iff.mpr htraffic
    have hlatency := latency_stopped_iff.mpr hlatency
    refine ⟨hcpu, htraffic, fun h => hlatency h.1 h.2, fun sample hsample hused => ?_⟩
    by_contra hall
    rw [Bool.not_eq_false] at hall
    obtain ⟨hcpu', htraffic', hlatency'⟩ := passed_of_allPassed hsample hall
    rcases hused with h | h | h
    · exact hcpu h hcpu'
    · exact htraffic h htraffic'
    · exact hlatency h.1 h.2 hlatency'

end Sample

/-- An answer of one second ago with the value `NaN`. -/
def nanAnswer : PrometheusAnswer :=
  .response 60000000 100
    (some ⟨some "success", [{ value := some (some 59000000, .text "NaN") }]⟩)

/-- A ready container, of which Prometheus knows nothing but `NaN`. -/
def nanAnswers : TelemetryAnswers where
  probe := .answered 200 50000
  cpu := nanAnswer
  total := nanAnswer
  errors := nanAnswer
  latency := nanAnswer

def nanArguments : SampleArguments where
  now := 60000000
  containerState := some { containerId := "0123456789ab", status := "running" }

/-- Under the default profile, a sample of nothing but `NaN` passes. -/
theorem nan_sample_passes :
    (evaluateSample defaultTelemetryProfile nanArguments nanAnswers).toOption.map
        TelemetrySample.allPassed = some true ∧
      ((executeQuery nanAnswer).observation.map Float.isFinite = some false) ∧
      ¬ NonFiniteNeverPasses defaultTelemetryProfile nanArguments nanAnswers := by
  have hpassed : (evaluateSample defaultTelemetryProfile nanArguments nanAnswers).toOption.map
      TelemetrySample.allPassed = some true := by decide +kernel
  have hnan : (executeQuery nanAnswer).observation.map Float.isFinite = some false := by
    decide +kernel
  refine ⟨hpassed, hnan, fun hnever => ?_⟩
  cases hsample : evaluateSample defaultTelemetryProfile nanArguments nanAnswers with
  | error e =>
      rw [hsample] at hpassed
      cases hpassed
  | ok sample =>
      rw [hsample] at hpassed
      obtain ⟨v, hv, hfinite⟩ := Option.map_eq_some_iff.mp hnan
      have hopen := hnever.sample sample hsample (Or.inl ⟨v, hv, hfinite⟩)
      rw [Option.some.inj hpassed] at hopen
      cases hopen

end SelfHealing
