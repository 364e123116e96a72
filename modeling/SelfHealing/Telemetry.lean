/-
Samples of telemetry.

Prometheus is asked for the load, the traffic, the errors and the latency of the target, and what
it answers is compared with the thresholds of the profile.  Numbers are floats here as they are in
the interpreter, with `NaN` and the infinities: the client makes one of the text of each sample,
and the comparisons are those of the interpreter, between floats or of a float with an integer.

Of an observation only the status is kept, which is all that the sample looks at.  A clause
`except Exception` makes every exception one status; what is raised outside of such a clause
leaves the evaluation without a sample.
-/
import SelfHealing.Lib.Floats
import SelfHealing.Verification

namespace SelfHealing

open Floats

/-! ### Numbers of the interpreter -/

/-- What conversions, operations and models raise. -/
inductive PyExc
  | valueError
  | typeError
  | overflowError
  | zeroDivisionError
  | validationError
deriving DecidableEq, Repr

/-- A value as `json.loads` makes it; of a list or a dictionary, that it is one. -/
inductive Scalar
  | null
  | bool (b : Bool)
  | int (n : Int)
  | float (x : Float)
  | text (s : String)
  | container (empty : Bool)

abbrev ScalarDict := List (String × Scalar)

/-- `dict.get`. -/
def ScalarDict.get (dict : ScalarDict) (key : String) (default : Scalar := .null) : Scalar :=
  (dict.lookup key).getD default

/-- Every underscore stands between two digits. -/
def underscoresFine : Bool → List Char → Bool
  | _, [] => true
  | digit, c :: rest =>
      if c = '_' then digit && rest.head?.any Char.isDigit && underscoresFine false rest
      else underscoresFine c.isDigit rest

/-- The number with the digits. -/
def digitsNumber (digits : List Char) : Nat := digits.foldl (fun n c => 10 * n + (c.toNat - 48)) 0

/-- An exponent, or nothing. -/
def readExponent : List Char → Option Int
  | [] => some 0
  | mark :: rest =>
      if mark = 'e' ∨ mark = 'E' then
        let read := fun digits : List Char =>
          if digits ≠ [] ∧ digits.all Char.isDigit then some (digitsNumber digits : Int) else none
        match rest with
        | '-' :: digits => (read digits).map fun n => -n
        | '+' :: digits => read digits
        | digits => read digits
      else none

/-- A decimal number without a sign. -/
def readDecimal (text : List Char) : Option Float :=
  let (whole, rest) := text.span Char.isDigit
  let (fraction, rest) :=
    match rest with
    | '.' :: rest => rest.span Char.isDigit
    | rest => ([], rest)
  if whole = [] ∧ fraction = [] then none
  else
    (readExponent rest).map fun exponent =>
      Float.ofModel
        (Float.Model.ofScientific (digitsNumber (whole ++ fraction)) (exponent - fraction.length))

/-- A number without a sign, or one of the words for what is not finite. -/
def readUnsigned (text : List Char) : Option Float :=
  let word := String.ofList (text.map Char.toLower)
  if word = "nan" then some nan
  else if word = "inf" ∨ word = "infinity" then some (infinity .positive)
  else readDecimal text

/-- `float` of a text. -/
def floatOfText (text : String) : Option Float :=
  let chars := numberChars text
  if underscoresFine false chars then
    match chars.filter (· ≠ '_') with
    | '-' :: rest => (readUnsigned rest).map fun x => -x
    | '+' :: rest => readUnsigned rest
    | rest => readUnsigned rest
  else none

/-- `float` of an integer. -/
def floatOfInt (n : Int) : Except PyExc Float :=
  let x := Float.ofModel (Float.Model.ofInt n)
  if x.isInf then .error .overflowError else .ok x

/-- `float`. -/
def pyFloat : Scalar → Except PyExc Float
  | .bool b => floatOfInt (if b then 1 else 0)
  | .int n => floatOfInt n
  | .float x => .ok x
  | .text s =>
      match floatOfText s with
      | some x => .ok x
      | none => .error .valueError
  | .null | .container _ => .error .typeError

/-- `int`. -/
def pyInt : Scalar → Except PyExc Int
  | .bool b => .ok (if b then 1 else 0)
  | .int n => .ok n
  | .float x =>
      match truncate x with
      | some n => .ok n
      | none => .error (if x.isNaN then .valueError else .overflowError)
  | .text s =>
      match intOfText 10 s with
      | some n => .ok n
      | none => .error .valueError
  | .null | .container _ => .error .typeError

/-- `bool`. -/
def Scalar.truthy : Scalar → Bool
  | .null => false
  | .bool b => b
  | .int n => decide (n ≠ 0)
  | .float x => !(x == 0.0)
  | .text s => decide (s ≠ "")
  | .container empty => !empty

/-- `x / y`. -/
def pyDiv (x y : Float) : Except PyExc Float :=
  if y == 0.0 then .error .zeroDivisionError else .ok (x / y)

/-- `x < value`. -/
def pyLess (x : Float) : Scalar → Except PyExc Bool
  | .bool b => .ok (compareInt x (if b then 1 else 0) == some .lt)
  | .int n => .ok (compareInt x n == some .lt)
  | .float y => .ok (decide (x < y))
  | .null | .text _ | .container _ => .error .typeError

/-- `x > value`. -/
def pyGreater (x : Float) : Scalar → Except PyExc Bool
  | .bool b => .ok (compareInt x (if b then 1 else 0) == some .gt)
  | .int n => .ok (compareInt x n == some .gt)
  | .float y => .ok (decide (y < x))
  | .null | .text _ | .container _ => .error .typeError

/-- The threshold of an observation, of which the model asks that a float can hold it. -/
def Scalar.observed : Scalar → Except PyExc Unit
  | .int n =>
      match floatOfInt n with
      | .ok _ => .ok ()
      | .error _ => .error .validationError
  | .container _ => .error .validationError
  | .null | .bool _ | .float _ | .text _ => .ok ()

/-- `total_seconds` of a duration in microseconds. -/
def totalSeconds (duration : Int) : Float :=
  Float.ofModel (Float.Model.ofInt duration) / 1000000.0

/-! ### The client of Prometheus -/

/-- A time, in microseconds, unless `datetime.fromtimestamp` refuses it. -/
abbrev Timestamp := Option Int

/-- A series of a result: of a range query, or of an instant one. -/
structure Series where
  values : Option (List (Timestamp × Scalar)) := none
  value : Option (Timestamp × Scalar) := none

structure PrometheusBody where
  status : Option String
  result : List Series := []

/-- What the server answers; a body that cannot be read as one is `none`. -/
inductive PrometheusAnswer
  | timeout
  | connectError
  | failed
  | response (receivedAt : Int) (byteSize : Nat) (body : Option PrometheusBody)

inductive QueryStatus
  | success
  | empty
  | error
  | unavailable
deriving DecidableEq, Repr

/-- `MetricSample`, but for its labels. -/
structure MetricSample where
  values : List (Int × Float) := []
  latestValue : Option Float := none
  latestTimestamp : Option Int := none

structure MetricQueryResult where
  status : QueryStatus
  samples : List MetricSample := []
  freshnessSeconds : Option Float := none

/-- A value of a series, unless it is passed over. -/
def readValue (point : Timestamp × Scalar) : Except PyExc (Option (Int × Float)) :=
  match point.1 with
  | none => .error .valueError
  | some time =>
      match pyFloat point.2 with
      | .ok x => .ok (some (time, x))
      | .error .valueError | .error .typeError => .ok none
      | .error e => .error e

def readValues : List (Timestamp × Scalar) → Except PyExc (List (Int × Float))
  | [] => .ok []
  | point :: rest => do
      let value ← readValue point
      let values ← readValues rest
      return value.toList ++ values

/-- The sample that is made of a series. -/
def readSeries (series : Series) : Except PyExc MetricSample := do
  let values ← readValues (series.values.getD series.value.toList)
  pure
    { values := values
      latestValue := values.getLast?.map Prod.snd
      latestTimestamp := values.getLast?.map Prod.fst }

def readResult : List Series → Except PyExc (List MetricSample)
  | [] => .ok []
  | series :: rest => do
      let sample ← readSeries series
      let samples ← readResult rest
      return sample :: samples

/-- The age of the youngest of the latest values. -/
def minAge (now : Int) (samples : List MetricSample) : Option Int :=
  (samples.filterMap fun sample => sample.latestTimestamp.map fun time => now - time).min?

/-- `MAX_PROMETHEUS_RESPONSE_BYTES`. -/
def maxPrometheusResponseBytes : Nat := 1024 * 1024

/-- `_execute_query`. -/
def executeQuery : PrometheusAnswer → MetricQueryResult
  | .timeout | .connectError => { status := .unavailable }
  | .failed => { status := .error }
  | .response receivedAt byteSize body =>
      if maxPrometheusResponseBytes < byteSize then { status := .error }
      else
        match body with
        | none => { status := .error }
        | some body =>
            if body.status ≠ some "success" then { status := .error }
            else if body.result.isEmpty then { status := .empty }
            else
              match readResult body.result with
              | .error _ => { status := .error }
              | .ok samples =>
                  { status := .success
                    samples := samples
                    freshnessSeconds := (minAge receivedAt samples).map totalSeconds }

/-- The latest value of the first series. -/
def MetricQueryResult.latestValue (res : MetricQueryResult) : Option Float :=
  res.samples.head?.bind MetricSample.latestValue

/-! ### The profile -/

/-- `VerificationProfile`, as far as the evaluator reads it. -/
structure TelemetryProfile where
  sampleFreshnessLimitSeconds : Int := 30
  readiness : ScalarDict := []
  traffic : ScalarDict := []
  cpu : ScalarDict := []
  prohibitedActiveAlerts : List String := []

/-- `DEFAULT_PROFILE`. -/
def defaultTelemetryProfile : TelemetryProfile where
  sampleFreshnessLimitSeconds := 30
  readiness :=
    [("required_consecutive_successes", .int 3), ("max_latency_seconds", .float 0.200),
     ("path", .text "/health/ready"), ("expected_status", .int 200)]
  traffic :=
    [("min_requests_per_window", .int 20), ("window_seconds", .int 60),
     ("max_error_rate", .float 0.02), ("max_p95_latency_seconds", .float 0.200)]
  cpu :=
    [("max_saturation", .float 0.75), ("window_seconds", .int 30),
     ("consecutive_windows", .int 2), ("cpu_budget_cores", .float 1.0)]
  prohibitedActiveAlerts := ["ContainerDown", "HighCpuSaturation", "ApiUnresponsive"]

/-- Which threshold the error rate is compared with. -/
inductive ErrorLimit
  | baselineSuccessRateMin (least : Scalar)
  | max5xxErrorRate (most : Scalar)
  | maxErrorRate (most : Scalar)

namespace TelemetryProfile

variable (profile : TelemetryProfile)

def maxSaturation : Except PyExc Float := pyFloat (profile.cpu.get "max_saturation" (.float 0.75))

def cpuBudgetCores : Except PyExc Float := pyFloat (profile.cpu.get "cpu_budget_cores" (.float 1.0))

def minRequests : Except PyExc Int :=
  pyInt (profile.traffic.get "min_requests_per_window" (.int 20))

def maxP95LatencySeconds : Scalar := profile.traffic.get "max_p95_latency_seconds"

/-- The branches of `_evaluate_traffic_error_rate`: a success rate of a baseline comes first, then
a rate of responses with status 5xx, and a rate of errors is what is left. -/
def errorLimit : ErrorLimit :=
  match profile.traffic.get "baseline_success_rate_min",
    profile.traffic.get "max_5xx_error_rate" with
  | .null, .null =>
      let most := profile.traffic.get "max_error_rate"
      .maxErrorRate (if most.truthy then most else .float 0.02)
  | .null, most => .max5xxErrorRate most
  | least, _ => .baselineSuccessRateMin least

/-- A result that is too old. -/
def stale (res : MetricQueryResult) : Bool :=
  res.freshnessSeconds.any fun freshness =>
    !(freshness == 0.0) && compareInt freshness profile.sampleFreshnessLimitSeconds == some .gt

end TelemetryProfile

/-! ### The checks -/

/-- A status, where every exception is one that is not known. -/
def caught (status : Except PyExc CheckStatus) : CheckStatus :=
  match status with
  | .ok status => status
  | .error _ => .unknown

/-- The status of a value that must not be above a threshold. -/
def withinThreshold (above : Bool) : CheckStatus := if above then .fail else .pass

/-- The latest value, if there is a result with one. -/
def MetricQueryResult.observation (res : MetricQueryResult) : Option Float :=
  if res.status = .success then res.latestValue else none

section Checks

variable (profile : TelemetryProfile) (counterReady : Bool)

/-- `_evaluate_cpu`, with the answer to its query. -/
def evaluateCpu (res : MetricQueryResult) : Except PyExc CheckStatus := do
  if ¬ counterReady then return .unknown
  let maxSat ← profile.maxSaturation
  let cores ← profile.cpuBudgetCores
  match res.observation with
  | none => return .unknown
  | some rawRate =>
      if profile.stale res then return .unknown
      return caught (do
        let saturation ← pyDiv rawRate cores
        return withinThreshold (decide (maxSat < saturation)))

/-- The last part of `_evaluate_traffic_error_rate`. -/
def judgeErrorRate (limit : ErrorLimit) (errRate : Float) : Except PyExc CheckStatus :=
  match limit with
  | .baselineSuccessRateMin least => do
      let below ← pyLess (1.0 - errRate) least
      least.observed
      return withinThreshold below
  | .max5xxErrorRate most => do
      let above ← pyGreater errRate most
      most.observed
      return withinThreshold above
  | .maxErrorRate most => do
      let threshold ← pyFloat most
      return withinThreshold (decide (threshold < errRate))

/-- `_evaluate_traffic_error_rate`, with the answers to its two queries. -/
def evaluateTrafficErrorRate (totalRes errRes : MetricQueryResult) :
    Except PyExc CheckStatus := do
  if ¬ counterReady then return .unknown
  let minRequests ← profile.minRequests
  match totalRes.observation with
  | none => return .unknown
  | some reqPerSec =>
      if profile.stale totalRes then return .unknown
      let windowRequests := reqPerSec * 60.0
      if compareInt windowRequests minRequests = some .lt then return .unknown
      if errRes.status ≠ .success then return .unknown
      return caught (do
        let errRate ←
          match errRes.latestValue with
          | none => pure 0.0
          | some errPerSec =>
              if (0.0 : Float) < reqPerSec then pyDiv errPerSec reqPerSec else pure 0.0
        judgeErrorRate profile.errorLimit errRate)

/-- `_evaluate_latency`, with the answer to its query; there is none if the profile asks for no
latency. -/
def evaluateLatency (res : MetricQueryResult) : CheckStatus :=
  match profile.maxP95LatencySeconds with
  | .null => .pass
  | maxLat =>
      if ¬ counterReady then .unknown
      else
        match res.observation with
        | none => .unknown
        | some val =>
            caught (do
              let above ← pyGreater val maxLat
              maxLat.observed
              return withinThreshold above)

end Checks

/-! ### The sample -/

/-- What is seen of the container. -/
structure ContainerState where
  containerId : String := ""
  bindingGeneration : Int := 1
  status : String := "unknown"

/-- `_evaluate_target_state`. -/
def evaluateTargetState (targetContainerId : Option String) (bindingGeneration : Option Int) :
    Option ContainerState → CheckStatus
  | none => .unknown
  | some state =>
      if targetContainerId.any fun target => decide (target ≠ "" ∧ state.containerId ≠ target) then
        .fail
      else if bindingGeneration.any fun generation =>
          decide (generation ≠ 0 ∧ state.bindingGeneration ≠ generation) then .fail
      else if ["running", "up"].contains (textLower state.status) then .pass
      else .fail

/-- What the readiness probe gives: a status, and the time that it took in microseconds. -/
inductive ProbeAnswer
  | failed
  | answered (statusCode elapsed : Int)

/-- `_evaluate_readiness`. -/
def evaluateReadiness (profile : TelemetryProfile) (answer : ProbeAnswer) :
    Except PyExc CheckStatus := do
  let maxLat ← pyFloat (profile.readiness.get "max_latency_seconds" (.float 0.200))
  let expectedStatus ← pyInt (profile.readiness.get "expected_status" (.int 200))
  match answer with
  | .failed => return .fail
  | .answered statusCode elapsed =>
      if statusCode ≠ expectedStatus then return .fail
      return withinThreshold (decide (maxLat < totalSeconds elapsed))

/-- `_check_counter_stability`. -/
def checkCounterStability (containerStartedAt : Option Int) (now : Int) : Bool :=
  containerStartedAt.all fun startedAt => decide (seconds 15 ≤ now - startedAt)

structure AlertState where
  name : String
  state : String

/-- `_evaluate_alerts`. -/
def evaluateAlerts (profile : TelemetryProfile) (activeAlerts : List AlertState) : CheckStatus :=
  if activeAlerts.any fun alert =>
      profile.prohibitedActiveAlerts.contains alert.name &&
        decide (textLower alert.state = "firing") then .fail
  else .pass

/-- What `evaluate_sample` is called with. -/
structure SampleArguments where
  now : Int
  targetContainerId : Option String := none
  bindingGeneration : Option Int := none
  containerState : Option ContainerState := none
  containerStartedAt : Option Int := none
  readinessConsecutiveSuccesses : Nat := 0

/-- What is answered to the questions that a sample may ask. -/
structure TelemetryAnswers where
  probe : ProbeAnswer
  cpu : PrometheusAnswer
  total : PrometheusAnswer
  errors : PrometheusAnswer
  latency : PrometheusAnswer
  activeAlerts : List AlertState := []

/-- An `EvaluationSample`, but for its score and its times. -/
structure TelemetrySample where
  readinessConsecutiveSuccesses : Nat
  allPassed : Bool
  checks : List (String × CheckStatus)
deriving DecidableEq

/-- `evaluate_sample`. -/
def evaluateSample (profile : TelemetryProfile) (args : SampleArguments)
    (answers : TelemetryAnswers) : Except PyExc TelemetrySample := do
  let target := evaluateTargetState args.targetContainerId args.bindingGeneration
    args.containerState
  let readiness ← evaluateReadiness profile answers.probe
  let successes := if readiness = .pass then args.readinessConsecutiveSuccesses + 1 else 0
  let counterReady := checkCounterStability args.containerStartedAt args.now
  let cpu ← evaluateCpu profile counterReady (executeQuery answers.cpu)
  let traffic ← evaluateTrafficErrorRate profile counterReady (executeQuery answers.total)
    (executeQuery answers.errors)
  let latency := evaluateLatency profile counterReady (executeQuery answers.latency)
  let alerts := evaluateAlerts profile answers.activeAlerts
  let checks :=
    [("target_identity", target), ("readiness", readiness), ("cpu_saturation", cpu),
     ("business_traffic", traffic), ("business_latency", latency), ("alerts", alerts)]
  pure
    { readinessConsecutiveSuccesses := successes
      allPassed := checks.all fun check => check.2 = .pass
      checks := checks }

end SelfHealing
