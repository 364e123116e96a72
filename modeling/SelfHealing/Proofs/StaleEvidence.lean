/-
Diagnoses from metrics that are too old.

The engine refuses telemetry that is more than 900 seconds old, but the freshness that it is given
is the least of all series and of the log: one that is young makes all the others pass.  So a rule
reads the value of a metric however old it is.  When that leads to a restart is said of what the
collector is told (`no_stale_metric_iff`): the rules are reached, and the value that one of them
rests on is too old.

The condition is on the answers of Prometheus, Docker and the log, and the predicates in it are
those of the rules.
-/
import SelfHealing.Lib.FloatOrder
import SelfHealing.Proofs.CollectedObservation
import SelfHealing.Proofs.DefaultDiagnoses

namespace SelfHealing

open Floats

/-! ### The least freshness -/

/-- Above the limit of the engine. -/
def tooOld (freshness : Float) : Bool := compareInt freshness 900 == some .gt

section Least

variable {x y : Float}

theorem tooOld_of_le (h : tooOld x = true) (hle : x ≤ y) : tooOld y = true :=
  beq_iff_eq.mpr (@compareInt_gt_of_le x y 900 (beq_iff_eq.mp h) hle)

/-- The lesser of two numbers is too old when both are. -/
theorem tooOld_pyMin (hx : shape x ≠ .notANumber) (hy : shape y ≠ .notANumber) :
    tooOld (pyMin x y) = true ↔ tooOld x = true ∧ tooOld y = true := by
  unfold pyMin
  by_cases hlt : y < x
  · rw [if_pos hlt]
    exact ⟨fun h => ⟨tooOld_of_le h (le_of_below hlt), h⟩, And.right⟩
  · rw [if_neg hlt]
    exact ⟨fun h => ⟨h, tooOld_of_le h (le_of_not_below hx hy hlt)⟩, And.left⟩

theorem pyMin_ne_notANumber (hx : shape x ≠ .notANumber) (hy : shape y ≠ .notANumber) :
    shape (pyMin x y) ≠ .notANumber := by
  unfold pyMin
  split
  · exact hy
  · exact hx

/-- The freshness is a number, if there is one. -/
def IsNumber (freshness : Option Float) : Prop := ∀ x ∈ freshness, shape x ≠ .notANumber

/-- The freshness is above the limit, if there is one. -/
def IsTooOld (freshness : Option Float) : Prop := ∀ x ∈ freshness, tooOld x = true

theorem isNumber_none : IsNumber none := fun _ hx => by cases hx

theorem isTooOld_none : IsTooOld none := fun _ hx => by cases hx

theorem isTooOld_some_iff : IsTooOld (some x) ↔ tooOld x = true :=
  ⟨fun h => h x rfl, fun h _ hy => Option.some.inj hy ▸ h⟩

/-- There is a freshness, and it is above the limit. -/
theorem any_tooOld_iff {freshness : Option Float} :
    freshness.any tooOld = true ↔ freshness ≠ none ∧ IsTooOld freshness := by
  cases freshness with
  | none => simp
  | some x =>
      rw [isTooOld_some_iff]
      simp

variable {least freshness : Option Float}

theorem mergeFreshness_eq_none_iff :
    mergeFreshness least freshness = none ↔ least = none ∧ freshness = none := by
  cases least <;> cases freshness <;> simp [mergeFreshness]

theorem mergeFreshness_isNumber (h : IsNumber least) (h' : IsNumber freshness) :
    IsNumber (mergeFreshness least freshness) := by
  cases freshness with
  | none => exact h
  | some y =>
      cases least with
      | none => exact h'
      | some x =>
          intro z hz
          rw [← Option.some.inj hz]
          exact pyMin_ne_notANumber (h x rfl) (h' y rfl)

theorem mergeFreshness_isTooOld (h : IsNumber least) (h' : IsNumber freshness) :
    IsTooOld (mergeFreshness least freshness) ↔ IsTooOld least ∧ IsTooOld freshness := by
  cases freshness with
  | none => exact ⟨fun hold => ⟨hold, isTooOld_none⟩, And.left⟩
  | some y =>
      cases least with
      | none => exact ⟨fun hold => ⟨isTooOld_none, hold⟩, And.right⟩
      | some x =>
          rw [isTooOld_some_iff, isTooOld_some_iff]
          exact isTooOld_some_iff.trans (tooOld_pyMin (h x rfl) (h' y rfl))

/-- **The least freshness is above the limit when all are.** -/
theorem foldl_mergeFreshness_isTooOld {freshnesses : List (Option Float)} (h : IsNumber least)
    (h' : ∀ freshness ∈ freshnesses, IsNumber freshness) :
    IsTooOld (freshnesses.foldl mergeFreshness least) ↔
      IsTooOld least ∧ ∀ freshness ∈ freshnesses, IsTooOld freshness := by
  induction freshnesses generalizing least with
  | nil => simp
  | cons freshness rest ih =>
      have hfirst := h' freshness List.mem_cons_self
      rw [List.foldl_cons, ih (mergeFreshness_isNumber h hfirst)
        fun o ho => h' o (List.mem_cons_of_mem _ ho), mergeFreshness_isTooOld h hfirst,
        List.forall_mem_cons, and_assoc]

theorem foldl_mergeFreshness_eq_none_iff {freshnesses : List (Option Float)} :
    freshnesses.foldl mergeFreshness least = none ↔
      least = none ∧ ∀ freshness ∈ freshnesses, freshness = none := by
  induction freshnesses generalizing least with
  | nil => simp
  | cons freshness rest ih =>
      rw [List.foldl_cons, ih, mergeFreshness_eq_none_iff, List.forall_mem_cons, and_assoc]

end Least

/-! ### Whatever has a freshness has a number -/

/-- What is left of the attempts is the result of one of them. -/
theorem retry_mem {R : Type} {settles : R → Bool} {results : List (Option R)} {result : R} :
    ∀ {last : Option R}, retry settles results last = some result →
      last = some result ∨ some result ∈ results := by
  induction results with
  | nil => exact fun h => Or.inl h
  | cons first rest ih =>
      intro last h
      cases first with
      | none => exact (ih h).imp_right (List.mem_cons_of_mem _)
      | some first =>
          rw [retry] at h
          split at h
          · exact Or.inr (h ▸ List.mem_cons_self)
          · rcases ih h with hlast | hmem
            · exact Or.inr (hlast ▸ List.mem_cons_self)
            · exact Or.inr (List.mem_cons_of_mem _ hmem)

theorem queryWithRetry_mem {A R : Type} {execute : A → R} {settles : R → Bool}
    {answer : Nat → Option A} {result : R}
    (h : queryWithRetry execute settles answer = some result) : ∃ a, result = execute a := by
  rcases retry_mem h with hnone | hmem
  · cases hnone
  · obtain ⟨n, -, hn⟩ := List.mem_map.mp hmem
    obtain ⟨a, -, ha⟩ := Option.map_eq_some_iff.mp hn
    exact ⟨a, ha.symm⟩

theorem totalSeconds_isNumber (duration : Option Int) : IsNumber (duration.map totalSeconds) := by
  intro x hx
  obtain ⟨n, -, rfl⟩ := Option.map_eq_some_iff.mp hx
  obtain ⟨m, e, hm, hmillion⟩ := @shape_of_pos 1000000.0 (by decide +kernel) (by decide +kernel)
  exact div_ne_notANumber (shape_ofInt n) hmillion

theorem executeQuery_isNumber (answer : PrometheusAnswer) :
    IsNumber (executeQuery answer).freshnessSeconds := by
  unfold executeQuery
  repeat' split
  all_goals first | exact isNumber_none | exact totalSeconds_isNumber _

theorem executeLogQuery_isNumber (answer : LokiAnswer) :
    IsNumber (executeLogQuery answer).freshnessSeconds := by
  unfold executeLogQuery
  repeat' split
  all_goals first | exact isNumber_none | exact totalSeconds_isNumber _

section Freshnesses

variable (request : CollectionRequest) (answers : CollectionAnswers)

/-- The freshness of each metric and of the log. -/
def CollectionAnswers.freshnesses : List (Option Float) :=
  (MetricQuery.all.map fun query => metricFreshness (answers.metricResult query)) ++
    [answers.logResult.1.freshnessSeconds]

theorem collect_freshness :
    (collect request answers).freshnessSeconds = answers.freshnesses.foldl mergeFreshness none := by
  unfold CollectionAnswers.freshnesses
  rw [List.foldl_append]
  rfl

theorem freshnesses_isNumber : ∀ freshness ∈ answers.freshnesses, IsNumber freshness := by
  intro freshness hmem
  rcases List.mem_append.mp hmem with hmem | hmem
  · obtain ⟨query, -, rfl⟩ := List.mem_map.mp hmem
    unfold metricFreshness
    cases hresult : answers.metricResult query with
    | none => exact isNumber_none
    | some result =>
        obtain ⟨answer, rfl⟩ := queryWithRetry_mem hresult
        simp only
        split
        · exact executeQuery_isNumber answer
        · exact isNumber_none
  · rw [List.mem_singleton.mp hmem]
    unfold CollectionAnswers.logResult settledLog
    split
    · exact isNumber_none
    · rename_i result hresult
      obtain ⟨answer, rfl⟩ := queryWithRetry_mem hresult
      split
      · exact isNumber_none
      · exact executeLogQuery_isNumber answer
      · exact executeLogQuery_isNumber answer
      · exact executeLogQuery_isNumber answer

/-- **The engine finds the telemetry too old when there is some, and all of it is.** -/
theorem collect_tooOld_iff :
    ((collect request answers).freshnessSeconds.any tooOld) = true ↔
      (∃ freshness ∈ answers.freshnesses, freshness ≠ none) ∧
        ∀ freshness ∈ answers.freshnesses, IsTooOld freshness := by
  have hsome : answers.freshnesses.foldl mergeFreshness none ≠ none ↔
      ∃ freshness ∈ answers.freshnesses, freshness ≠ none := by
    rw [ne_eq, foldl_mergeFreshness_eq_none_iff]
    simp
  rw [collect_freshness, any_tooOld_iff, hsome,
    foldl_mergeFreshness_isTooOld isNumber_none (freshnesses_isNumber answers)]
  simp [isTooOld_none]

end Freshnesses

/-! ### The early checks -/

/-- `result is None or result.status == "unavailable"`. -/
def isUnavailable (result : Option MetricQueryResult) : Bool :=
  result.all fun result => decide (result.status = .unavailable)

theorem nextCompleteness_iff {completeness : String} {result : Option MetricQueryResult} :
    nextCompleteness completeness result = "UNAVAILABLE" ↔
      completeness = "UNAVAILABLE" ∨ isUnavailable result = true := by
  unfold nextCompleteness isUnavailable
  cases result with
  | none => simp
  | some result =>
      cases hstatus : result.status with
      | unavailable => simp [hstatus]
      | error => by_cases h : completeness = "UNAVAILABLE" <;> simp [h, hstatus]
      | success => simp [hstatus]
      | empty => simp [hstatus]

/-- One query that is unavailable is enough. -/
theorem foldl_nextCompleteness_iff {completeness : String}
    {results : List (Option MetricQueryResult)} :
    results.foldl nextCompleteness completeness = "UNAVAILABLE" ↔
      completeness = "UNAVAILABLE" ∨ ∃ result ∈ results, isUnavailable result = true := by
  induction results generalizing completeness with
  | nil => simp
  | cons result rest ih =>
      rw [List.foldl_cons, ih, nextCompleteness_iff, List.exists_mem_cons_iff, or_assoc]

/-- What the collector is told gets past the early checks to the rules. -/
structure ReachesRules (request : CollectionRequest) (answers : CollectionAnswers) : Prop where
  readable : readableConnections answers = true
  available : ∀ query ∈ MetricQuery.all, isUnavailable (answers.metricResult query) = false
  recent : (∀ freshness ∈ answers.freshnesses, freshness = none) ∨
    ∃ freshness ∈ answers.freshnesses, ¬ IsTooOld freshness
  found : containerState request answers ≠ "not_found"

section EarlyChecks

variable {request : CollectionRequest} {observation : ObservationRequest}
  {answers : CollectionAnswers}

theorem completeness_ne_iff : metricsCompleteness answers ≠ "UNAVAILABLE" ↔
    ∀ query ∈ MetricQuery.all, isUnavailable (answers.metricResult query) = false := by
  unfold metricsCompleteness
  rw [ne_eq, foldl_nextCompleteness_iff]
  simp

theorem passesEarlyChecks_iff :
    (shownObservation request answers observation).PassesEarlyChecks ↔
      (∀ query ∈ MetricQuery.all, isUnavailable (answers.metricResult query) = false) ∧
      ((∀ freshness ∈ answers.freshnesses, freshness = none) ∨
        ∃ freshness ∈ answers.freshnesses, ¬ IsTooOld freshness) ∧
      containerState request answers ≠ "not_found" := by
  have hcompleteness : (collect request answers).completeness.lookup "prometheus" =
      some (metricsCompleteness answers) := rfl
  have hfresh : ((collect request answers).freshnessSeconds.any tooOld) = false ↔
      (∀ freshness ∈ answers.freshnesses, freshness = none) ∨
        ∃ freshness ∈ answers.freshnesses, ¬ IsTooOld freshness := by
    rw [← Bool.not_eq_true, collect_tooOld_iff, not_and_or]
    simp
  rw [← completeness_ne_iff, ← hfresh]
  constructor
  · intro h
    refine ⟨fun heq => h.answered ?_, h.fresh, h.found⟩
    exact hcompleteness.trans (congrArg some heq)
  · intro h
    refine ⟨decide_eq_false h.1, fun heq => h.1 ?_, h.2.1, h.2.2⟩
    exact Option.some.inj (hcompleteness.symm.trans heq)

end EarlyChecks

/-! ### Which rule restarts

The rules are gone through in their order, and the first that matches is found.  For each of the
three that restart the condition is put on the observation, with the negations of those that stand
before it: so the cases exclude each other.
-/

section Restart

variable {obs : ObservationBundle} {cause : RootCause}

/-- The rule for a cause is the first that matches. -/
inductive RestartCause (obs : ObservationBundle) : RootCause → Prop
  | stopped (h : (ContainerStoppedRule.evaluate obs).matched = true) :
      RestartCause obs .containerStopped
  | saturated (hstopped : (ContainerStoppedRule.evaluate obs).matched = false)
      (hquiet : dependencySignal obs = false)
      (h : (CpuSaturationRule.evaluate obs).matched = true) : RestartCause obs .cpuSaturation
  | unresponsive (hstopped : (ContainerStoppedRule.evaluate obs).matched = false)
      (hquiet : dependencySignal obs = false)
      (hcpu : (CpuSaturationRule.evaluate obs).matched = false)
      (h : (ApiUnresponsiveRule.evaluate obs).matched = true) : RestartCause obs .apiUnresponsive

theorem find?_cons_ite {α : Type} {p : α → Bool} {a : α} {l : List α} :
    (a :: l).find? p = if p a then some a else l.find? p := by
  rw [List.find?_cons]
  cases p a <;> rfl

/-- The first rule that matches, one after the other. -/
theorem find_defaultRules : defaultRules.find? (·.matched obs) =
    if (ContainerStoppedRule.evaluate obs).matched then some containerStoppedRule
    else if dependencySignal obs then some dependencyUnavailableRule
    else if (CpuSaturationRule.evaluate obs).matched then some cpuSaturationRule
    else if (ApiUnresponsiveRule.evaluate obs).matched then some apiUnresponsiveRule
    else if (NoActiveFaultRule.evaluate obs).matched then some noActiveFaultRule
    else none := by
  have hdependency : (DependencyUnavailableRule.evaluate obs).matched = dependencySignal obs :=
    Bool.eq_iff_iff.mpr dependencyUnavailable_matched_iff
  rw [← hdependency]
  unfold defaultRules
  rw [find?_cons_ite, find?_cons_ite, find?_cons_ite, find?_cons_ite, find?_cons_ite,
    List.find?_nil]
  rfl

/-- What the first rule says is concluded. -/
theorem diagnose_of_first (request : DiagnosisRequest) (hpasses : obs.PassesEarlyChecks)
    {rule : DiagnosticRule} (hfirst : defaultRules.find? (·.matched obs) = some rule) :
    ∃ diagnosis, DeterministicDiagnosisEngine.init.diagnose request obs = .ok diagnosis ∧
      diagnosis.isActionable = (rule.evaluate obs).isActionable ∧
      diagnosis.rootCause = (rule.evaluate obs).rootCause := by
  have hfits : confidenceFits (rule.evaluate obs).confidence = true := by
    rcases default_result hfirst with ⟨_, -, hasks⟩ | hescalates
    · exact hasks.confident.2
    · exact hescalates.fits
  obtain ⟨diagnosis, heq, hreports, -⟩ := ofResult_ok hfits request obs
    (allFindings obs DeterministicDiagnosisEngine.init.rules)
  refine ⟨diagnosis, ?_, hreports.isActionable, hreports.rootCause⟩
  rw [diagnose_of_match hpasses (init_defaultRules ▸ hfirst)]
  exact heq

/-- A rule that restarts is one of three. -/
theorem restartCause_of_first {rule : DiagnosticRule}
    (hfirst : defaultRules.find? (·.matched obs) = some rule)
    (hasked : (rule.evaluate obs).isActionable = true) :
    RestartCause obs (rule.evaluate obs).rootCause := by
  rw [find_defaultRules] at hfirst
  cases hstopped : (ContainerStoppedRule.evaluate obs).matched with
  | true =>
      rw [if_pos hstopped] at hfirst
      cases hfirst
      rw [show (containerStoppedRule.evaluate obs).rootCause = .containerStopped from
        (containerStopped_matched hstopped).2.rootCause]
      exact .stopped hstopped
  | false =>
  rw [hstopped, if_neg Bool.false_ne_true] at hfirst
  cases hquiet : dependencySignal obs with
  | true =>
      rw [if_pos hquiet] at hfirst
      cases hfirst
      rw [show (dependencyUnavailableRule.evaluate obs).isActionable = false from
        (dependencyUnavailable_escalates hquiet).isActionable] at hasked
      cases hasked
  | false =>
  rw [hquiet, if_neg Bool.false_ne_true] at hfirst
  cases hcpu : (CpuSaturationRule.evaluate obs).matched with
  | true =>
      rw [if_pos hcpu] at hfirst
      cases hfirst
      rw [show (cpuSaturationRule.evaluate obs).rootCause = .cpuSaturation from
        (cpuSaturation_matched hcpu).2.2.rootCause]
      exact .saturated hstopped hquiet hcpu
  | false =>
  rw [hcpu, if_neg Bool.false_ne_true] at hfirst
  cases hapi : (ApiUnresponsiveRule.evaluate obs).matched with
  | true =>
      rw [if_pos hapi] at hfirst
      cases hfirst
      rw [show (apiUnresponsiveRule.evaluate obs).rootCause = .apiUnresponsive from
        (apiUnresponsive_asksRestart hapi).rootCause]
      exact .unresponsive hstopped hquiet hcpu hapi
  | false =>
  rw [hapi, if_neg Bool.false_ne_true] at hfirst
  cases hhealthy : (NoActiveFaultRule.evaluate obs).matched with
  | true =>
      rw [if_pos hhealthy] at hfirst
      cases hfirst
      rw [show (noActiveFaultRule.evaluate obs).isActionable = false from
        (noActiveFault_escalates hhealthy).isActionable] at hasked
      cases hasked
  | false =>
      rw [hhealthy, if_neg Bool.false_ne_true] at hfirst
      cases hfirst

/-- **The engine restarts for a cause exactly when the rule for it is the first to match.** -/
theorem restart_iff (request : DiagnosisRequest) : (∃ diagnosis,
      DeterministicDiagnosisEngine.init.diagnose request obs = .ok diagnosis ∧
        diagnosis.isActionable = true ∧ diagnosis.rootCause = cause) ↔
    obs.PassesEarlyChecks ∧ RestartCause obs cause := by
  constructor
  · rintro ⟨diagnosis, hdiagnose, hactionable, rfl⟩
    cases hearly : earlyDiagnosis request obs with
    | some early =>
        rw [diagnose_early hearly] at hdiagnose
        cases hdiagnose
        rw [(early_escalates hearly).1] at hactionable
        cases hactionable
    | none =>
        have hpasses := earlyDiagnosis_eq_none_iff.mp hearly
        refine ⟨hpasses, ?_⟩
        cases hfirst : defaultRules.find? (·.matched obs) with
        | none =>
            rw [diagnose_of_none hpasses (init_defaultRules ▸ hfirst)] at hdiagnose
            cases hdiagnose
            rw [(unmatched_escalates request obs _).1] at hactionable
            cases hactionable
        | some rule =>
            obtain ⟨_, heq, hasked, hroot⟩ := diagnose_of_first request hpasses hfirst
            rw [heq] at hdiagnose
            cases hdiagnose
            rw [hasked] at hactionable
            rw [hroot]
            exact restartCause_of_first hfirst hactionable
  · rintro ⟨hpasses, hcause⟩
    have hrule : ∃ rule, defaultRules.find? (·.matched obs) = some rule ∧
        (rule.evaluate obs).AsksRestart cause := by
      rw [find_defaultRules]
      cases hcause with
      | stopped h => exact ⟨_, if_pos h, (containerStopped_matched h).2⟩
      | saturated hstopped hquiet h =>
          rw [hstopped, hquiet, h]
          exact ⟨_, rfl, (cpuSaturation_matched h).2.2⟩
      | unresponsive hstopped hquiet hcpu h =>
          rw [hstopped, hquiet, hcpu, h]
          exact ⟨_, rfl, apiUnresponsive_asksRestart h⟩
    obtain ⟨rule, hfirst, hasks⟩ := hrule
    obtain ⟨diagnosis, heq, hactionable, hroot⟩ := diagnose_of_first request hpasses hfirst
    exact ⟨diagnosis, heq, hactionable.trans hasks.isActionable, hroot.trans hasks.rootCause⟩

/-- The container has stopped, or looks down without running. -/
theorem containerStopped_matched_iff : (ContainerStoppedRule.evaluate obs).matched = true ↔
    obs.isStoppedState = true ∨
      (obs.upMetric.any fun up => up == 0.0) = true ∧ obs.containerStatus ≠ "running" := by
  have hrunning : obs.isRunning = false ↔ obs.containerStatus ≠ "running" := by
    rw [← Bool.not_eq_true, isRunning_iff]
  rw [← hrunning]
  unfold ContainerStoppedRule.evaluate
  simp only
  split
  · rename_i hhealthy
    rw [Bool.and_eq_true, Bool.and_eq_true] at hhealthy
    rw [not_stopped_of_running hhealthy.1.1, hhealthy.1.1]
    simp [unmatched]
  · split
    · rename_i hstopped
      simpa using hstopped
    · rename_i hstopped
      simpa [unmatched] using hstopped

/-- A load that is above a threshold is not below half. -/
theorem not_low_of_cpuAtLeast {threshold : Float} (hthreshold : 0.50 ≤ threshold)
    (h : CpuSaturationRule.cpuAtLeast threshold obs = true) :
    (obs.normalizedCpu.any fun cpu => decide (cpu < 0.50)) = false := by
  unfold CpuSaturationRule.cpuAtLeast at h
  cases hcpu : obs.normalizedCpu with
  | none => rfl
  | some cpu =>
      rw [hcpu] at h
      refine decide_eq_false fun hlow => ?_
      exact not_le_of_lt (lt_of_lt_le hlow hthreshold) (of_decide_eq_true h)

/-- The load of a running container is above a threshold, of which the alert lowers one. -/
theorem cpuSaturation_matched_iff : (CpuSaturationRule.evaluate obs).matched = true ↔
    obs.containerStatus = "running" ∧ (CpuSaturationRule.cpuAtLeast 0.75 obs ||
      obs.alertFiring "HighCpuSaturation" && CpuSaturationRule.cpuAtLeast 0.70 obs) = true := by
  rw [← isRunning_iff]
  unfold CpuSaturationRule.evaluate
  simp only
  split
  · rename_i hstopped
    rw [Bool.and_eq_true, Bool.not_eq_true'] at hstopped
    simp [unmatched, hstopped.1]
  · split
    · rename_i hlow
      rw [Bool.and_eq_true] at hlow
      refine ⟨fun h => (Bool.false_ne_true h).elim, fun h => ?_⟩
      rw [Bool.or_eq_true, Bool.and_eq_true] at h
      rcases h.2 with hload | hload
      · rw [not_low_of_cpuAtLeast (by decide +kernel) hload] at hlow
        exact absurd hlow.2 Bool.false_ne_true
      · rw [not_low_of_cpuAtLeast (by decide +kernel) hload.2] at hlow
        exact absurd hlow.2 Bool.false_ne_true
    · split
      · rename_i hmatched
        exact ⟨fun _ => Bool.and_eq_true_iff.mp hmatched, fun _ => rfl⟩
      · rename_i hmatched
        exact ⟨fun h => (Bool.false_ne_true h).elim,
          fun h => (hmatched (Bool.and_eq_true_iff.mpr h)).elim⟩

end Restart

/-! ### Values that are too old -/

namespace CollectionAnswers

variable (answers : CollectionAnswers)

def alertFires (name : String) : Bool := answers.alertNames.contains name

/-- Something says that a dependency has a problem. -/
def dependencyTrouble : Bool :=
  (((answers.value .redisConnected).any fun x => !decide (1.0 ≤ x)) ||
      answers.alertFires "RedisUnreachable") ||
    (((answers.value .dbConnections).any fun x => (truncate x).any fun n => decide (8 ≤ n)) ||
      answers.alertFires "PostgresPoolExhausted") ||
    answers.errorLines.any fun line =>
      ["redis", "postgres", "connection pool"].any fun word => textContains word (textLower line)

/-- The load is above a threshold, of which the alert lowers one. -/
def saturated : Bool :=
  answers.load.any fun x =>
    decide (0.75 ≤ x / cpuBudgetCores) ||
      answers.alertFires "HighCpuSaturation" && decide (0.70 ≤ x / cpuBudgetCores)

/-- The probe did not succeed. -/
def unready : Bool := (answers.value .probeSuccess).any fun x => !decide (1.0 ≤ x)

/-- The metric that the load is taken from. -/
def loadQuery : MetricQuery :=
  if (answers.value .cpuRate).isSome then .cpuRate else .processCpu

/-- The sample that is read of the metric is at most 900 seconds old when evidence is collected. -/
def InTime (query : MetricQuery) : Prop :=
  ∃ sample time, answers.sample query = some sample ∧ sample.latestTimestamp = some time ∧
    answers.now - time ≤ seconds 900

/-- The metric that a cause is established from, where the state of the container or an alert does
not establish it. -/
def metricOf (request : CollectionRequest) (cause : RootCause) : Option MetricQuery :=
  match cause with
  | .containerStopped =>
      if containerState request answers = "exited" ∨ containerState request answers = "dead" then
        none
      else some .up
  | .cpuSaturation => some answers.loadQuery
  | .apiUnresponsive => if answers.alertFires "ApiUnresponsive" then none else some .probeSuccess
  | _ => none

/-- The first rule that matches rests on a value that is too old. -/
inductive RestsOnOld (request : CollectionRequest) : Prop
  | stopped (hrunning : containerState request answers ≠ "running")
      (hstopped : ¬ (containerState request answers = "exited" ∨
        containerState request answers = "dead"))
      (hup : ((answers.value .up).any fun x => x == 0.0) = true) (hold : ¬ answers.InTime .up)
  | saturated (hrunning : containerState request answers = "running")
      (hquiet : answers.dependencyTrouble = false) (hload : answers.saturated = true)
      (hold : ¬ answers.InTime answers.loadQuery)
  | unresponsive (hrunning : containerState request answers = "running")
      (hquiet : answers.dependencyTrouble = false) (hload : answers.saturated = false)
      (hprobe : answers.unready = true) (halert : answers.alertFires "ApiUnresponsive" = false)
      (hold : ¬ answers.InTime .probeSuccess)

end CollectionAnswers

section Shown

variable {request : CollectionRequest} {observation : ObservationRequest}
  {answers : CollectionAnswers}

theorem dependencySignal_shown :
    dependencySignal (shownObservation request answers observation) =
      answers.dependencyTrouble := by
  have hredis : decide (((answers.value .redisConnected).map fun x => decide (1.0 ≤ x)) =
      some false) = (answers.value .redisConnected).any fun x => !decide (1.0 ≤ x) := by
    cases answers.value .redisConnected with
    | none => rfl
    | some x => cases hx : decide (1.0 ≤ x) <;> simp [hx]
  have hdb : ((answers.value .dbConnections).bind truncate).any (fun n => decide (8 ≤ n)) =
      (answers.value .dbConnections).any fun x => (truncate x).any fun n => decide (8 ≤ n) := by
    cases answers.value .dbConnections with
    | none => rfl
    | some x => rfl
  unfold CollectionAnswers.dependencyTrouble
  rw [← hredis, ← hdb]
  rfl

theorem cpuAtLeast_shown :
    (CpuSaturationRule.cpuAtLeast 0.75 (shownObservation request answers observation) ||
      (shownObservation request answers observation).alertFiring "HighCpuSaturation" &&
        CpuSaturationRule.cpuAtLeast 0.70 (shownObservation request answers observation)) =
      answers.saturated := by
  unfold CpuSaturationRule.cpuAtLeast CollectionAnswers.saturated shownObservation
  cases answers.load with
  | none => simp
  | some x => rfl

/-- Without an alert readiness fails when the probe did not succeed. -/
theorem readinessFailed_shown (halert : answers.alertFires "ApiUnresponsive" = false) :
    ApiUnresponsiveRule.readinessFailed (shownObservation request answers observation) =
      answers.unready := by
  have hfires : (shownObservation request answers observation).alertFiring "ApiUnresponsive" =
      false := halert
  unfold ApiUnresponsiveRule.readinessFailed CollectionAnswers.unready
  rw [hfires, Bool.or_false]
  unfold shownObservation
  simp only
  cases answers.value .probeSuccess with
  | none => rfl
  | some x =>
      by_cases hready : 1.0 ≤ x
      · have hlow : ¬ x < 0.5 := fun hlt =>
          not_le_of_lt (lt_of_lt_le hlt (by decide +kernel : (0.5 : Float) ≤ 1.0)) hready
        simp [hready, hlow]
      · simp [hready]

/-- What contradicts the rule is that the probe succeeded, where nothing else is wrong. -/
theorem contradicted_shown (hquiet : answers.dependencyTrouble = false)
    (hload : answers.saturated = false) (hprobe : answers.unready = true) :
    ApiUnresponsiveRule.contradicted (shownObservation request answers observation) = false := by
  have hcpu : CpuSaturationRule.cpuAtLeast 0.75 (shownObservation request answers observation) =
      false := by
    rw [← @cpuAtLeast_shown request observation answers, Bool.or_eq_false_iff] at hload
    exact hload.1
  have hdeps : (decide ((shownObservation request answers observation).redisConnected =
      some false) || (shownObservation request answers observation).dbConnectionsActive.any
        fun connections => decide (8 ≤ connections)) = false := by
    rw [← @dependencySignal_shown request observation answers] at hquiet
    unfold dependencySignal DependencyUnavailableRule.isRedisDown
      DependencyUnavailableRule.isDbPoolExhausted at hquiet
    simp only [Bool.or_eq_false_iff] at hquiet ⊢
    exact ⟨hquiet.1.1.1, hquiet.1.2.1⟩
  unfold ApiUnresponsiveRule.contradicted
  rw [hcpu, hdeps, Bool.or_false, Bool.or_false]
  unfold CollectionAnswers.unready at hprobe
  unfold shownObservation
  simp only
  cases hvalue : answers.value .probeSuccess with
  | none => rfl
  | some x =>
      rw [hvalue] at hprobe
      simpa using fun hready => absurd hready (by simpa using hprobe)

theorem stopped_shown : (ContainerStoppedRule.evaluate
      (shownObservation request answers observation)).matched = true ↔
    (containerState request answers = "exited" ∨ containerState request answers = "dead") ∨
      ((answers.value .up).any fun x => x == 0.0) = true ∧
        containerState request answers ≠ "running" := by
  rw [containerStopped_matched_iff]
  unfold ObservationBundle.isStoppedState
  rw [decide_eq_true_eq]
  rfl

theorem not_stopped_shown (hrunning : containerState request answers = "running") :
    (ContainerStoppedRule.evaluate (shownObservation request answers observation)).matched =
      false := by
  rw [← Bool.not_eq_true]
  exact fun h => (containerStopped_matched h).1 hrunning

theorem saturated_shown : (CpuSaturationRule.evaluate
      (shownObservation request answers observation)).matched = true ↔
    containerState request answers = "running" ∧ answers.saturated = true := by
  rw [cpuSaturation_matched_iff, cpuAtLeast_shown]
  rfl

/-- **A rule that restarts rests on an old value exactly where the collector is told so.** -/
theorem restsOnOld_iff (observation : ObservationRequest) : answers.RestsOnOld request ↔
    ∃ cause query, RestartCause (shownObservation request answers observation) cause ∧
      answers.metricOf request cause = some query ∧ ¬ answers.InTime query := by
  constructor
  · intro h
    cases h with
    | stopped hrunning hstopped hup hold =>
        refine ⟨.containerStopped, .up, .stopped (stopped_shown.mpr (Or.inr ⟨hup, hrunning⟩)), ?_,
          hold⟩
        unfold CollectionAnswers.metricOf
        simp only
        rw [if_neg hstopped]
    | saturated hrunning hquiet hload hold =>
        refine ⟨.cpuSaturation, answers.loadQuery, ?_, rfl, hold⟩
        exact .saturated (not_stopped_shown hrunning) (dependencySignal_shown.trans hquiet)
          (saturated_shown.mpr ⟨hrunning, hload⟩)
    | unresponsive hrunning hquiet hload hprobe halert hold =>
        have hcpu : (CpuSaturationRule.evaluate
            (shownObservation request answers observation)).matched = false := by
          rw [← Bool.not_eq_true, saturated_shown, hload]
          exact fun h => Bool.false_ne_true h.2
        have hmatched := apiUnresponsive_matched_iff.mpr
          ⟨@contradicted_shown request observation answers hquiet hload hprobe, hrunning,
            (readinessFailed_shown halert).trans hprobe⟩
        refine ⟨.apiUnresponsive, .probeSuccess, .unresponsive (not_stopped_shown hrunning)
          (dependencySignal_shown.trans hquiet) hcpu hmatched, ?_, hold⟩
        unfold CollectionAnswers.metricOf
        simp only
        rw [halert, if_neg Bool.false_ne_true]
  · rintro ⟨cause, query, hcause, hmetric, hold⟩
    cases hcause with
    | stopped h =>
        unfold CollectionAnswers.metricOf at hmetric
        simp only at hmetric
        split at hmetric
        · cases hmetric
        · rename_i hstopped
          cases hmetric
          obtain ⟨hup, hrunning⟩ := (stopped_shown.mp h).resolve_left hstopped
          exact .stopped hrunning hstopped hup hold
    | saturated _ hquiet h =>
        cases hmetric
        obtain ⟨hrunning, hload⟩ := saturated_shown.mp h
        exact .saturated hrunning (dependencySignal_shown.symm.trans hquiet) hload hold
    | unresponsive _ hquiet hcpu h =>
        unfold CollectionAnswers.metricOf at hmetric
        simp only at hmetric
        split at hmetric
        · cases hmetric
        · rename_i halert
          cases hmetric
          rw [apiUnresponsive_matched_iff, readinessFailed_shown (Bool.not_eq_true _ ▸ halert)] at h
          obtain ⟨-, hrunning, hprobe⟩ := h
          have hload : answers.saturated = false := by
            rw [← Bool.not_eq_true]
            intro hload
            rw [saturated_shown.mpr ⟨hrunning, hload⟩] at hcpu
            cases hcpu
          exact .unresponsive hrunning (dependencySignal_shown.symm.trans hquiet) hload hprobe
            (Bool.not_eq_true _ ▸ halert) hold

end Shown

/-! ### Restarts from old values -/

/-- Every restart whose cause is established from a metric is from a sample in time. -/
def NoStaleMetric (diagnosisRequest : DiagnosisRequest) (observation : ObservationRequest)
    (request : CollectionRequest) (answers : CollectionAnswers) : Prop :=
  ∀ obs, collectedObservation request observation answers = some obs →
    ∀ diagnosis, DeterministicDiagnosisEngine.init.diagnose diagnosisRequest obs = .ok diagnosis →
      diagnosis.isActionable = true → ∀ query,
        answers.metricOf request diagnosis.rootCause = some query → answers.InTime query

section Restarts

variable {diagnosisRequest : DiagnosisRequest} {observation : ObservationRequest}
  {request : CollectionRequest} {answers : CollectionAnswers}

theorem reachesRules_iff (observation : ObservationRequest) : ReachesRules request answers ↔
    readableConnections answers = true ∧
      (shownObservation request answers observation).PassesEarlyChecks := by
  rw [passesEarlyChecks_iff]
  exact ⟨fun h => ⟨h.readable, h.available, h.recent, h.found⟩,
    fun h => ⟨h.1, h.2.1, h.2.2.1, h.2.2.2⟩⟩

/-- An old value that a rule rests on leads to a restart. -/
theorem restart_of_old (hreaches : ReachesRules request answers)
    (hold : answers.RestsOnOld request) :
    ¬ NoStaleMetric diagnosisRequest observation request answers := by
  intro h
  obtain ⟨hreadable, hpasses⟩ := (reachesRules_iff observation).mp hreaches
  obtain ⟨cause, query, hcause, hmetric, hnot⟩ := (restsOnOld_iff observation).mp hold
  obtain ⟨diagnosis, hdiagnose, hactionable, rfl⟩ :=
    (restart_iff diagnosisRequest).mpr ⟨hpasses, hcause⟩
  refine hnot (h _ ?_ diagnosis hdiagnose hactionable query hmetric)
  rw [collectedObservation_eq, if_pos hreadable]

end Restarts

/-- **Restarts are from samples in time, unless the rules are reached and rest on an old value.**
The rules are reached when no query stays unavailable, not all of the telemetry is too old, and the
container is found. -/
theorem no_stale_metric_iff (diagnosisRequest : DiagnosisRequest)
    (observation : ObservationRequest) (request : CollectionRequest) (answers : CollectionAnswers) :
    NoStaleMetric diagnosisRequest observation request answers ↔
      ¬ (ReachesRules request answers ∧ answers.RestsOnOld request) := by
  constructor
  · intro h hboth
    exact restart_of_old hboth.1 hboth.2 h
  · intro h obs hobs diagnosis hdiagnose hactionable query hmetric
    rw [collectedObservation_eq] at hobs
    split at hobs
    · rename_i hreadable
      cases hobs
      obtain ⟨hpasses, hcause⟩ :=
        (restart_iff diagnosisRequest).mp ⟨diagnosis, hdiagnose, hactionable, rfl⟩
      by_contra hold
      exact h ⟨(reachesRules_iff observation).mpr ⟨hreadable, hpasses⟩,
        (restsOnOld_iff observation).mpr ⟨_, query, hcause, hmetric, hold⟩⟩
    · cases hobs

/-- A busy application, 1000 seconds ago, in a container that is up now. -/
def oldLoadAnswers : CollectionAnswers :=
  let now := seconds 2000
  let answer := fun result => some (PrometheusAnswer.response now 100 (some
    { status := some "success", result := result }))
  { now := now
    inspect := fun _ _ => { name := "demo-api", state := "running" }
    alerts := .response 200 (some (.map [("data", .map [("alerts", .seq [])])]))
    metric := fun query _ =>
      match query with
      | .up => answer [{ value := some (some now, .text "1") }]
      | .cpuRate => answer [{ value := some (some (now - seconds 1000), .text "0.9") }]
      | _ => answer []
    log := fun _ => some (.response now 100 (some { status := some "success" })) }

/-- The load is taken for a fault although its sample is too old. -/
theorem old_load_restarted :
    ¬ ∀ diagnosisRequest observation request answers,
      NoStaleMetric diagnosisRequest observation request answers := by
  intro h
  let request : CollectionRequest := { resourceId := 1, targetContainerId := some "demo-api" }
  have hyoung : ¬ IsTooOld (metricFreshness (oldLoadAnswers.metricResult .up)) := by
    have hany : (metricFreshness (oldLoadAnswers.metricResult .up)).any (fun x => !tooOld x) =
        true := by decide +kernel
    intro hold
    cases hfreshness : metricFreshness (oldLoadAnswers.metricResult .up) with
    | none =>
        rw [hfreshness] at hany
        cases hany
    | some x =>
        rw [hfreshness] at hany hold
        rw [Option.any_some, isTooOld_some_iff.mp hold] at hany
        cases hany
  have hreaches : ReachesRules request oldLoadAnswers := by
    refine ⟨by decide +kernel, by decide +kernel, Or.inr ⟨_, ?_, hyoung⟩, by decide +kernel⟩
    exact List.mem_append_left _ (List.mem_map_of_mem List.mem_cons_self)
  have hquery : oldLoadAnswers.loadQuery = .cpuRate := by decide +kernel
  have htime : (oldLoadAnswers.sample .cpuRate).bind MetricSample.latestTimestamp =
      some (seconds 1000) := by decide +kernel
  have hold : oldLoadAnswers.RestsOnOld request := by
    refine .saturated (by decide +kernel) (by decide +kernel) (by decide +kernel) ?_
    rw [hquery]
    rintro ⟨sample, time, hsample, hlatest, hage⟩
    rw [hsample, Option.bind_some, hlatest, Option.some.injEq] at htime
    rw [htime] at hage
    exact absurd hage (by decide)
  exact restart_of_old hreaches hold (h { id := 1, incidentId := 2 } {} request oldLoadAnswers)

end SelfHealing
