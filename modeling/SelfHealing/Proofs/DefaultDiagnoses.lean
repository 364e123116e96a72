/-
What the engine with its own rules concludes.

Of the five rules three ask for a restart, each under a condition on the state of the container, and
two escalate.  The rule about dependencies stands before the two that restart a running container,
so that neither of them decides where a dependency shows a problem.

The last rule matches when nothing that was observed is wrong, whereas the one about an unresponsive
service believes an alert alone.  Both match when the alert fires and readiness was not observed, and
the one that restarts stands first (`healthy_not_restarted_iff`).
-/
import SelfHealing.Proofs.RuleResolution

namespace SelfHealing

open Floats Priority

/-! ### What the results ask for -/

/-- A confidence that is enough, and that a diagnosis can hold. -/
def Confident (confidence : Float) : Prop := 0.85 ≤ confidence ∧ confidenceFits confidence = true

instance (confidence : Float) : Decidable (Confident confidence) :=
  inferInstanceAs (Decidable (_ ∧ _))

/-- The result asks for a restart, for this cause and with confidence. -/
structure Diagnosis.RuleEvaluationResult.AsksRestart (result : Diagnosis.RuleEvaluationResult)
    (cause : RootCause) : Prop where
  rootCause : result.rootCause = cause
  isActionable : result.isActionable = true
  confident : Confident result.confidence

/-- There is a reason that says something. -/
def Explained (reason : Option String) : Prop := ∃ text, reason = some text ∧ text ≠ ""

/-- The result asks for no restart, and says why. -/
structure Diagnosis.RuleEvaluationResult.Escalates (result : Diagnosis.RuleEvaluationResult) :
    Prop where
  isActionable : result.isActionable = false
  explained : Explained result.escalationReason
  fits : confidenceFits result.confidence = true

/-- Something says that a dependency has a problem. -/
def dependencySignal (obs : ObservationBundle) : Bool :=
  DependencyUnavailableRule.isRedisDown obs || DependencyUnavailableRule.isDbPoolExhausted obs ||
    DependencyUnavailableRule.logDepError obs

section Rules

variable {obs : ObservationBundle}

theorem isRunning_iff : obs.isRunning = true ↔ obs.containerStatus = "running" := by
  unfold ObservationBundle.isRunning
  exact decide_eq_true_iff

theorem not_stopped_of_running (h : obs.isRunning = true) : obs.isStoppedState = false := by
  unfold ObservationBundle.isStoppedState
  rw [isRunning_iff.mp h]
  decide

theorem confident_ite (b : Bool) {confidence confidence' : Float} (h : Confident confidence)
    (h' : Confident confidence') : Confident (if b then confidence else confidence') := by
  cases b with
  | true => exact h
  | false => exact h'

theorem explained_append {text rest : String} (h : Explained (some text)) :
    Explained (some (text ++ rest)) := by
  obtain ⟨text', heq, hne⟩ := h
  rw [Option.some.injEq] at heq
  subst heq
  exact ⟨_, rfl, fun h' => hne (String.append_eq_empty_iff.mp h').1⟩

/-! ### When each rule matches

For each rule there is one equation: the condition under which it matches, on the fields of the
observation.
-/

theorem containerStopped_matched (h : (ContainerStoppedRule.evaluate obs).matched = true) :
    obs.containerStatus ≠ "running" ∧
      (ContainerStoppedRule.evaluate obs).AsksRestart .containerStopped := by
  unfold ContainerStoppedRule.evaluate at h ⊢
  simp only at h ⊢
  split at h
  · cases h
  · rename_i hhealthy
    rw [if_neg hhealthy]
    split at h
    · rename_i hstopped
      rw [if_pos hstopped]
      refine ⟨fun hrunning => ?_, rfl, rfl, ?_⟩
      · rw [not_stopped_of_running (isRunning_iff.mpr hrunning), isRunning_iff.mpr hrunning,
          Bool.not_true, Bool.and_false] at hstopped
        cases hstopped
      · exact confident_ite _ (by decide +kernel) (by decide +kernel)
    · cases h

theorem dependencyUnavailable_matched_iff :
    (DependencyUnavailableRule.evaluate obs).matched = true ↔ dependencySignal obs = true := by
  unfold DependencyUnavailableRule.evaluate dependencySignal
  split
  · rename_i h
    exact ⟨fun _ => h, fun _ => rfl⟩
  · rename_i h
    exact ⟨fun h' => (Bool.false_ne_true h').elim, fun h' => (h h').elim⟩

theorem dependencyUnavailable_escalates (h : dependencySignal obs = true) :
    (DependencyUnavailableRule.evaluate obs).Escalates := by
  unfold dependencySignal at h
  unfold DependencyUnavailableRule.evaluate
  rw [if_pos h]
  have hexplained : Explained (some (toString "Underlying external dependency (")) :=
    ⟨_, rfl, by decide⟩
  exact ⟨rfl, explained_append (explained_append (explained_append hexplained)),
    show confidenceFits 0.90 = true by decide +kernel⟩

theorem cpuSaturation_matched (h : (CpuSaturationRule.evaluate obs).matched = true) :
    obs.containerStatus = "running" ∧
      (CpuSaturationRule.cpuAtLeast 0.75 obs = true ∨ CpuSaturationRule.cpuAtLeast 0.70 obs = true) ∧
      (CpuSaturationRule.evaluate obs).AsksRestart .cpuSaturation := by
  unfold CpuSaturationRule.evaluate at h ⊢
  simp only at h ⊢
  split at h
  · cases h
  · rename_i hstopped
    rw [if_neg hstopped]
    split at h
    · cases h
    · rename_i hcontradicted
      rw [if_neg hcontradicted]
      split at h
      · rename_i hsaturated
        rw [if_pos hsaturated]
        rw [Bool.and_eq_true, Bool.or_eq_true, Bool.and_eq_true] at hsaturated
        refine ⟨isRunning_iff.mp hsaturated.1, hsaturated.2.imp_right And.right, rfl, rfl, ?_⟩
        exact confident_ite _ (by decide +kernel) (by decide +kernel)
      · cases h

/-- What the rule about an unresponsive service takes for a contradiction. -/
def ApiUnresponsiveRule.contradicted (obs : ObservationBundle) : Bool :=
  (obs.readinessSuccessRatio.any fun ratio => decide (1.0 ≤ ratio)) &&
      decide (obs.latestReadinessCode = some 200) ||
    CpuSaturationRule.cpuAtLeast 0.75 obs ||
    (decide (obs.redisConnected = some false) ||
      obs.dbConnectionsActive.any fun connections => decide (8 ≤ connections))

theorem apiUnresponsive_matched_iff : (ApiUnresponsiveRule.evaluate obs).matched = true ↔
    ApiUnresponsiveRule.contradicted obs = false ∧ obs.containerStatus = "running" ∧
      ApiUnresponsiveRule.readinessFailed obs = true := by
  unfold ApiUnresponsiveRule.evaluate ApiUnresponsiveRule.contradicted
  simp only
  rw [Bool.or_eq_false_iff, Bool.or_eq_false_iff, ← isRunning_iff]
  split
  · rename_i hready
    exact ⟨fun h => (Bool.false_ne_true h).elim,
      fun h => (Bool.false_ne_true (h.1.1.1 ▸ hready)).elim⟩
  · rename_i hready
    split
    · rename_i hcpu
      exact ⟨fun h => (Bool.false_ne_true h).elim,
        fun h => (Bool.false_ne_true (h.1.1.2 ▸ hcpu)).elim⟩
    · rename_i hcpu
      split
      · rename_i hdeps
        exact ⟨fun h => (Bool.false_ne_true h).elim,
          fun h => (Bool.false_ne_true (h.1.2 ▸ hdeps)).elim⟩
      · rename_i hdeps
        have hnone := And.intro
          (And.intro (Bool.not_eq_true _ ▸ hready) (Bool.not_eq_true _ ▸ hcpu))
          (Bool.not_eq_true _ ▸ hdeps)
        split
        · rename_i hfailed
          exact ⟨fun _ => ⟨hnone, Bool.and_eq_true_iff.mp hfailed⟩, fun _ => rfl⟩
        · rename_i hfailed
          exact ⟨fun h => (Bool.false_ne_true h).elim,
            fun h => (hfailed (Bool.and_eq_true_iff.mpr h.2)).elim⟩

theorem apiUnresponsive_asksRestart (h : (ApiUnresponsiveRule.evaluate obs).matched = true) :
    (ApiUnresponsiveRule.evaluate obs).AsksRestart .apiUnresponsive := by
  unfold ApiUnresponsiveRule.evaluate at h ⊢
  simp only at h ⊢
  split at h
  · cases h
  · rename_i hready
    rw [if_neg hready]
    split at h
    · cases h
    · rename_i hcpu
      rw [if_neg hcpu]
      split at h
      · cases h
      · rename_i hdeps
        rw [if_neg hdeps]
        split at h
        · rename_i hfailed
          rw [if_pos hfailed]
          exact ⟨rfl, rfl, confident_ite _ (by decide +kernel) (by decide +kernel)⟩
        · cases h

theorem noActiveFault_matched_iff : (NoActiveFaultRule.evaluate obs).matched = true ↔
    obs.containerStatus = "running" ∧ NoActiveFaultRule.isUpOk obs = true ∧
      NoActiveFaultRule.isReadinessOk obs = true ∧ NoActiveFaultRule.isCpuOk obs = true ∧
      NoActiveFaultRule.isDepsOk obs = true := by
  unfold NoActiveFaultRule.evaluate
  rw [← isRunning_iff]
  split
  · rename_i h
    simp only [Bool.and_eq_true] at h
    exact ⟨fun _ => ⟨h.1.1.1.1, h.1.1.1.2, h.1.1.2, h.1.2, h.2⟩, fun _ => rfl⟩
  · rename_i h
    simp only [Bool.and_eq_true] at h
    exact ⟨fun h' => (Bool.false_ne_true h').elim,
      fun h' => (h ⟨⟨⟨⟨h'.1, h'.2.1⟩, h'.2.2.1⟩, h'.2.2.2.1⟩, h'.2.2.2.2⟩).elim⟩

theorem noActiveFault_escalates (h : (NoActiveFaultRule.evaluate obs).matched = true) :
    (NoActiveFaultRule.evaluate obs).Escalates := by
  unfold NoActiveFaultRule.evaluate at h ⊢
  split at h
  · rename_i hhealthy
    rw [if_pos hhealthy]
    exact ⟨rfl, explained_append ⟨_, rfl, by decide⟩,
      show confidenceFits 0.95 = true by decide +kernel⟩
  · cases h

end Rules

/-! ### The engine with these rules

The rules are sorted already, so that the first that matches is found by going through them in
order.
-/

section Engine

variable {request : DiagnosisRequest} {obs : ObservationBundle} {diagnosis : DiagnosisSchema}

/-- The rules are given in the order of their priorities. -/
theorem init_defaultRules : DeterministicDiagnosisEngine.init.rules = defaultRules :=
  sortOn_of_sorted _ (by decide)

/-- What is behind a restart for the cause. -/
structure RestartConditions (obs : ObservationBundle) (cause : RootCause) : Prop where
  known : cause = .containerStopped ∨ cause = .cpuSaturation ∨ cause = .apiUnresponsive
  stopped : cause = .containerStopped → obs.containerStatus ≠ "running"
  running : cause = .cpuSaturation ∨ cause = .apiUnresponsive →
    obs.containerStatus = "running" ∧ dependencySignal obs = false

/-- The first rule that matches, and what is known of those before it. -/
theorem default_first {rule : DiagnosticRule}
    (hfirst : defaultRules.find? (·.matched obs) = some rule) :
    rule.matched obs = true ∧
      (rule = containerStoppedRule ∨ rule = dependencyUnavailableRule ∨
        (rule = cpuSaturationRule ∨ rule = apiUnresponsiveRule) ∧ dependencySignal obs = false ∨
        rule = noActiveFaultRule) := by
  have hmatched : rule.matched obs = true := List.find?_some hfirst
  refine ⟨hmatched, ?_⟩
  unfold defaultRules at hfirst
  rw [List.find?_cons] at hfirst
  split at hfirst
  · exact Or.inl (Option.some.inj hfirst).symm
  · rw [List.find?_cons] at hfirst
    split at hfirst
    · exact Or.inr (Or.inl (Option.some.inj hfirst).symm)
    · rename_i hdeps
      have hquiet : dependencySignal obs = false := by
        rw [← Bool.not_eq_true]
        exact mt dependencyUnavailable_matched_iff.mpr (Bool.not_eq_true _ ▸ hdeps)
      rcases List.mem_cons.mp (List.mem_of_find?_eq_some hfirst) with h | h
      · exact Or.inr (Or.inr (Or.inl ⟨Or.inl h, hquiet⟩))
      · rcases List.mem_cons.mp h with h | h
        · exact Or.inr (Or.inr (Or.inl ⟨Or.inr h, hquiet⟩))
        · exact Or.inr (Or.inr (Or.inr (List.mem_singleton.mp h)))

/-- The result that decides asks for a restart under its conditions, or escalates. -/
theorem default_result {rule : DiagnosticRule}
    (hfirst : defaultRules.find? (·.matched obs) = some rule) :
    (∃ cause, RestartConditions obs cause ∧ (rule.evaluate obs).AsksRestart cause) ∨
      (rule.evaluate obs).Escalates := by
  obtain ⟨hmatched, rfl | rfl | ⟨rfl | rfl, hquiet⟩ | rfl⟩ := default_first hfirst
  · obtain ⟨hstatus, hasks⟩ := containerStopped_matched hmatched
    exact Or.inl ⟨_, ⟨Or.inl rfl, fun _ => hstatus, by simp⟩, hasks⟩
  · exact Or.inr (dependencyUnavailable_escalates (dependencyUnavailable_matched_iff.mp hmatched))
  · obtain ⟨hrunning, -, hasks⟩ := cpuSaturation_matched hmatched
    exact Or.inl ⟨_, ⟨Or.inr (Or.inl rfl), by simp, fun _ => ⟨hrunning, hquiet⟩⟩, hasks⟩
  · obtain ⟨-, hrunning, -⟩ := apiUnresponsive_matched_iff.mp hmatched
    exact Or.inl ⟨_, ⟨Or.inr (Or.inr rfl), by simp, fun _ => ⟨hrunning, hquiet⟩⟩,
      apiUnresponsive_asksRestart hmatched⟩
  · exact Or.inr (noActiveFault_escalates hmatched)

/-- The early checks restart nothing, and say why. -/
theorem early_escalates (h : earlyDiagnosis request obs = some diagnosis) :
    diagnosis.isActionable = false ∧ Explained diagnosis.escalationReason := by
  unfold earlyDiagnosis at h
  split at h
  · rw [← Option.some.inj h]
    exact ⟨rfl, explained_append ⟨_, rfl, by decide⟩⟩
  · split at h
    · rw [← Option.some.inj h]
      exact ⟨rfl, explained_append (explained_append (explained_append ⟨_, rfl, by decide⟩))⟩
    · split at h
      · rw [← Option.some.inj h]
        exact ⟨rfl, explained_append (explained_append ⟨_, rfl, by decide⟩)⟩
      · cases h

theorem unmatched_escalates (request : DiagnosisRequest) (obs : ObservationBundle)
    (findings : List String) :
    let diagnosis := if findings = [] then unconfirmedDiagnosis request obs
      else ambiguousDiagnosis request obs findings
    diagnosis.isActionable = false ∧ Explained diagnosis.escalationReason := by
  intro diagnosis
  by_cases h : findings = []
  · simp only [diagnosis, if_pos h]
    exact ⟨rfl, explained_append ⟨_, rfl, by decide⟩⟩
  · simp only [diagnosis, if_neg h]
    exact ⟨rfl, explained_append ⟨_, rfl, by decide⟩⟩

/-- **There is always a diagnosis, and what it asks for is backed.**  A restart passes the early
checks, has the conditions of its cause, and enough confidence; whatever is no restart says why. -/
theorem default_diagnosis_backed (request : DiagnosisRequest) (obs : ObservationBundle) :
    ∃ diagnosis, DeterministicDiagnosisEngine.init.diagnose request obs = .ok diagnosis ∧
      (diagnosis.isActionable = true → obs.PassesEarlyChecks ∧ 0.85 ≤ diagnosis.confidence ∧
        RestartConditions obs diagnosis.rootCause) ∧
      (diagnosis.isActionable = false → Explained diagnosis.escalationReason) := by
  cases hearly : earlyDiagnosis request obs with
  | some diagnosis =>
      obtain ⟨hactionable, hexplained⟩ := early_escalates hearly
      refine ⟨diagnosis, diagnose_early hearly, ?_, fun _ => hexplained⟩
      rw [hactionable]
      exact fun h => (Bool.false_ne_true h).elim
  | none =>
      have hpasses := earlyDiagnosis_eq_none_iff.mp hearly
      cases hfirst : defaultRules.find? (·.matched obs) with
      | none =>
          rw [diagnose_of_none hpasses (init_defaultRules ▸ hfirst)]
          obtain ⟨hactionable, hexplained⟩ := unmatched_escalates request obs
            (allFindings obs DeterministicDiagnosisEngine.init.rules)
          refine ⟨_, rfl, ?_, fun _ => hexplained⟩
          rw [hactionable]
          exact fun h => (Bool.false_ne_true h).elim
      | some rule =>
          rw [diagnose_of_match hpasses (init_defaultRules ▸ hfirst)]
          rcases default_result hfirst with ⟨cause, hconditions, hasks⟩ | hescalates
          · obtain ⟨diagnosis, heq, hreports, -⟩ := ofResult_ok hasks.confident.2 request obs _
            refine ⟨diagnosis, heq, fun _ => ⟨hpasses, ?_, ?_⟩, ?_⟩
            · exact hreports.confidence ▸ hasks.confident.1
            · rw [hreports.rootCause, hasks.rootCause]
              exact hconditions
            · rw [hreports.isActionable, hasks.isActionable]
              exact fun h => (Bool.false_ne_true h.symm).elim
          · obtain ⟨diagnosis, heq, hreports, -⟩ := ofResult_ok hescalates.fits request obs _
            refine ⟨diagnosis, heq, ?_, fun _ => hreports.escalationReason ▸ hescalates.explained⟩
            rw [hreports.isActionable, hescalates.isActionable]
            exact fun h => (Bool.false_ne_true h).elim

/-- A rule that asks for a restart gets it when it is the first to match. -/
theorem diagnose_restarts (request : DiagnosisRequest) (hpasses : obs.PassesEarlyChecks)
    {rule : DiagnosticRule} {cause : RootCause}
    (hfirst : defaultRules.find? (·.matched obs) = some rule)
    (hasks : (rule.evaluate obs).AsksRestart cause) :
    ∃ diagnosis, DeterministicDiagnosisEngine.init.diagnose request obs = .ok diagnosis ∧
      diagnosis.isActionable = true := by
  obtain ⟨diagnosis, heq, hreports, -⟩ := ofResult_ok hasks.confident.2 request obs
    (allFindings obs DeterministicDiagnosisEngine.init.rules)
  refine ⟨diagnosis, ?_, hreports.isActionable.trans hasks.isActionable⟩
  rw [diagnose_of_match hpasses (init_defaultRules ▸ hfirst)]
  exact heq

end Engine

/-- A freshness that is not a number is not at most 900, and passes. -/
theorem freshness_nan_passes :
    ¬ ∀ request obs diagnosis, DeterministicDiagnosisEngine.init.diagnose request obs = .ok diagnosis →
      diagnosis.isActionable = true → ∀ freshness, obs.freshnessSeconds = some freshness →
        (compareInt freshness 900).any Ordering.isLE = true := by
  intro h
  let obs : ObservationBundle :=
    { resourceId := 1
      serviceName := "demo"
      containerStatus := "exited"
      freshnessSeconds := some nan }
  have hpasses : obs.PassesEarlyChecks := ⟨rfl, by simp [obs], rfl, by simp [obs]⟩
  have hmatched : (ContainerStoppedRule.evaluate obs).matched = true := rfl
  have hfirst : defaultRules.find? (·.matched obs) = some containerStoppedRule := rfl
  obtain ⟨diagnosis, heq, hactionable⟩ := diagnose_restarts { id := 1, incidentId := 2 }
    hpasses hfirst (containerStopped_matched hmatched).2
  have hle := h _ obs diagnosis heq hactionable nan rfl
  rw [compareInt_nan shape_nan] at hle
  exact Bool.false_ne_true hle

/-! ### Healthy workloads

What was not observed is healthy to the last rule, and it is not held against the alert by the rule
about unresponsive services.  So both match where the alert fires and readiness was not observed;
the one that restarts has the higher priority, and the last rule is not heard.
-/

section Healthy

variable {obs : ObservationBundle}

/-- The alert fires, and readiness was not observed in full. -/
def AlertAlone (obs : ObservationBundle) : Prop :=
  obs.alertFiring "ApiUnresponsive" = true ∧
    (obs.readinessSuccessRatio = none ∨ obs.latestReadinessCode = none)

/-- What is below half is at no threshold above. -/
theorem cpuAtLeast_of_cpuOk (h : NoActiveFaultRule.isCpuOk obs = true) {threshold : Float}
    (hthreshold : 0.50 ≤ threshold) : CpuSaturationRule.cpuAtLeast threshold obs = false := by
  unfold NoActiveFaultRule.isCpuOk at h
  unfold CpuSaturationRule.cpuAtLeast
  cases hcpu : obs.normalizedCpu with
  | none => rfl
  | some cpu =>
      rw [hcpu] at h
      have hlow : cpu < 0.50 := of_decide_eq_true h
      exact decide_eq_false (not_le_of_lt (lt_of_lt_le hlow hthreshold))

theorem healthy_not_saturated (h : NoActiveFaultRule.isCpuOk obs = true) :
    ¬ (CpuSaturationRule.evaluate obs).matched = true := by
  intro hmatched
  obtain ⟨-, hcpu, -⟩ := cpuSaturation_matched hmatched
  rw [cpuAtLeast_of_cpuOk h (by decide +kernel), cpuAtLeast_of_cpuOk h (by decide +kernel)] at hcpu
  exact Bool.false_ne_true (hcpu.elim id id)

theorem healthy_not_stopped (h : obs.containerStatus = "running") :
    ¬ (ContainerStoppedRule.evaluate obs).matched = true :=
  fun hmatched => (containerStopped_matched hmatched).1 h

/-- A healthy workload contradicts an unresponsive service by its readiness alone. -/
theorem healthy_contradicted_iff (hcpu : NoActiveFaultRule.isCpuOk obs = true)
    (hdeps : NoActiveFaultRule.isDepsOk obs = true)
    (hready : NoActiveFaultRule.isReadinessOk obs = true) :
    ApiUnresponsiveRule.contradicted obs = false ↔
      obs.readinessSuccessRatio = none ∨ obs.latestReadinessCode = none := by
  have hquiet : (decide (obs.redisConnected = some false) ||
      obs.dbConnectionsActive.any fun connections => decide (8 ≤ connections)) = false := by
    unfold NoActiveFaultRule.isDepsOk at hdeps
    rw [Bool.and_eq_true, decide_eq_true_eq] at hdeps
    rw [Bool.or_eq_false_iff]
    refine ⟨decide_eq_false hdeps.1, ?_⟩
    cases hconnections : obs.dbConnectionsActive with
    | none => rfl
    | some connections =>
        rw [hconnections] at hdeps
        have hfew : connections < 8 := of_decide_eq_true hdeps.2
        exact decide_eq_false (by omega)
  unfold NoActiveFaultRule.isReadinessOk at hready
  rw [Bool.and_eq_true] at hready
  obtain ⟨hratioOk, hcodeOk⟩ := hready
  unfold ApiUnresponsiveRule.contradicted
  rw [hquiet, cpuAtLeast_of_cpuOk hcpu (by decide +kernel), Bool.or_false, Bool.or_false]
  cases hratio : obs.readinessSuccessRatio with
  | none => exact ⟨fun _ => Or.inl rfl, fun _ => rfl⟩
  | some ratio =>
      rw [hratio] at hratioOk
      have hfull : (Option.some ratio).any (fun ratio => decide (1.0 ≤ ratio)) = true := hratioOk
      rw [hfull, Bool.true_and]
      cases hcode : obs.latestReadinessCode with
      | none => exact ⟨fun _ => Or.inr rfl, fun _ => rfl⟩
      | some code =>
          rw [hcode] at hcodeOk
          have hok : code = 200 := of_decide_eq_true hcodeOk
          simp [hok]

/-- Readiness that is acceptable fails by the alert alone. -/
theorem healthy_readinessFailed (hready : NoActiveFaultRule.isReadinessOk obs = true) :
    ApiUnresponsiveRule.readinessFailed obs = obs.alertFiring "ApiUnresponsive" := by
  unfold NoActiveFaultRule.isReadinessOk at hready
  rw [Bool.and_eq_true] at hready
  have hratio : (obs.readinessSuccessRatio.any fun ratio => decide (ratio < 0.5)) = false := by
    cases hratio : obs.readinessSuccessRatio with
    | none => rfl
    | some ratio =>
        rw [hratio] at hready
        have hfull : 1.0 ≤ ratio := of_decide_eq_true hready.1
        have hbelow : (0.5 : Float) ≤ 1.0 := by decide +kernel
        exact decide_eq_false fun hlow => not_le_of_lt (lt_of_lt_le hlow hbelow) hfull
  have hcode : (obs.latestReadinessCode.any fun code => decide (code ≠ 200)) = false := by
    cases hcode : obs.latestReadinessCode with
    | none => rfl
    | some code =>
        rw [hcode] at hready
        have hok : code = 200 := of_decide_eq_true hready.2
        exact decide_eq_false (not_not.mpr hok)
  unfold ApiUnresponsiveRule.readinessFailed
  rw [hratio, hcode, Bool.false_or, Bool.false_or]

/-- A healthy workload is unresponsive as well where the alert is alone. -/
theorem healthy_unresponsive_iff (h : (NoActiveFaultRule.evaluate obs).matched = true) :
    (ApiUnresponsiveRule.evaluate obs).matched = true ↔ AlertAlone obs := by
  obtain ⟨hrunning, -, hready, hcpu, hdeps⟩ := noActiveFault_matched_iff.mp h
  rw [apiUnresponsive_matched_iff, healthy_contradicted_iff hcpu hdeps hready,
    healthy_readinessFailed hready]
  exact ⟨fun ⟨hunobserved, _, halert⟩ => ⟨halert, hunobserved⟩,
    fun ⟨halert, hunobserved⟩ => ⟨hunobserved, hrunning, halert⟩⟩

/-- The rules before the last that a healthy workload may match. -/
theorem healthy_first (h : (NoActiveFaultRule.evaluate obs).matched = true) :
    defaultRules.find? (·.matched obs) =
      if dependencySignal obs = true then some dependencyUnavailableRule
      else if (ApiUnresponsiveRule.evaluate obs).matched = true then some apiUnresponsiveRule
      else some noActiveFaultRule := by
  obtain ⟨hrunning, -, -, hcpu, -⟩ := noActiveFault_matched_iff.mp h
  have hstopped : ¬ containerStoppedRule.matched obs = true := healthy_not_stopped hrunning
  have hsaturated : ¬ cpuSaturationRule.matched obs = true := healthy_not_saturated hcpu
  unfold defaultRules
  rw [List.find?_cons_of_neg hstopped]
  by_cases hsignal : dependencySignal obs = true
  · have hdeps : dependencyUnavailableRule.matched obs = true :=
      dependencyUnavailable_matched_iff.mpr hsignal
    rw [List.find?_cons_of_pos hdeps, if_pos hsignal]
  · have hdeps : ¬ dependencyUnavailableRule.matched obs = true :=
      mt dependencyUnavailable_matched_iff.mp hsignal
    rw [List.find?_cons_of_neg hdeps, List.find?_cons_of_neg hsaturated, if_neg hsignal]
    by_cases hmatched : (ApiUnresponsiveRule.evaluate obs).matched = true
    · have hapi : apiUnresponsiveRule.matched obs = true := hmatched
      rw [List.find?_cons_of_pos hapi, if_pos hmatched]
    · have hapi : ¬ apiUnresponsiveRule.matched obs = true := hmatched
      have hhealthy : noActiveFaultRule.matched obs = true := h
      rw [List.find?_cons_of_neg hapi, List.find?_cons_of_pos hhealthy, if_neg hmatched]

/-- A rule that escalates gives a diagnosis that does. -/
theorem diagnose_escalates {request : DiagnosisRequest} {diagnosis : DiagnosisSchema}
    {rule : DiagnosticRule} (hpasses : obs.PassesEarlyChecks)
    (hfirst : defaultRules.find? (·.matched obs) = some rule)
    (hrule : (rule.evaluate obs).Escalates)
    (h : DeterministicDiagnosisEngine.init.diagnose request obs = .ok diagnosis) :
    diagnosis.isActionable = false := by
  obtain ⟨diagnosis', heq, hreports, -⟩ := ofResult_ok hrule.fits request obs
    (allFindings obs DeterministicDiagnosisEngine.init.rules)
  rw [diagnose_of_match hpasses (init_defaultRules ▸ hfirst), heq, Except.ok.injEq] at h
  rw [← h, hreports.isActionable, hrule.isActionable]

end Healthy

/-- **A healthy workload is restarted exactly on an alert alone**: when the last rule matches, the
diagnosis asks for a restart if and only if the alert fires without readiness having been observed,
no dependency shows a problem, and the early checks pass.  Only the alert makes another rule that
asks for a restart match. -/
theorem healthy_not_restarted_iff (request : DiagnosisRequest) (obs : ObservationBundle)
    (h : (NoActiveFaultRule.evaluate obs).matched = true) :
    ((∀ diagnosis, DeterministicDiagnosisEngine.init.diagnose request obs = .ok diagnosis →
        diagnosis.isActionable = false) ↔
      ¬ (AlertAlone obs ∧ dependencySignal obs = false ∧ obs.PassesEarlyChecks)) ∧
    ((∀ rule ∈ defaultRules, rule.matched obs = true → (rule.evaluate obs).isActionable = false) ↔
      ¬ AlertAlone obs) := by
  obtain ⟨hrunning, -, -, hcpu, -⟩ := noActiveFault_matched_iff.mp h
  refine ⟨⟨?_, ?_⟩, ?_, ?_⟩
  · rintro hnone ⟨halert, hquiet, hpasses⟩
    have hapi := (healthy_unresponsive_iff h).mpr halert
    have hfirst := healthy_first h
    rw [hquiet, if_neg Bool.false_ne_true, if_pos hapi] at hfirst
    obtain ⟨diagnosis, heq, hactionable⟩ := diagnose_restarts request hpasses hfirst
      (apiUnresponsive_asksRestart hapi)
    rw [hnone diagnosis heq] at hactionable
    exact Bool.false_ne_true hactionable
  · intro hnot diagnosis heq
    cases hearly : earlyDiagnosis request obs with
    | some diagnosis' =>
        rw [diagnose_early hearly, Except.ok.injEq] at heq
        exact heq ▸ (early_escalates hearly).1
    | none =>
        have hpasses := earlyDiagnosis_eq_none_iff.mp hearly
        have hfirst := healthy_first h
        by_cases hsignal : dependencySignal obs = true
        · rw [if_pos hsignal] at hfirst
          exact diagnose_escalates hpasses hfirst (dependencyUnavailable_escalates hsignal) heq
        · have hapi : ¬ (ApiUnresponsiveRule.evaluate obs).matched = true := fun hmatched =>
            hnot ⟨(healthy_unresponsive_iff h).mp hmatched, Bool.not_eq_true _ ▸ hsignal, hpasses⟩
          rw [if_neg hsignal, if_neg hapi] at hfirst
          exact diagnose_escalates hpasses hfirst (noActiveFault_escalates h) heq
  · intro hnone halert
    have hapi := (healthy_unresponsive_iff h).mpr halert
    have hactionable : (ApiUnresponsiveRule.evaluate obs).isActionable = false :=
      hnone apiUnresponsiveRule (by simp [defaultRules]) hapi
    rw [(apiUnresponsive_asksRestart hapi).isActionable] at hactionable
    exact Bool.false_ne_true hactionable.symm
  · intro hnot rule hmem hmatched
    simp only [defaultRules, List.mem_cons, List.not_mem_nil, or_false] at hmem
    rcases hmem with rfl | rfl | rfl | rfl | rfl
    · exact (healthy_not_stopped hrunning hmatched).elim
    · exact (dependencyUnavailable_escalates
        (dependencyUnavailable_matched_iff.mp hmatched)).isActionable
    · exact (healthy_not_saturated hcpu hmatched).elim
    · exact (hnot ((healthy_unresponsive_iff h).mp hmatched)).elim
    · exact (noActiveFault_escalates hmatched).isActionable

/-- A running container of which nothing else was observed. -/
def unprobedWorkload : ObservationBundle where
  resourceId := 1
  serviceName := "demo"
  containerStatus := "running"

/-- The same with the alert, and a readiness probe that answers. -/
def probedWorkload : ObservationBundle :=
  { unprobedWorkload with
    firingAlerts := ["ApiUnresponsive"]
    readinessSuccessRatio := some 1.0
    latestReadinessCode := some 200 }

/-- It is not restarted, whatever the alert says. -/
theorem probed_not_restarted :
    ∃ diagnosis, DeterministicDiagnosisEngine.init.diagnose { id := 1, incidentId := 2 }
        probedWorkload = .ok diagnosis ∧ diagnosis.isActionable = false := by
  have hprobed : (NoActiveFaultRule.evaluate probedWorkload).matched = true := rfl
  have hobserved : ¬ (probedWorkload.readinessSuccessRatio = none ∨
      probedWorkload.latestReadinessCode = none) := by simp [probedWorkload]
  have hnot := (healthy_not_restarted_iff { id := 1, incidentId := 2 } probedWorkload hprobed).1.mpr
    fun hbad => hobserved hbad.1.2
  have hok : ∃ diagnosis, DeterministicDiagnosisEngine.init.diagnose { id := 1, incidentId := 2 }
      probedWorkload = .ok diagnosis := ⟨_, rfl⟩
  obtain ⟨diagnosis, hdiagnosis⟩ := hok
  exact ⟨diagnosis, hdiagnosis, hnot diagnosis hdiagnosis⟩

/-- With the alert alone, and nothing observed of the readiness, it is. -/
theorem alerted_workload_restarted :
    let obs := { unprobedWorkload with firingAlerts := ["ApiUnresponsive"] }
    (NoActiveFaultRule.evaluate obs).matched = true ∧
      ∃ diagnosis, DeterministicDiagnosisEngine.init.diagnose { id := 1, incidentId := 2 } obs =
        .ok diagnosis ∧ diagnosis.isActionable = true := by
  intro obs
  refine ⟨rfl, ?_⟩
  have hmatched : (ApiUnresponsiveRule.evaluate obs).matched = true := rfl
  have hfirst : defaultRules.find? (·.matched obs) = some apiUnresponsiveRule := rfl
  have hpasses : obs.PassesEarlyChecks :=
    ⟨rfl, by simp [obs, unprobedWorkload], rfl, by simp [obs, unprobedWorkload]⟩
  exact diagnose_restarts _ hpasses hfirst (apiUnresponsive_asksRestart hmatched)

end SelfHealing
