/-
Which rule a diagnosis is from.

The engine collects what all rules say and takes the first result that matches, in the order of the
priorities.  The collected results are a filter of the rules and the contradictions their
concatenation (`evaluateRules_eq`), so that the diagnosis is decided by the first rule of the sorted
list that matches; that one is described by `Lib/Priority` in terms of the list as it was given.

A diagnosis holds no confidence outside of its bounds.  A rule that reports one has its result
refused, and there is no diagnosis then.
-/
import SelfHealing.Diagnosis

namespace SelfHealing

open Floats Priority

/-! ### The early checks -/

/-- None of the three checks before the rules applies. -/
structure ObservationBundle.PassesEarlyChecks (obs : ObservationBundle) : Prop where
  available : obs.isTelemetryUnavailable = false
  answered : obs.completeness.lookup "prometheus" ≠ some "UNAVAILABLE"
  fresh : (obs.freshnessSeconds.any fun freshness => compareInt freshness 900 == some .gt) = false
  found : obs.containerStatus ≠ "not_found"

section Diagnose

variable {request : DiagnosisRequest} {obs : ObservationBundle} {rules : List DiagnosticRule}
  {engine : DeterministicDiagnosisEngine}

theorem earlyDiagnosis_eq_none_iff : earlyDiagnosis request obs = none ↔ obs.PassesEarlyChecks := by
  unfold earlyDiagnosis
  constructor
  · intro h
    split at h
    · cases h
    · rename_i hunavailable
      split at h
      · cases h
      · rename_i hstale
        split at h
        · cases h
        · rename_i hfound
          rw [not_or] at hunavailable
          exact ⟨Bool.not_eq_true _ ▸ hunavailable.1, hunavailable.2,
            Bool.not_eq_true _ ▸ hstale, hfound⟩
  · intro h
    have hunavailable : ¬ (obs.isTelemetryUnavailable ∨
        obs.completeness.lookup "prometheus" = some "UNAVAILABLE") := by
      rw [h.available]
      exact fun h' => h'.elim Bool.false_ne_true h.answered
    rw [if_neg hunavailable, if_neg (Bool.not_eq_true _ ▸ h.fresh), if_neg h.found]

/-! ### The rules that match -/

/-- What the rule says of the observations is that it matches. -/
def DiagnosticRule.matched (obs : ObservationBundle) (rule : DiagnosticRule) : Bool :=
  (rule.evaluate obs).matched

/-- What the rules find against themselves, one after the other. -/
def allFindings (obs : ObservationBundle) (rules : List DiagnosticRule) : List String :=
  rules.flatMap fun rule => (rule.evaluate obs).contradictoryFindings

theorem evaluateRules_eq (obs : ObservationBundle) (rules : List DiagnosticRule) :
    evaluateRules obs rules =
      ((rules.filter (·.matched obs)).map (·.evaluate obs), allFindings obs rules) := by
  induction rules with
  | nil => rfl
  | cons rule rest ih =>
      simp only [evaluateRules, ih]
      by_cases hmatched : (rule.evaluate obs).matched = true
      · have hkept : rule.matched obs = true := hmatched
        rw [List.filter_cons_of_pos hkept, if_pos hmatched]
        rfl
      · have hdropped : ¬ rule.matched obs = true := hmatched
        rw [List.filter_cons_of_neg hdropped, if_neg hmatched]
        rfl

theorem diagnose_early {diagnosis : DiagnosisSchema}
    (h : earlyDiagnosis request obs = some diagnosis) :
    engine.diagnose request obs = .ok diagnosis := by
  unfold DeterministicDiagnosisEngine.diagnose
  rw [h]

/-- The first rule that matches decides. -/
theorem diagnose_of_match (h : obs.PassesEarlyChecks) {rule : DiagnosticRule}
    (hfirst : engine.rules.find? (·.matched obs) = some rule) :
    engine.diagnose request obs =
      DiagnosisSchema.ofResult request obs (allFindings obs engine.rules) (rule.evaluate obs) := by
  unfold DeterministicDiagnosisEngine.diagnose
  rw [earlyDiagnosis_eq_none_iff.mpr h, evaluateRules_eq]
  rw [← List.head?_filter] at hfirst
  cases hmatching : engine.rules.filter (·.matched obs) with
  | nil =>
      rw [hmatching] at hfirst
      cases hfirst
  | cons chosen rest =>
      rw [hmatching, List.head?_cons, Option.some.injEq] at hfirst
      rw [hfirst]
      rfl

/-- Without one the contradictions do. -/
theorem diagnose_of_none (h : obs.PassesEarlyChecks)
    (hnone : engine.rules.find? (·.matched obs) = none) :
    engine.diagnose request obs =
      .ok (if allFindings obs engine.rules = [] then unconfirmedDiagnosis request obs
        else ambiguousDiagnosis request obs (allFindings obs engine.rules)) := by
  unfold DeterministicDiagnosisEngine.diagnose
  rw [earlyDiagnosis_eq_none_iff.mpr h, evaluateRules_eq]
  rw [← List.head?_filter, List.head?_eq_none_iff] at hnone
  rw [hnone]
  exact (apply_ite Except.ok _ _ _).symm

/-! ### The contradictions that are reported -/

theorem mem_dictFromKeys {text : String} {texts : List String} :
    text ∈ dictFromKeys texts ↔ text ∈ texts := by
  induction texts with
  | nil => rfl
  | cons first rest ih =>
      rw [dictFromKeys, List.mem_cons, List.mem_cons, List.mem_filter, ih, decide_eq_true_eq]
      by_cases h : text = first
      · exact ⟨fun _ => Or.inl h, fun _ => Or.inl h⟩
      · exact ⟨fun hmem => hmem.imp_right And.left,
          fun hmem => hmem.imp_right fun hrest => ⟨hrest, h⟩⟩

theorem nodup_dictFromKeys (texts : List String) : (dictFromKeys texts).Nodup := by
  induction texts with
  | nil => exact List.nodup_nil
  | cons first rest ih =>
      rw [dictFromKeys, List.nodup_cons]
      refine ⟨fun hmem => ?_, ih.filter _⟩
      exact of_decide_eq_true (List.mem_filter.mp hmem).2 rfl

theorem mem_allFindings {text : String} :
    text ∈ allFindings obs rules ↔
      ∃ rule ∈ rules, text ∈ (rule.evaluate obs).contradictoryFindings :=
  List.mem_flatMap

theorem allFindings_eq_nil :
    allFindings obs rules = [] ↔ ∀ rule ∈ rules, (rule.evaluate obs).contradictoryFindings = [] :=
  List.flatMap_eq_nil_iff

/-! ### Diagnoses -/

/-- The diagnosis says what the result does, of the incident that was asked about. -/
structure DiagnosisSchema.Reports (diagnosis : DiagnosisSchema) (request : DiagnosisRequest)
    (obs : ObservationBundle) (result : Diagnosis.RuleEvaluationResult) : Prop where
  id : diagnosis.id = request.id
  incidentId : diagnosis.incidentId = request.incidentId
  parentDiagnosisId : diagnosis.parentDiagnosisId = request.parentDiagnosisId
  actor : diagnosis.actor = request.actor
  rootCause : diagnosis.rootCause = result.rootCause
  confidence : diagnosis.confidence = result.confidence
  evidenceIds : diagnosis.evidenceIds =
    if result.contributingEvidenceIds = [] then obs.evidenceIdMap.map Prod.snd
    else result.contributingEvidenceIds
  ruleId : diagnosis.ruleId = result.ruleId
  ruleVersion : diagnosis.ruleVersion = result.ruleVersion
  escalationReason : diagnosis.escalationReason = result.escalationReason
  reasoning : diagnosis.reasoning = result.reasoning
  isActionable : diagnosis.isActionable = result.isActionable

/-- A confidence within the bounds is reported with everything else. -/
theorem ofResult_ok {result : Diagnosis.RuleEvaluationResult}
    (hfits : confidenceFits result.confidence = true) (request : DiagnosisRequest)
    (obs : ObservationBundle) (findings : List String) :
    ∃ diagnosis, DiagnosisSchema.ofResult request obs findings result = .ok diagnosis ∧
      diagnosis.Reports request obs result ∧
      diagnosis.contradictoryFindings =
        dictFromKeys (result.contradictoryFindings ++ findings) := by
  unfold DiagnosisSchema.ofResult
  rw [dif_pos hfits]
  exact ⟨_, rfl, ⟨rfl, rfl, rfl, rfl, rfl, rfl, rfl, rfl, rfl, rfl, rfl, rfl⟩, rfl⟩

theorem ofResult_error {findings : List String} {result : Diagnosis.RuleEvaluationResult}
    (hfits : ¬ confidenceFits result.confidence = true) :
    DiagnosisSchema.ofResult request obs findings result = .error .validationError := by
  unfold DiagnosisSchema.ofResult
  rw [dif_neg hfits]

/-! ### The generated identifier -/

/-- The diagnosis under another identifier. -/
def DiagnosisSchema.withId (id : Nat) (diagnosis : DiagnosisSchema) : DiagnosisSchema :=
  { diagnosis with id := id }

theorem earlyDiagnosis_withId (id : Nat) :
    earlyDiagnosis { request with id := id } obs =
      (earlyDiagnosis request obs).map (·.withId id) := by
  unfold earlyDiagnosis
  split
  · rfl
  · split
    · rfl
    · split <;> rfl

theorem ofResult_withId (id : Nat) (findings : List String)
    (result : Diagnosis.RuleEvaluationResult) :
    DiagnosisSchema.ofResult { request with id := id } obs findings result =
      (DiagnosisSchema.ofResult request obs findings result).map (·.withId id) := by
  unfold DiagnosisSchema.ofResult
  split <;> rfl

/-- The identifier is copied only. -/
theorem diagnose_withId (id : Nat) :
    engine.diagnose { request with id := id } obs =
      (engine.diagnose request obs).map (·.withId id) := by
  unfold DeterministicDiagnosisEngine.diagnose
  rw [earlyDiagnosis_withId]
  cases earlyDiagnosis request obs with
  | some diagnosis => rfl
  | none =>
      simp only [Option.map_none]
      split
      · exact ofResult_withId ..
      · split <;> rfl

/-! ### The resolution

The first match in the sorted list is the one that the priorities and the given order single out.
Which list it was sorted from is of no account where the priorities are distinct: the sorted list
is then the only one in that order.
-/

theorem init_rules : (DeterministicDiagnosisEngine.init (some rules)).rules =
    sortOn DiagnosticRule.priority rules := rfl

theorem mem_allFindings_init {text : String} :
    text ∈ allFindings obs (DeterministicDiagnosisEngine.init (some rules)).rules ↔
      ∃ rule ∈ rules, text ∈ (rule.evaluate obs).contradictoryFindings := by
  rw [mem_allFindings, init_rules]
  simp only [(sortOn_perm DiagnosticRule.priority rules).mem_iff]

theorem allFindings_init_eq_nil :
    allFindings obs (DeterministicDiagnosisEngine.init (some rules)).rules = [] ↔
      ¬ ∃ rule ∈ rules, (rule.evaluate obs).contradictoryFindings ≠ [] := by
  rw [allFindings_eq_nil, init_rules]
  simp only [(sortOn_perm DiagnosticRule.priority rules).mem_iff]
  push Not
  rfl

end Diagnose

/-- The rule that comes first of those that match: none that matches has a smaller priority, and
none of its priority stands before it. -/
def WinsAmong (obs : ObservationBundle) (rules : List DiagnosticRule) (rule : DiagnosticRule) :
    Prop :=
  ComesFirst DiagnosticRule.priority (·.matched obs) rules rule

/-- **The rule that comes first decides, if its confidence can be stored**: the diagnosis reports its
result with every finding of every rule once.  Without a rule that matches the diagnosis is
ambiguous or without evidence, as there are findings or not, and the order in which rules of
distinct priorities are given does not matter. -/
theorem rules_resolved (request : DiagnosisRequest) (obs : ObservationBundle)
    (rules : List DiagnosticRule) (h : obs.PassesEarlyChecks) :
    let engine := DeterministicDiagnosisEngine.init (some rules)
    (∀ rule, WinsAmong obs rules rule → confidenceFits (rule.evaluate obs).confidence = true →
      ∃ diagnosis, engine.diagnose request obs = .ok diagnosis ∧
        diagnosis.Reports request obs (rule.evaluate obs) ∧
        diagnosis.contradictoryFindings.Nodup ∧
        ∀ text, text ∈ diagnosis.contradictoryFindings ↔
          ∃ rule' ∈ rules, text ∈ (rule'.evaluate obs).contradictoryFindings) ∧
    (∀ rule, WinsAmong obs rules rule → confidenceFits (rule.evaluate obs).confidence = false →
      engine.diagnose request obs = .error .validationError) ∧
    ((∀ rule ∈ rules, rule.matched obs = false) →
      ∃ diagnosis, engine.diagnose request obs = .ok diagnosis ∧
        diagnosis.rootCause =
          if ∃ rule ∈ rules, (rule.evaluate obs).contradictoryFindings ≠ [] then .ambiguous
          else .insufficientEvidence) ∧
    ((rules.map DiagnosticRule.priority).Nodup → ∀ rules', rules.Perm rules' → ∀ id,
      (DeterministicDiagnosisEngine.init (some rules')).diagnose { request with id := id } obs =
        (engine.diagnose request obs).map (·.withId id)) := by
  intro engine
  refine ⟨?_, ?_, ?_, ?_⟩
  · intro rule hwins hfits
    have hfirst : engine.rules.find? (·.matched obs) = some rule := find?_sortOn_iff.mpr hwins
    rw [diagnose_of_match h hfirst]
    obtain ⟨diagnosis, heq, hreports, hfindings⟩ :=
      ofResult_ok hfits request obs (allFindings obs engine.rules)
    refine ⟨diagnosis, heq, hreports, hfindings ▸ nodup_dictFromKeys _, fun text => ?_⟩
    rw [hfindings, mem_dictFromKeys, List.mem_append, mem_allFindings_init]
    -- the findings of the rule itself are among those of all rules
    have hmem : rule ∈ rules :=
      (sortOn_perm DiagnosticRule.priority rules).mem_iff.mp (List.mem_of_find?_eq_some hfirst)
    exact ⟨fun h' => h'.elim (fun hown => ⟨rule, hmem, hown⟩) fun hall => hall, Or.inr⟩
  · intro rule hwins hfits
    have hfirst : engine.rules.find? (·.matched obs) = some rule := find?_sortOn_iff.mpr hwins
    rw [diagnose_of_match h hfirst, ofResult_error (Bool.not_eq_true _ ▸ hfits)]
  · intro hnone
    have hfirst : engine.rules.find? (·.matched obs) = none :=
      find?_sortOn_eq_none_iff.mpr fun rule hmem => Bool.not_eq_true _ ▸ hnone rule hmem
    rw [diagnose_of_none h hfirst]
    refine ⟨_, rfl, ?_⟩
    by_cases hsome : ∃ rule ∈ rules, (rule.evaluate obs).contradictoryFindings ≠ []
    · rw [if_neg (mt allFindings_init_eq_nil.mp (not_not.mpr hsome)), if_pos hsome]
      rfl
    · rw [if_pos (allFindings_init_eq_nil.mpr hsome), if_neg hsome]
      rfl
  · intro hnodup rules' hperm id
    have hengine : DeterministicDiagnosisEngine.init (some rules') = engine :=
      DeterministicDiagnosisEngine.ext (sortOn_congr hnodup hperm).symm
    rw [hengine, diagnose_withId]

/-- A stopped container, for an engine with two rules in the order of their priorities reversed. -/
theorem stopped_wins_over_saturation :
    let obs : ObservationBundle := { resourceId := 1, serviceName := "demo", containerStatus := "exited" }
    let engine := DeterministicDiagnosisEngine.init (some [cpuSaturationRule, containerStoppedRule])
    ∃ diagnosis, engine.diagnose { id := 1, incidentId := 2 } obs = .ok diagnosis ∧
      diagnosis.rootCause = .containerStopped ∧
      "Container is exited; container crash takes precedence over CPU saturation." ∈
        diagnosis.contradictoryFindings := by
  intro obs engine
  have hpasses : obs.PassesEarlyChecks := ⟨rfl, by simp [obs], rfl, by simp [obs]⟩
  obtain ⟨hwins, -⟩ := rules_resolved { id := 1, incidentId := 2 } obs
    [cpuSaturationRule, containerStoppedRule] hpasses
  have hfirst : WinsAmong obs [cpuSaturationRule, containerStoppedRule] containerStoppedRule :=
    ⟨[cpuSaturationRule], [], rfl, rfl, by decide, by simp⟩
  obtain ⟨diagnosis, heq, hreports, -, hfindings⟩ := hwins _ hfirst (by decide +kernel)
  refine ⟨diagnosis, heq, hreports.rootCause, (hfindings _).mpr ⟨cpuSaturationRule, ?_, ?_⟩⟩
  · exact List.mem_cons_self
  · exact List.mem_cons_self

/-- A rule that reports a confidence above one. -/
def overconfidentRule : DiagnosticRule where
  priority := 1
  evaluate := fun _ => { ruleId := "RULE", ruleVersion := "1.0", matched := true, confidence := 2.0 }

/-- Its result is refused. -/
theorem overconfident_result_refused :
    ¬ ∀ request obs rules rule, obs.PassesEarlyChecks → WinsAmong obs rules rule →
      ∃ diagnosis, (DeterministicDiagnosisEngine.init (some rules)).diagnose request obs =
        .ok diagnosis := by
  intro h
  let obs : ObservationBundle := { resourceId := 1, serviceName := "demo" }
  obtain ⟨diagnosis, heq⟩ := h { id := 1, incidentId := 2 } obs
    [overconfidentRule] overconfidentRule
    ⟨rfl, by simp [obs], rfl, by simp [obs]⟩ ⟨[], [], rfl, rfl, by simp, by simp⟩
  have hrefused : DiagnosisSchema.ofResult { id := 1, incidentId := 2 } obs
      (allFindings obs [overconfidentRule]) (overconfidentRule.evaluate obs) =
        .error .validationError :=
    ofResult_error (by decide +kernel)
  have hfirst : [overconfidentRule].find? (·.matched obs) = some overconfidentRule := rfl
  rw [diagnose_of_match ⟨rfl, by simp [obs], rfl, by simp [obs]⟩ hfirst] at heq
  exact absurd (hrefused.symm.trans heq) (by simp)

end SelfHealing
