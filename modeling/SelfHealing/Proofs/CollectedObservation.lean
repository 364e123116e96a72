/-
What is observed of what is collected.

Redaction and printing keep the keys of a content and its numbers, and the conversion reads back
what the collector was told: of each metric the latest value of the first series, if the query was
settled; of the container, the alerts and the log the redacted texts.  It raises only when the
number of connections is no integer (`collectedObservation_eq`).

What the rules decide is thereby said of what the collector was told, and not of a bundle that
somebody may have made up: the results about diagnoses from old or missing values rest on it.
-/
import SelfHealing.Proofs.EvidenceOrder

namespace SelfHealing

open Canonical Masking

/-! ### The content of an item

The redactor goes through a content as through any dictionary.  No key of a content is one that it
hides, so each field is found where it was put; a number comes through as it was, and a text as the
redactor leaves it.  So the conversion can be followed field by field.
-/

/-- The keys that collected contents have. -/
def contentKeys : List String :=
  ["query", "status", "samples", "latest_value", "firing_alerts", "count", "total_lines",
   "is_truncated", "lines", "state", "name", "exit_code", "health_status", "binding_generation",
   "error", "reason", "window_seconds", "audit_count", "audit_changes", "similar_incidents"]

/-- None of them is hidden. -/
theorem contentKeys_shown : ∀ key ∈ contentKeys, evidenceMask.hides key = false := by
  decide +kernel

/-- A value after it is redacted, printed and read. -/
def cleaned (value : Data) : Data := (redactPayload value).sortKeys

theorem lookup_map {K V W : Type} [BEq K] [LawfulBEq K] (f : V → W) (entries : List (K × V))
    (key : K) :
    (entries.map fun entry => (entry.1, f entry.2)).lookup key = (entries.lookup key).map f := by
  induction entries with
  | nil => rfl
  | cons entry rest ih =>
      obtain ⟨key', value⟩ := entry
      rw [List.map_cons, List.lookup_cons, List.lookup_cons, ih]
      by_cases hkey : key = key'
      · rw [beq_iff_eq.mpr hkey]
        rfl
      · rw [beq_false_of_ne hkey]

/-- **The content of an item has the values that it was given, cleaned.** -/
theorem createEvidenceItem_get? {content : DataDict} (hkeys : (content.map Prod.fst).Nodup)
    (hshown : ∀ key ∈ content.map Prod.fst, key ∈ contentKeys) (kind : EvidenceKind)
    (source : String) (id : Nat) (key : String) :
    (createEvidenceItem kind source content id).content.get? key =
      (content.get? key).map cleaned := by
  have hentry : content.map evidenceMask.entry =
      content.map fun entry => (entry.1, redactPayload entry.2) := by
    refine List.map_congr_left fun entry hentry => ?_
    have hhides : evidenceMask.hides (evidenceMask.rename entry.1) = false :=
      contentKeys_shown _ (hshown _ (List.mem_map_of_mem hentry))
    rw [Mask.entry, hhides]
    rfl
  have hredacted : redactPayload (.map content) =
      .map (content.map fun entry => (entry.1, redactPayload entry.2)) := by
    have hentries : evidenceMask.applyEntries [] content = content.map evidenceMask.entry :=
      applyEntries_eq hkeys
    rw [← hentry, ← hentries]
    rfl
  have hcontent : (createEvidenceItem kind source content id).content =
      (content.map fun entry => (entry.1, cleaned entry.2)).insertionSort
        fun e e' => e.1 ≤ e'.1 := by
    unfold createEvidenceItem
    rw [hredacted, Tree.sortKeys, sortEntries_eq, List.map_map]
    rfl
  unfold DataDict.get?
  rw [hcontent, ← lookup_map cleaned]
  refine (lookup_perm ?_ (List.perm_insertionSort _ _).symm key).symm
  rw [List.map_map]
  exact hkeys

/-- The keys of a content that is collected. -/
structure ContentKeys (content : DataDict) : Prop where
  nodup : (content.map Prod.fst).Nodup
  known : ∀ key ∈ content.map Prod.fst, key ∈ contentKeys

theorem ContentKeys.of_keys {content : DataDict} (keys : List String)
    (hcontent : content.map Prod.fst = keys)
    (hkeys : keys.Nodup ∧ ∀ key ∈ keys, key ∈ contentKeys) : ContentKeys content := by
  subst hcontent
  exact ⟨hkeys.1, hkeys.2⟩

/-- What is got of an item is what was given, cleaned, or the default. -/
theorem createEvidenceItem_getOr {content : DataDict} (h : ContentKeys content)
    (kind : EvidenceKind) (source : String) (id : Nat) (key : String) (default : Data) :
    (createEvidenceItem kind source content id).content.getOr key default =
      ((content.get? key).map cleaned).getD default := by
  rw [DataDict.getOr, createEvidenceItem_get? h.nodup h.known]

section Cleaned

/-- Numbers are left as they are, and so is what is nothing. -/
theorem cleaned_float (x : Option Float) : cleaned (dataFloat? x) = dataFloat? x := by
  cases x <;> rfl

theorem cleaned_int (n : Option Int) : cleaned (dataInt? n) = dataInt? n := by
  cases n <;> rfl

theorem cleaned_text (s : String) :
    cleaned (dataText s) = dataText (EvidenceRedactor.redactString s) := rfl

theorem cleaned_text? (s : Option String) :
    cleaned (dataText? s) = dataText? (s.map EvidenceRedactor.redactString) := by
  cases s <;> rfl

theorem cleaned_texts (texts : List String) :
    cleaned (dataTexts texts) = dataTexts (texts.map EvidenceRedactor.redactString) := by
  unfold cleaned redactPayload dataTexts
  rw [Mask.apply, applyItems_eq, sortKeys_seq, List.map_map, List.map_map, List.map_map]
  rfl

end Cleaned

/-! ### What is observed

Each kind of item is read by its own branch, and an item that lacks what the branch looks for sets
nothing.
-/

namespace CollectionAnswers

variable (answers : CollectionAnswers)

/-- The first series of a metric, if its query is settled. -/
def sample (query : MetricQuery) : Option MetricSample :=
  match answers.metricResult query with
  | none => none
  | some result => if result.status.settles then result.samples.head? else none

/-- The value that is read of a metric. -/
def value (query : MetricQuery) : Option Float :=
  (answers.sample query).bind MetricSample.latestValue

/-- The load: that of the application, and otherwise that of the process. -/
def load : Option Float := (answers.value .cpuRate).or (answers.value .processCpu)

/-- The alerts that fire, redacted. -/
def alertNames : List String :=
  (firingAlertNames (getActiveAlerts answers.alerts)).map EvidenceRedactor.redactString

/-- The lines of the log that are about errors, redacted. -/
def errorLines : List String :=
  ((answers.logResult.1.entries.map Prod.snd).map EvidenceRedactor.redactString).filter isErrorLine

end CollectionAnswers

section Items

variable (answers : CollectionAnswers)

theorem metricContent_keys (text : String) (result : Option MetricQueryResult) :
    ContentKeys (metricContent text result) := by
  cases result with
  | none => exact ContentKeys.of_keys ["query", "status", "samples"] rfl (by decide)
  | some result =>
      unfold metricContent
      simp only
      cases result.status with
      | unavailable => exact ContentKeys.of_keys ["query", "status", "samples"] rfl (by decide)
      | error => exact ContentKeys.of_keys ["query", "status"] rfl (by decide)
      | success => exact ContentKeys.of_keys ["query", "status", "latest_value"] rfl (by decide)
      | empty => exact ContentKeys.of_keys ["query", "status", "latest_value"] rfl (by decide)

/-- The item of a metric has the value that is read of it. -/
theorem latestValue_metric (query : MetricQuery) (text source : String) (id : Nat) :
    (createEvidenceItem .metrics source
        (metricContent text (answers.metricResult query)) id).latestValue =
      dataFloat? (answers.value query) := by
  unfold EvidenceItemSchema.latestValue
  rw [createEvidenceItem_getOr (metricContent_keys _ _)]
  unfold CollectionAnswers.value CollectionAnswers.sample metricContent
  cases answers.metricResult query with
  | none => rfl
  | some result =>
      simp only
      cases result.status with
      | unavailable => rfl
      | error => rfl
      | success => exact cleaned_float _
      | empty => exact cleaned_float _

/-- What is set to a value of a metric, if it has one. -/
def valueUpdate (answers : CollectionAnswers) : MetricQuery → Option FieldUpdate
  | .up => some (.up (dataFloat? (answers.value .up)))
  | .cpuRate =>
      some ((answers.value .cpuRate).elim .nothing fun x =>
        .cpu (dataFloat? (some x)) (x / cpuBudgetCores))
  | .processCpu =>
      some (if (answers.value .cpuRate).isSome then .nothing
        else
          (answers.value .processCpu).elim .nothing fun x =>
            .cpu (dataFloat? (some x)) (x / cpuBudgetCores))
  | .probeSuccess =>
      some (.readiness (dataFloat? (answers.value .probeSuccess))
        ((answers.value .probeSuccess).map fun x => if 1.0 ≤ x then 200 else 503))
  | .httpRequestsTotal | .httpErrors => some .nothing
  | .redisConnected =>
      some ((answers.value .redisConnected).elim .nothing fun x => .redis (decide (1.0 ≤ x)))
  | .dbConnections =>
      (answers.value .dbConnections).elim (some .nothing) fun x =>
        (Floats.truncate x).map .dbConnections

theorem wholeNumber_float (x : Float) :
    wholeNumber (dataFloat? (some x)) = Floats.truncate x := by
  show (pyInt (.float x)).toOption = _
  unfold pyInt
  simp only
  cases Floats.truncate x with
  | none => rfl
  | some n => rfl

/-- **The item of a metric sets what the value of the metric says.** -/
theorem itemUpdate_query (query : MetricQuery) (text : String) (id : Nat) :
    itemUpdate (answers.value .cpuRate).isSome
        (createEvidenceItem .metrics ("prometheus:" ++ query.name)
          (metricContent text (answers.metricResult query)) id) =
      valueUpdate answers query := by
  have hkind : (createEvidenceItem .metrics ("prometheus:" ++ query.name)
      (metricContent text (answers.metricResult query)) id).kind = .metrics := rfl
  rw [itemUpdate_metrics hkind, @metricUpdate_query _ _ query rfl, latestValue_metric]
  unfold valueUpdate
  cases query with
  | up => rfl
  | cpuRate =>
      simp only
      cases answers.value .cpuRate with
      | none => rfl
      | some x => rfl
  | processCpu =>
      simp only
      cases answers.value .processCpu with
      | none => cases answers.value .cpuRate <;> rfl
      | some x => cases answers.value .cpuRate <;> rfl
  | probeSuccess =>
      simp only
      cases answers.value .probeSuccess with
      | none => rfl
      | some x => simp [dataFloat?, isNone, atLeastOne]
  | httpRequestsTotal => rfl
  | httpErrors => rfl
  | redisConnected =>
      simp only
      cases answers.value .redisConnected with
      | none => rfl
      | some x => rfl
  | dbConnections =>
      simp only
      cases answers.value .dbConnections with
      | none => rfl
      | some x =>
          rw [wholeNumber_float]
          rfl

end Items

/-! ### The whole bundle -/

section Bundle

variable (request : CollectionRequest) (answers : CollectionAnswers)

/-- The state of the container, redacted. -/
def containerState : String :=
  EvidenceRedactor.redactString (inspectedContainer request answers).state

/-- What the items set, in their order. -/
def collectedUpdates : List (Option FieldUpdate) :=
  some (.container (dataText (containerState request answers))
      (dataInt? (inspectedContainer request answers).exitCode)
      (dataText? ((inspectedContainer request answers).healthStatus.map
        EvidenceRedactor.redactString))) ::
    some (.alerts (dataTexts answers.alertNames)) ::
      (MetricQuery.all.map (valueUpdate answers) ++
        [some (.logs answers.errorLines), some .nothing])

theorem lineTexts_texts (texts : List String) : lineTexts (texts.map dataText) = some texts := by
  induction texts with
  | nil => rfl
  | cons text rest ih =>
      rw [List.map_cons, lineTexts, ih]
      rfl

theorem itemUpdate_container (source : String) (id : Nat) (primaryCpu : Bool) :
    itemUpdate primaryCpu
        (createEvidenceItem .containerState source
          (containerContent (inspectedContainer request answers)) id) =
      some (.container (dataText (containerState request answers))
        (dataInt? (inspectedContainer request answers).exitCode)
        (dataText? ((inspectedContainer request answers).healthStatus.map
          EvidenceRedactor.redactString))) := by
  have hkeys : ContentKeys (containerContent (inspectedContainer request answers)) :=
    ContentKeys.of_keys ["state", "name", "exit_code", "health_status", "binding_generation",
      "status", "error"] rfl (by decide)
  have hstate : (containerContent (inspectedContainer request answers)).get? "state" =
      some (dataText (inspectedContainer request answers).state) := rfl
  have hexit : (containerContent (inspectedContainer request answers)).get? "exit_code" =
      some (dataInt? (inspectedContainer request answers).exitCode) := rfl
  have hhealth : (containerContent (inspectedContainer request answers)).get? "health_status" =
      some (dataText? (inspectedContainer request answers).healthStatus) := rfl
  unfold itemUpdate
  show some (FieldUpdate.container _ _ _) = _
  rw [createEvidenceItem_getOr hkeys, createEvidenceItem_getOr hkeys,
    createEvidenceItem_getOr hkeys, hstate, hexit, hhealth, Option.map_some, Option.map_some,
    Option.map_some, cleaned_text, cleaned_int, cleaned_text?]
  rfl

theorem itemUpdate_alerts (id : Nat) (primaryCpu : Bool) :
    itemUpdate primaryCpu
        (createEvidenceItem .metrics "prometheus:active_alerts"
          (activeAlertsContent (firingAlertNames (getActiveAlerts answers.alerts))) id) =
      some (.alerts (dataTexts answers.alertNames)) := by
  have hkeys : ContentKeys
      (activeAlertsContent (firingAlertNames (getActiveAlerts answers.alerts))) :=
    ContentKeys.of_keys ["firing_alerts", "count"] rfl (by decide)
  have hfiring : (activeAlertsContent (firingAlertNames (getActiveAlerts answers.alerts))).get?
      "firing_alerts" = some (dataTexts (firingAlertNames (getActiveAlerts answers.alerts))) := rfl
  rw [itemUpdate_metrics rfl, metricUpdate_alerts rfl]
  show some (FieldUpdate.alerts (DataDict.getOr (createEvidenceItem _ _ _ _).content _ _)) = _
  rw [createEvidenceItem_getOr hkeys, hfiring, Option.map_some, cleaned_texts]
  rfl

theorem itemUpdate_log (source : String) (id : Nat) (primaryCpu : Bool) :
    itemUpdate primaryCpu (createEvidenceItem .logs source (logContent answers.logResult.1) id) =
      some (.logs answers.errorLines) := by
  have hkeys : ContentKeys (logContent answers.logResult.1) :=
    ContentKeys.of_keys ["total_lines", "is_truncated", "lines", "status"] rfl (by decide)
  have hlines : (logContent answers.logResult.1).get? "lines" =
      some (dataTexts (answers.logResult.1.entries.map Prod.snd)) := rfl
  unfold itemUpdate
  show ((iterated _).bind lineTexts).map _ = _
  rw [createEvidenceItem_getOr hkeys, hlines, Option.map_some, Option.getD_some, cleaned_texts]
  show (lineTexts (List.map dataText _)).map _ = _
  rw [lineTexts_texts]
  rfl

/-- The application is preferred when it has a value. -/
theorem primaryCpu_collect :
    primaryCpuAvailable (collect request answers).items = (answers.value .cpuRate).isSome := by
  let item := createEvidenceItem .metrics "prometheus:cpu_rate"
    (metricContent (MetricQuery.cpuRate.text request.targetService)
      (answers.metricResult .cpuRate)) (answers.newId 3)
  have hitem : item ∈ (collect request answers).items := List.mem_of_getElem? (i := 3) rfl
  have hvalue : item.latestValue = dataFloat? (answers.value .cpuRate) :=
    latestValue_metric answers .cpuRate _ _ _
  have hcollected := collect_asCollected request answers
  cases hsome : answers.value .cpuRate with
  | none =>
      unfold primaryCpuAvailable
      rw [Option.isSome_none, List.any_eq_false]
      intro item' hitem' hprimary
      obtain ⟨⟨-, hsource⟩, hnone⟩ := isMetric_of_isPrimaryCpu hcollected hitem' hprimary
      rw [hcollected.eq_of_source hitem' hitem hsource, hvalue, hsome] at hnone
      cases hnone
  | some x =>
      refine List.any_eq_true.mpr ⟨item, hitem, ?_⟩
      have hhas : textContains "prometheus:cpu_rate" "prometheus:cpu_rate" = true := by decide
      unfold EvidenceItemSchema.isPrimaryCpu
      rw [hvalue, hsome]
      exact congrArg (fun b => true && b && true) hhas

/-- **What the collected items set.** -/
theorem collect_updates :
    (collect request answers).items.map (itemUpdate (answers.value .cpuRate).isSome) =
      collectedUpdates request answers := by
  unfold collect metricItems MetricQuery.all
  simp only [List.map_cons, List.map_nil, List.cons_append, List.nil_append, List.mapIdx_cons,
    List.mapIdx_nil, itemUpdate_container, itemUpdate_alerts, itemUpdate_query, itemUpdate_log]
  rfl

variable (observation : ObservationRequest)

/-- The number of connections is an integer, if there is one. -/
def readableConnections : Bool :=
  (answers.value .dbConnections).all fun x => (Floats.truncate x).isSome

/-- The observations that what the collector was told shows. -/
def shownObservation : ObservationBundle where
  resourceId := request.resourceId
  serviceName := observation.serviceName
  containerId := observation.containerId
  bindingGeneration := observation.bindingGeneration
  containerStatus := containerState request answers
  exitCode := (inspectedContainer request answers).exitCode
  healthStatus :=
    (inspectedContainer request answers).healthStatus.map EvidenceRedactor.redactString
  upMetric := answers.value .up
  normalizedCpu := answers.load.map fun x => x / cpuBudgetCores
  rawCpuSecondsRate := answers.load
  cpuBudgetCores := cpuBudgetCores
  readinessSuccessRatio := answers.value .probeSuccess
  latestReadinessCode := (answers.value .probeSuccess).map fun x => if 1.0 ≤ x then 200 else 503
  firingAlerts := answers.alertNames
  redisConnected := (answers.value .redisConnected).map fun x => decide (1.0 ≤ x)
  dbConnectionsActive := (answers.value .dbConnections).bind Floats.truncate
  recentLogErrors := answers.errorLines
  evidenceIdMap := (collect request answers).items.map idEntry
  completeness := (collect request answers).completeness
  freshnessSeconds := (collect request answers).freshnessSeconds
  isTelemetryUnavailable := decide (metricsCompleteness answers = "UNAVAILABLE")
  observedAt := answers.now

/-- The fields after all updates. -/
def collectedFields : ObservationFields :=
  { ObservationFields.init observation (collect request answers) with
    containerStatus := dataText (containerState request answers)
    exitCode := dataInt? (inspectedContainer request answers).exitCode
    healthStatus :=
      dataText? ((inspectedContainer request answers).healthStatus.map
        EvidenceRedactor.redactString)
    upMetric := dataFloat? (answers.value .up)
    normalizedCpu := answers.load.map fun x => x / cpuBudgetCores
    rawCpuSecondsRate := dataFloat? answers.load
    readinessSuccessRatio := dataFloat? (answers.value .probeSuccess)
    latestReadinessCode := (answers.value .probeSuccess).map fun x => if 1.0 ≤ x then 200 else 503
    firingAlerts := dataTexts answers.alertNames
    redisConnected := (answers.value .redisConnected).map fun x => decide (1.0 ≤ x)
    dbConnectionsActive := (answers.value .dbConnections).bind Floats.truncate
    recentLogErrors := answers.errorLines }

theorem collectedUpdates_isSome_iff :
    (∀ u ∈ collectedUpdates request answers, u.isSome) ↔ readableConnections answers = true := by
  unfold collectedUpdates MetricQuery.all readableConnections
  simp only [List.map_cons, List.map_nil, List.cons_append, List.nil_append, List.forall_mem_cons,
    valueUpdate, Option.isSome_some, true_and]
  cases answers.value .dbConnections with
  | none => simp
  | some x => simp

theorem foldl_collectedUpdates (h : readableConnections answers = true) :
    (collectedUpdates request answers).foldl
        (fun obs u => (u.getD FieldUpdate.nothing).apply obs)
        (ObservationFields.init observation (collect request answers)) =
      collectedFields request answers observation := by
  unfold readableConnections at h
  unfold collectedUpdates MetricQuery.all collectedFields CollectionAnswers.load
  simp only [List.map_cons, List.map_nil, List.cons_append, List.nil_append, List.foldl_cons,
    List.foldl_nil, valueUpdate, Option.getD_some]
  have hdb : ((answers.value .dbConnections).elim (some FieldUpdate.nothing) fun x =>
      (Floats.truncate x).map .dbConnections).getD .nothing =
        ((answers.value .dbConnections).bind Floats.truncate).elim .nothing .dbConnections := by
    cases hvalue : answers.value .dbConnections with
    | none => rfl
    | some x =>
        rw [hvalue] at h
        obtain ⟨n, hn⟩ := Option.isSome_iff_exists.mp h
        simp [hn]
  rw [hdb]
  cases answers.value .cpuRate <;> cases answers.value .processCpu <;>
    cases answers.value .probeSuccess <;> cases answers.value .redisConnected <;>
    cases (answers.value .dbConnections).bind Floats.truncate <;> rfl

theorem floatOrNone_eq (x : Option Float) : floatOrNone (dataFloat? x) = some x := by
  cases x <;> rfl

theorem intOrNone_eq (n : Option Int) : intOrNone (dataInt? n) = some n := by
  cases n <;> rfl

theorem textOrNone_eq (s : Option String) : textOrNone (dataText? s) = some s := by
  cases s <;> rfl

/-- The rules can read all the fields. -/
theorem bundle_collectedFields (unavailable : Bool) :
    ObservationFields.bundle
        { collectedFields request answers observation with
          evidenceIdMap := (collect request answers).items.map idEntry
          isTelemetryUnavailable := unavailable } =
      some
        { shownObservation request answers observation with
          isTelemetryUnavailable := unavailable } := by
  have halerts : (iterated (dataTexts answers.alertNames)).bind lineTexts =
      some answers.alertNames := lineTexts_texts _
  unfold ObservationFields.bundle collectedFields
  simp only [intOrNone_eq, textOrNone_eq, floatOrNone_eq, halerts]
  rfl

/-- **What is observed is what the collector was told**, unless the number of connections cannot be
read. -/
theorem collectedObservation_eq :
    collectedObservation request observation answers =
      if readableConnections answers then some (shownObservation request answers observation)
      else none := by
  have hraise : (∀ item ∈ (collect request answers).items,
      (itemUpdate (answers.value .cpuRate).isSome item).isSome) ↔
        readableConnections answers = true := by
    rw [← collectedUpdates_isSome_iff request, ← collect_updates, List.forall_mem_map]
  have hfold : ∀ obs, (collect request answers).items.foldl
      (applyItem (answers.value .cpuRate).isSome) obs =
        (collectedUpdates request answers).foldl
          (fun obs u => (u.getD FieldUpdate.nothing).apply obs) obs := by
    intro obs
    rw [← collect_updates, List.foldl_map]
    rfl
  have hcompleteness : (collect request answers).completeness.lookup "prometheus" =
      some (metricsCompleteness answers) := rfl
  unfold collectedObservation
  rw [toObservationBundle_eq (collect_asCollected request answers), primaryCpu_collect]
  by_cases h : readableConnections answers = true
  · rw [if_pos (hraise.mpr h), if_pos h, hfold, foldl_collectedUpdates _ _ _ h, Option.bind_some]
    unfold ObservationFields.finish
    rw [hcompleteness]
    by_cases hunavailable : metricsCompleteness answers = "UNAVAILABLE"
    · rw [if_pos (congrArg some hunavailable), bundle_collectedFields]
      unfold shownObservation
      rw [decide_eq_true hunavailable]
    · rw [if_neg (mt Option.some.inj hunavailable)]
      unfold shownObservation
      rw [decide_eq_false hunavailable]
      exact bundle_collectedFields request answers observation false
  · rw [if_neg (mt hraise.mp h), if_neg h]
    rfl

end Bundle

end SelfHealing
