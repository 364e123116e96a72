/-
The order of the evidence.

An item sets some of the fields, or nothing, and which ones shows in its kind and its source alone.
Items of a collected bundle set different fields, but for the two that say how busy the processor
is.  Of these the one of the application is preferred, and the other sets nothing when it has a
value.  So any two items may change their places (`observations_permuted`).

The loop is taken apart into updates: `itemUpdate` says what an item sets without setting it, and
the loop is the fold of all updates beside the fold of the evidence (`observeItems_eq`).  Updates of
different fields commute, and that items of a collected bundle have different fields is decided
over the sources of the metrics.

Some values cannot be made into a field, and the conversion raises then: a load that cannot be
divided, a probe that cannot be compared, connections that are no number of things, lines that are
no texts.  That it yields its fields for all others is part of the statement (`Converts`).
-/
import SelfHealing.Evidence

namespace SelfHealing

open Masking

/-! ### What an item sets -/

/-- The fields that are set together. -/
inductive ObservationField
  | container
  | up
  | cpu
  | readiness
  | redis
  | dbConnections
  | alerts
  | logs
deriving DecidableEq

/-- What an item sets them to. -/
inductive FieldUpdate
  | nothing
  | container (status exitCode health : Data)
  | up (value : Data)
  | cpu (rate : Data) (normalized : Float)
  | readiness (ratio : Data) (code : Option Int)
  | redis (connected : Bool)
  | dbConnections (connections : Int)
  | alerts (firing : Data)
  | logs (errors : List String)

namespace FieldUpdate

def field : FieldUpdate → Option ObservationField
  | .nothing => none
  | .container .. => some .container
  | .up _ => some .up
  | .cpu .. => some .cpu
  | .readiness .. => some .readiness
  | .redis _ => some .redis
  | .dbConnections _ => some .dbConnections
  | .alerts _ => some .alerts
  | .logs _ => some .logs

def apply (obs : ObservationFields) : FieldUpdate → ObservationFields
  | .nothing => obs
  | .container status exitCode health =>
      { obs with containerStatus := status, exitCode := exitCode, healthStatus := health }
  | .up value => { obs with upMetric := value }
  | .cpu rate normalized => { obs with rawCpuSecondsRate := rate, normalizedCpu := some normalized }
  | .readiness ratio code =>
      { obs with
        readinessSuccessRatio := ratio
        latestReadinessCode := code.or obs.latestReadinessCode }
  | .redis connected => { obs with redisConnected := some connected }
  | .dbConnections connections => { obs with dbConnectionsActive := some connections }
  | .alerts firing => { obs with firingAlerts := firing }
  | .logs errors => { obs with recentLogErrors := errors }

/-- One of the two sets nothing, or they set different fields. -/
def Independent (u u' : FieldUpdate) : Prop := u.field = none ∨ u.field ≠ u'.field

/-- **Independent updates may be made in either order.** -/
theorem apply_comm {u u' : FieldUpdate} (h : Independent u u') (obs : ObservationFields) :
    u'.apply (u.apply obs) = u.apply (u'.apply obs) := by
  cases u <;> cases u' <;> first | rfl | skip
  all_goals exact absurd rfl (h.resolve_left (Option.some_ne_none _))

/-- The evidence is not among the fields that are set. -/
theorem apply_evidenceIdMap (u : FieldUpdate) (obs : ObservationFields)
    (ids : List (String × String)) :
    u.apply { obs with evidenceIdMap := ids } = { u.apply obs with evidenceIdMap := ids } := by
  cases u <;> rfl

end FieldUpdate

/-- What an item of a metric sets. -/
def metricUpdate (primaryCpu : Bool) (item : EvidenceItemSchema) : Option FieldUpdate :=
  let value := item.latestValue
  if item.sourceHas "prometheus:up" then some (.up value)
  else if item.sourceHas "prometheus:cpu_rate" || item.sourceHas "prometheus:process_cpu" then
    if !isNone value && (item.sourceHas "prometheus:cpu_rate" || !primaryCpu) then
      (dividedBy cpuBudgetCores value).map (.cpu value)
    else some .nothing
  else if item.sourceHas "prometheus:probe_success" then
    if isNone value then some (.readiness value none)
    else (atLeastOne value).map fun ready => .readiness value (some (if ready then 200 else 503))
  else if item.sourceHas "prometheus:redis_connected" then
    if isNone value then some .nothing else (atLeastOne value).map .redis
  else if item.sourceHas "prometheus:db_connections" then
    if isNone value then some .nothing else (wholeNumber value).map .dbConnections
  else if item.sourceHas "prometheus:active_alerts" then
    some (.alerts (item.content.getOr "firing_alerts" (.seq [])))
  else some .nothing

/-- What an item sets, unless it raises. -/
def itemUpdate (primaryCpu : Bool) (item : EvidenceItemSchema) : Option FieldUpdate :=
  match item.kind with
  | .containerState =>
      some (.container (item.content.getOr "state" (dataText "unknown"))
        (item.content.getOr "exit_code" dataNull) (item.content.getOr "health_status" dataNull))
  | .metrics => metricUpdate primaryCpu item
  | .logs =>
      ((iterated (item.content.getOr "lines" (.seq []))).bind lineTexts).map fun texts =>
        .logs (texts.filter isErrorLine)
  | .resourceChanges | .alertEvaluation | .readinessProbe | .other _ => some .nothing

section Loop

variable {primaryCpu : Bool}

theorem observeMetric_eq (item : EvidenceItemSchema) (obs : ObservationFields) :
    observeMetric primaryCpu item obs =
      (metricUpdate primaryCpu item).map fun u => u.apply obs := by
  unfold observeMetric metricUpdate
  simp only
  split
  · rfl
  · split
    · split
      · cases dividedBy cpuBudgetCores item.latestValue <;> rfl
      · rfl
    · split
      · split
        · rfl
        · cases atLeastOne item.latestValue <;> rfl
      · split
        · split
          · rfl
          · cases atLeastOne item.latestValue <;> rfl
        · split
          · split
            · rfl
            · cases wholeNumber item.latestValue <;> rfl
          · split
            · rfl
            · rfl

/-- The item with its identifier, as it is put into the evidence. -/
def idEntry (item : EvidenceItemSchema) : String × String := (item.source, uuidText item.id)

/-- **One turn of the loop sets what the item sets, and records the evidence.** -/
theorem observeItem_eq (item : EvidenceItemSchema) (obs : ObservationFields) :
    observeItem primaryCpu obs item =
      (itemUpdate primaryCpu item).map fun u =>
        { u.apply obs with
          evidenceIdMap := put item.source (uuidText item.id) obs.evidenceIdMap } := by
  unfold observeItem itemUpdate
  cases hkind : item.kind with
  | containerState => rfl
  | metrics =>
      simp only [observeMetric_eq]
      cases metricUpdate primaryCpu item with
      | none => rfl
      | some u => exact congrArg some (u.apply_evidenceIdMap obs _)
  | logs =>
      simp only
      cases iterated (item.content.getOr "lines" (.seq [])) with
      | none => rfl
      | some lines =>
          cases hlines : lineTexts lines with
          | none => simp [hlines]
          | some texts => simp [hlines, FieldUpdate.apply]
  | resourceChanges => rfl
  | alertEvaluation => rfl
  | readinessProbe => rfl
  | other text => rfl

/-- The fields after an item that does not raise. -/
def applyItem (primaryCpu : Bool) (obs : ObservationFields) (item : EvidenceItemSchema) :
    ObservationFields :=
  ((itemUpdate primaryCpu item).getD .nothing).apply obs

/-- The evidence after an item. -/
def recordItem (ids : List (String × String)) (item : EvidenceItemSchema) :
    List (String × String) :=
  put item.source (uuidText item.id) ids

theorem foldl_applyItem_evidenceIdMap (items : List EvidenceItemSchema) (obs : ObservationFields)
    (ids : List (String × String)) :
    items.foldl (applyItem primaryCpu) { obs with evidenceIdMap := ids } =
      { items.foldl (applyItem primaryCpu) obs with evidenceIdMap := ids } := by
  induction items generalizing obs with
  | nil => rfl
  | cons item rest ih =>
      have hitem : applyItem primaryCpu { obs with evidenceIdMap := ids } item =
          { applyItem primaryCpu obs item with evidenceIdMap := ids } :=
        FieldUpdate.apply_evidenceIdMap _ obs ids
      rw [List.foldl_cons, List.foldl_cons, hitem, ih]

/-- The loop raises if an item does, and otherwise makes all updates and records all evidence. -/
theorem observeItems_eq (items : List EvidenceItemSchema) (obs : ObservationFields) :
    items.foldlM (observeItem primaryCpu) obs =
      if ∀ item ∈ items, (itemUpdate primaryCpu item).isSome then
        some
          { items.foldl (applyItem primaryCpu) obs with
            evidenceIdMap := items.foldl recordItem obs.evidenceIdMap }
      else none := by
  induction items generalizing obs with
  | nil => simp
  | cons item rest ih =>
      rw [List.foldlM_cons, observeItem_eq]
      cases hitem : itemUpdate primaryCpu item with
      | none => simp [hitem]
      | some u =>
          have happly : applyItem primaryCpu obs item = u.apply obs := by rw [applyItem, hitem]; rfl
          rw [Option.map_some, Option.bind_eq_bind, Option.bind_some, ih,
            foldl_applyItem_evidenceIdMap, List.foldl_cons, List.foldl_cons, happly]
          simp only [List.mem_cons, forall_eq_or_imp, hitem, Option.isSome_some, true_and]
          rfl

end Loop

/-! ### Which fields an item sets -/

/-- The sources of the metrics that are collected. -/
def metricSources : List String :=
  "prometheus:active_alerts" :: MetricQuery.all.map fun query => "prometheus:" ++ query.name

/-- The fields that the source of a metric stands for. -/
def fieldOfSource (source : String) : Option ObservationField :=
  if textContains "prometheus:up" source then some .up
  else if textContains "prometheus:cpu_rate" source || textContains "prometheus:process_cpu" source
  then some .cpu
  else if textContains "prometheus:probe_success" source then some .readiness
  else if textContains "prometheus:redis_connected" source then some .redis
  else if textContains "prometheus:db_connections" source then some .dbConnections
  else if textContains "prometheus:active_alerts" source then some .alerts
  else none

/-- The fields that an item may set. -/
def itemField (item : EvidenceItemSchema) : Option ObservationField :=
  match item.kind with
  | .containerState => some .container
  | .metrics => fieldOfSource item.source
  | .logs => some .logs
  | .resourceChanges | .alertEvaluation | .readinessProbe | .other _ => none

/-- Two sources of metrics stand for different fields, unless both are about the processor. -/
theorem fieldOfSource_ne : ∀ source ∈ metricSources, ∀ source' ∈ metricSources, source ≠ source' →
    fieldOfSource source = none ∨ fieldOfSource source ≠ fieldOfSource source' ∨
      source = "prometheus:cpu_rate" ∧ source' = "prometheus:process_cpu" ∨
      source = "prometheus:process_cpu" ∧ source' = "prometheus:cpu_rate" := by
  decide +kernel

theorem fieldOfSource_metric (source : String) :
    fieldOfSource source ≠ some .container ∧ fieldOfSource source ≠ some .logs := by
  unfold fieldOfSource
  repeat' split
  all_goals decide

section Fields

variable {primaryCpu : Bool} {item : EvidenceItemSchema} {u : FieldUpdate}

/-- Whatever is set from a value sets one field. -/
theorem field_of_map {α : Type} {value : Option α} {set : α → FieldUpdate}
    {field : Option ObservationField} (hset : ∀ x, (set x).field = field)
    (h : value.map set = some u) : u.field = field := by
  obtain ⟨x, -, rfl⟩ := Option.map_eq_some_iff.mp h
  exact hset x

theorem metricUpdate_field (h : metricUpdate primaryCpu item = some u) :
    u.field = none ∨ u.field = fieldOfSource item.source := by
  unfold metricUpdate EvidenceItemSchema.sourceHas at h
  unfold fieldOfSource
  simp only at h
  by_cases hup : textContains "prometheus:up" item.source = true
  · rw [if_pos hup] at h ⊢
    exact Or.inr (Option.some.inj h ▸ rfl)
  rw [if_neg hup] at h ⊢
  by_cases hcpu : (textContains "prometheus:cpu_rate" item.source ||
      textContains "prometheus:process_cpu" item.source) = true
  · rw [if_pos hcpu] at h ⊢
    split at h
    · exact Or.inr (field_of_map (fun _ => rfl) h)
    · exact Or.inl (Option.some.inj h ▸ rfl)
  rw [if_neg hcpu] at h ⊢
  by_cases hprobe : textContains "prometheus:probe_success" item.source = true
  · rw [if_pos hprobe] at h ⊢
    split at h
    · exact Or.inr (Option.some.inj h ▸ rfl)
    · exact Or.inr (field_of_map (fun _ => rfl) h)
  rw [if_neg hprobe] at h ⊢
  by_cases hredis : textContains "prometheus:redis_connected" item.source = true
  · rw [if_pos hredis] at h ⊢
    split at h
    · exact Or.inl (Option.some.inj h ▸ rfl)
    · exact Or.inr (field_of_map (fun _ => rfl) h)
  rw [if_neg hredis] at h ⊢
  by_cases hdb : textContains "prometheus:db_connections" item.source = true
  · rw [if_pos hdb] at h ⊢
    split at h
    · exact Or.inl (Option.some.inj h ▸ rfl)
    · exact Or.inr (field_of_map (fun _ => rfl) h)
  rw [if_neg hdb] at h ⊢
  by_cases halerts : textContains "prometheus:active_alerts" item.source = true
  · rw [if_pos halerts] at h ⊢
    exact Or.inr (Option.some.inj h ▸ rfl)
  · rw [if_neg halerts] at h
    exact Or.inl (Option.some.inj h ▸ rfl)

/-- **An item sets nothing, or the fields that its kind and its source say.** -/
theorem itemUpdate_field (h : itemUpdate primaryCpu item = some u) :
    u.field = none ∨ u.field = itemField item := by
  unfold itemUpdate at h
  unfold itemField
  cases hkind : item.kind with
  | metrics =>
      rw [hkind] at h
      exact metricUpdate_field h
  | containerState =>
      rw [hkind] at h
      exact Or.inr (Option.some.inj h ▸ rfl)
  | logs =>
      rw [hkind] at h
      exact Or.inr (field_of_map (fun _ => rfl) h)
  | resourceChanges | alertEvaluation | readinessProbe | other text =>
      rw [hkind] at h
      exact Or.inl (Option.some.inj h ▸ rfl)

theorem itemUpdate_metrics (h : item.kind = .metrics) :
    itemUpdate primaryCpu item = metricUpdate primaryCpu item := by
  unfold itemUpdate
  rw [h]

theorem itemField_cases {field : ObservationField} (h : itemField item = some field) :
    field = .container ∧ item.kind = .containerState ∨ field = .logs ∧ item.kind = .logs ∨
      fieldOfSource item.source = some field ∧ item.kind = .metrics := by
  unfold itemField at h
  cases hkind : item.kind with
  | containerState =>
      rw [hkind] at h
      exact Or.inl ⟨(Option.some.inj h).symm, rfl⟩
  | logs =>
      rw [hkind] at h
      exact Or.inr (Or.inl ⟨(Option.some.inj h).symm, rfl⟩)
  | metrics =>
      rw [hkind] at h
      exact Or.inr (Or.inr ⟨h, rfl⟩)
  | resourceChanges | alertEvaluation | readinessProbe | other text =>
      rw [hkind] at h
      cases h

/-- Which metric a source is about. -/
theorem query_source_has (query : MetricQuery) :
    let has := fun needle => textContains needle ("prometheus:" ++ query.name)
    has "prometheus:up" = decide (query = .up) ∧
      has "prometheus:cpu_rate" = decide (query = .cpuRate) ∧
      has "prometheus:process_cpu" = decide (query = .processCpu) ∧
      has "prometheus:probe_success" = decide (query = .probeSuccess) ∧
      has "prometheus:redis_connected" = decide (query = .redisConnected) ∧
      has "prometheus:db_connections" = decide (query = .dbConnections) ∧
      has "prometheus:active_alerts" = false := by
  cases query <;> decide +kernel

/-- **What the item of each metric sets.** -/
theorem metricUpdate_query {query : MetricQuery} (h : item.source = "prometheus:" ++ query.name) :
    metricUpdate primaryCpu item =
      match query with
      | .up => some (.up item.latestValue)
      | .cpuRate =>
          if isNone item.latestValue then some .nothing
          else (dividedBy cpuBudgetCores item.latestValue).map (.cpu item.latestValue)
      | .processCpu =>
          if isNone item.latestValue || primaryCpu then some .nothing
          else (dividedBy cpuBudgetCores item.latestValue).map (.cpu item.latestValue)
      | .probeSuccess =>
          if isNone item.latestValue then some (.readiness item.latestValue none)
          else
            (atLeastOne item.latestValue).map fun ready =>
              .readiness item.latestValue (some (if ready then 200 else 503))
      | .httpRequestsTotal | .httpErrors => some .nothing
      | .redisConnected =>
          if isNone item.latestValue then some .nothing
          else (atLeastOne item.latestValue).map .redis
      | .dbConnections =>
          if isNone item.latestValue then some .nothing
          else (wholeNumber item.latestValue).map .dbConnections := by
  obtain ⟨hup, hrate, hprocess, hprobe, hredis, hdb, halerts⟩ := query_source_has query
  unfold metricUpdate EvidenceItemSchema.sourceHas
  simp only [h, hup, hrate, hprocess, hprobe, hredis, hdb, halerts]
  cases query <;> cases isNone item.latestValue <;> cases primaryCpu <;> rfl

/-- The item of the alerts sets them. -/
theorem metricUpdate_alerts (h : item.source = "prometheus:active_alerts") :
    metricUpdate primaryCpu item =
      some (.alerts (item.content.getOr "firing_alerts" (.seq []))) := by
  have hhas : let has := fun needle => textContains needle "prometheus:active_alerts"
      has "prometheus:up" = false ∧ has "prometheus:cpu_rate" = false ∧
        has "prometheus:process_cpu" = false ∧ has "prometheus:probe_success" = false ∧
        has "prometheus:redis_connected" = false ∧ has "prometheus:db_connections" = false ∧
        has "prometheus:active_alerts" = true := by
    decide +kernel
  obtain ⟨hup, hrate, hprocess, hprobe, hredis, hdb, halerts⟩ := hhas
  unfold metricUpdate EvidenceItemSchema.sourceHas
  simp only [h, hup, hrate, hprocess, hprobe, hredis, hdb, halerts]
  rfl

/-- The load of the application, where it has a value. -/
theorem metricUpdate_cpuRate (h : item.source = "prometheus:cpu_rate") :
    metricUpdate primaryCpu item =
      if isNone item.latestValue then some .nothing
      else (dividedBy cpuBudgetCores item.latestValue).map (.cpu item.latestValue) :=
  @metricUpdate_query primaryCpu item .cpuRate h

/-- The load of the process, where it has a value and is not overridden. -/
theorem metricUpdate_processCpu (h : item.source = "prometheus:process_cpu") :
    metricUpdate primaryCpu item =
      if isNone item.latestValue || primaryCpu then some .nothing
      else (dividedBy cpuBudgetCores item.latestValue).map (.cpu item.latestValue) :=
  @metricUpdate_query primaryCpu item .processCpu h

end Fields

/-! ### Collected items

The shape of a collected bundle is a property of its items that does not depend on their order.
Two of its items set different fields, because their sources differ; the two loads are the
exception, and there the one gives way to the other wherever it comes.
-/

/-- The items are such as are collected: no source twice, at most one item of the container and one
of the log, and of metrics those that are asked for. -/
structure AsCollected (items : List EvidenceItemSchema) : Prop where
  sources : (items.map EvidenceItemSchema.source).Nodup
  container : ∀ a ∈ items, ∀ b ∈ items, a.kind = .containerState → b.kind = .containerState → a = b
  log : ∀ a ∈ items, ∀ b ∈ items, a.kind = .logs → b.kind = .logs → a = b
  metrics : ∀ item ∈ items, item.kind = .metrics → item.source ∈ metricSources

namespace AsCollected

variable {items items' : List EvidenceItemSchema} {a b : EvidenceItemSchema}

theorem perm (h : AsCollected items) (hperm : items.Perm items') : AsCollected items' where
  sources := (hperm.map _).nodup h.sources
  container := fun a ha b hb => h.container a (hperm.mem_iff.mpr ha) b (hperm.mem_iff.mpr hb)
  log := fun a ha b hb => h.log a (hperm.mem_iff.mpr ha) b (hperm.mem_iff.mpr hb)
  metrics := fun item hitem => h.metrics item (hperm.mem_iff.mpr hitem)

theorem eq_of_source (h : AsCollected items) (ha : a ∈ items) (hb : b ∈ items)
    (hsource : a.source = b.source) : a = b :=
  List.inj_on_of_nodup_map h.sources ha hb hsource

/-- The process sets nothing when the application has a value, and the application nothing when it
has none. -/
theorem cpu_independent (ha : a ∈ items) (hmetric : a.kind = .metrics)
    (hrate : a.source = "prometheus:cpu_rate") (hprocess : b.source = "prometheus:process_cpu")
    {u u' : FieldUpdate} (hu : metricUpdate (primaryCpuAvailable items) a = some u)
    (hu' : metricUpdate (primaryCpuAvailable items) b = some u') :
    u = .nothing ∨ u' = .nothing := by
  cases hvalue : isNone a.latestValue with
  | true =>
      rw [metricUpdate_cpuRate hrate, hvalue, if_pos rfl] at hu
      exact Or.inl (Option.some.inj hu).symm
  | false =>
      have hprimary : a.isPrimaryCpu = true := by
        unfold EvidenceItemSchema.isPrimaryCpu EvidenceItemSchema.sourceHas
        rw [hmetric, hrate, hvalue]
        decide
      have havailable : primaryCpuAvailable items = true := List.any_eq_true.mpr ⟨a, ha, hprimary⟩
      rw [metricUpdate_processCpu hprocess, havailable, Bool.or_true, if_pos rfl] at hu'
      exact Or.inr (Option.some.inj hu').symm

/-- Items that may set the same fields are of one kind, and for metrics the sources say so. -/
theorem kind_of_itemField {field : ObservationField} (ha : itemField a = some field)
    (hb : itemField b = some field) :
    a.kind = .containerState ∧ b.kind = .containerState ∨ a.kind = .logs ∧ b.kind = .logs ∨
      a.kind = .metrics ∧ b.kind = .metrics ∧ fieldOfSource a.source = fieldOfSource b.source ∧
        fieldOfSource a.source = some field := by
  rcases itemField_cases ha with ⟨rfl, hkind⟩ | ⟨rfl, hkind⟩ | ⟨hsource, hkind⟩ <;>
    rcases itemField_cases hb with ⟨hfield, hkind'⟩ | ⟨hfield, hkind'⟩ | ⟨hsource', hkind'⟩
  · exact Or.inl ⟨hkind, hkind'⟩
  · cases hfield
  · exact absurd hsource' (fieldOfSource_metric b.source).1
  · cases hfield
  · exact Or.inr (Or.inl ⟨hkind, hkind'⟩)
  · exact absurd hsource' (fieldOfSource_metric b.source).2
  · exact absurd (hfield ▸ hsource) (fieldOfSource_metric a.source).1
  · exact absurd (hfield ▸ hsource) (fieldOfSource_metric a.source).2
  · exact Or.inr (Or.inr ⟨hkind, hkind', hsource.trans hsource'.symm, hsource⟩)

/-- **Two items set different fields, or one of them nothing.** -/
theorem independent (h : AsCollected items) (ha : a ∈ items) (hb : b ∈ items) (hne : a ≠ b)
    {u u' : FieldUpdate} (hu : itemUpdate (primaryCpuAvailable items) a = some u)
    (hu' : itemUpdate (primaryCpuAvailable items) b = some u') : u.Independent u' := by
  cases hset : u.field with
  | none => exact Or.inl hset
  | some field =>
      refine Or.inr fun hsame => ?_
      have hset' : u'.field = some field := hsame.symm.trans hset
      have hfield : itemField a = some field :=
        ((itemUpdate_field hu).resolve_left (hset ▸ Option.some_ne_none _)).symm.trans hset
      have hfield' : itemField b = some field :=
        ((itemUpdate_field hu').resolve_left (hset' ▸ Option.some_ne_none _)).symm.trans hset'
      rcases kind_of_itemField hfield hfield' with
        ⟨hkind, hkind'⟩ | ⟨hkind, hkind'⟩ | ⟨hkind, hkind', heq, hsome⟩
      · exact hne (h.container a ha b hb hkind hkind')
      · exact hne (h.log a ha b hb hkind hkind')
      · have hsource : a.source ≠ b.source := fun heq => hne (h.eq_of_source ha hb heq)
        rw [itemUpdate_metrics hkind] at hu
        rw [itemUpdate_metrics hkind'] at hu'
        have hnothing : u = .nothing ∨ u' = .nothing := by
          rcases fieldOfSource_ne _ (h.metrics a ha hkind) _ (h.metrics b hb hkind') hsource with
            hnone | hdiffer | ⟨hrate, hprocess⟩ | ⟨hprocess, hrate⟩
          · exact absurd (hnone.symm.trans hsome) (Option.some_ne_none _).symm
          · exact absurd heq hdiffer
          · exact cpu_independent ha hkind hrate hprocess hu hu'
          · exact (cpu_independent hb hkind' hrate hprocess hu' hu).symm
        rcases hnothing with rfl | rfl
        · cases hset
        · cases hset'

/-- The updates may be made in any order. -/
theorem foldl_applyItem (h : AsCollected items) (hperm : items.Perm items')
    (obs : ObservationFields) :
    items.foldl (applyItem (primaryCpuAvailable items)) obs =
      items'.foldl (applyItem (primaryCpuAvailable items)) obs := by
  refine hperm.foldl_eq' (fun a ha b hb obs => ?_) obs
  by_cases hne : a = b
  · rw [hne]
  · unfold applyItem
    refine FieldUpdate.apply_comm ?_ obs
    cases hu : itemUpdate (primaryCpuAvailable items) a with
    | none => exact Or.inl rfl
    | some u =>
        cases hu' : itemUpdate (primaryCpuAvailable items) b with
        | none =>
            by_cases hset : u.field = none
            · exact Or.inl hset
            · exact Or.inr hset
        | some u' => exact h.independent ha hb hne hu hu'

/-- Any item may be the last. -/
theorem foldl_of_mem (h : AsCollected items) (ha : a ∈ items) (obs : ObservationFields) :
    ∃ obs', items.foldl (applyItem (primaryCpuAvailable items)) obs =
      applyItem (primaryCpuAvailable items) obs' a := by
  obtain ⟨before, after, hsplit⟩ := List.append_of_mem ha
  have hperm : items.Perm (before ++ after ++ [a]) := by
    rw [hsplit, List.append_assoc]
    exact List.Perm.append_left before (@List.perm_append_comm _ [a] after)
  rw [h.foldl_applyItem hperm, List.foldl_append]
  exact ⟨_, rfl⟩

/-- Each item is recorded as the evidence of its source. -/
theorem foldl_recordItem (h : AsCollected items) :
    items.foldl recordItem [] = items.map idEntry := by
  have hmap : items.foldl recordItem [] =
      (items.map idEntry).foldl (fun ids entry => put entry.1 entry.2 ids) [] := by
    rw [List.foldl_map]
    rfl
  rw [hmap, foldl_put_eq, List.nil_append]
  rw [List.map_nil, List.nil_append, List.map_map]
  exact h.sources

end AsCollected

/-! ### The observations -/

/-- The same fields, and the same evidence for every source. -/
structure ObservationFields.SameAs (obs obs' : ObservationFields) : Prop where
  fields : { obs with evidenceIdMap := [] } = { obs' with evidenceIdMap := [] }
  evidence : ∀ source, obs.evidenceIdMap.lookup source = obs'.evidenceIdMap.lookup source

/-- The item is the one of the metric. -/
def EvidenceItemSchema.IsMetric (item : EvidenceItemSchema) (query : MetricQuery) : Prop :=
  item.kind = .metrics ∧ item.source = "prometheus:" ++ query.name

/-- The load is that of the application where it has a value, and that of the process only
otherwise. -/
structure CpuPriority (items : List EvidenceItemSchema) (normalizedCpu : Option Float) : Prop where
  application : ∀ item ∈ items, item.IsMetric .cpuRate → isNone item.latestValue = false →
    ∃ load, dividedBy cpuBudgetCores item.latestValue = some load ∧ normalizedCpu = some load
  process : (∀ item ∈ items, item.IsMetric .cpuRate → isNone item.latestValue = true) →
    ∀ item ∈ items, item.IsMetric .processCpu → isNone item.latestValue = false →
      ∃ load, dividedBy cpuBudgetCores item.latestValue = some load ∧ normalizedCpu = some load
  neither : (∀ item ∈ items, item.IsMetric .cpuRate ∨ item.IsMetric .processCpu →
    isNone item.latestValue = true) → normalizedCpu = none

/-! ### What can be converted

Three things are done with the value of a metric, each of which is raised on by some values: it is
divided by the budget of the processor, compared with one, or made a whole number.
-/

/-- The value can be divided by a float. -/
def hasQuotient : Data → Bool
  | .atom (.bool _) | .atom (.float _) => true
  | .atom (.int n) => (floatOfInt n).toOption.isSome
  | _ => false

/-- The value can be compared with a float. -/
def isNumber : Data → Bool
  | .atom (.bool _) | .atom (.int _) | .atom (.float _) => true
  | _ => false

/-- The value can be made a whole number: a float if it is finite, a text if it is one of a
number. -/
def hasWholePart : Data → Bool
  | .atom (.bool _) | .atom (.int _) => true
  | .atom (.float x) => x.isFinite
  | .atom (.text s) => (intOfText 10 s).isSome
  | _ => false

/-- The item does not raise: the value that is read of it, if there is one, is of a kind that the
field asks for, and the lines of a log are texts. -/
structure Converts (primaryCpu : Bool) (item : EvidenceItemSchema) : Prop where
  load : item.kind = .metrics → fieldOfSource item.source = some .cpu →
    (item.sourceHas "prometheus:cpu_rate" = true ∨ primaryCpu = false) →
    isNone item.latestValue = true ∨ hasQuotient item.latestValue = true
  compared : item.kind = .metrics →
    fieldOfSource item.source = some .readiness ∨ fieldOfSource item.source = some .redis →
    isNone item.latestValue = true ∨ isNumber item.latestValue = true
  counted : item.kind = .metrics → fieldOfSource item.source = some .dbConnections →
    isNone item.latestValue = true ∨ hasWholePart item.latestValue = true
  lines : item.kind = .logs →
    ((iterated (item.content.getOr "lines" (.seq []))).bind lineTexts).isSome = true

theorem dividedBy_isSome (value : Data) :
    (dividedBy cpuBudgetCores value).isSome = hasQuotient value := by
  have hcores : ((1.0 : Float) == 0.0) = false := by decide +kernel
  have hone : floatOfInt 1 = .ok (Float.ofModel (Float.Model.ofInt 1)) := by
    unfold floatOfInt
    exact if_neg (by decide +kernel)
  have hzero : floatOfInt 0 = .ok (Float.ofModel (Float.Model.ofInt 0)) := by
    unfold floatOfInt
    exact if_neg (by decide +kernel)
  unfold dividedBy cpuBudgetCores
  cases value with
  | seq items => rfl
  | map entries => rfl
  | atom value =>
      cases value with
      | null => rfl
      | text s => rfl
      | float x => simp [scalarOf, pyFloat, pyDiv, hcores, Except.bind, Except.toOption, hasQuotient]
      | bool b =>
          cases b with
          | false =>
              simp [scalarOf, pyFloat, pyDiv, hcores, hzero, Except.bind, Except.toOption,
                hasQuotient]
          | true =>
              simp [scalarOf, pyFloat, pyDiv, hcores, hone, Except.bind, Except.toOption,
                hasQuotient]
      | int n =>
          cases hn : floatOfInt n with
          | error e => simp [scalarOf, pyFloat, hn, Except.bind, Except.toOption, hasQuotient]
          | ok x =>
              simp [scalarOf, pyFloat, pyDiv, hcores, hn, Except.bind, Except.toOption, hasQuotient]

theorem atLeastOne_isSome (value : Data) : (atLeastOne value).isSome = isNumber value := by
  cases value with
  | seq items => rfl
  | map entries => rfl
  | atom value => cases value <;> rfl

theorem wholeNumber_isSome (value : Data) : (wholeNumber value).isSome = hasWholePart value := by
  cases value with
  | seq items => rfl
  | map entries => rfl
  | atom value =>
      cases value with
      | null => rfl
      | bool b => rfl
      | int n => rfl
      | text s =>
          cases hs : intOfText 10 s with
          | none => simp [wholeNumber, scalarOf, pyInt, hs, Except.toOption, hasWholePart]
          | some n => simp [wholeNumber, scalarOf, pyInt, hs, Except.toOption, hasWholePart]
      | float x =>
          have htruncate : (Floats.truncate x).isSome = x.isFinite := by
            rw [Floats.isFinite_eq]
            unfold Floats.truncate
            cases Floats.shape x with
            | notANumber => rfl
            | infinity sign => rfl
            | zero sign => rfl
            | finite sign m e hm =>
                dsimp only
                by_cases he : 0 ≤ e
                · rw [if_pos he]
                  rfl
                · rw [if_neg he]
                  rfl
          cases hx : Floats.truncate x with
          | none =>
              rw [hx] at htruncate
              simp [wholeNumber, scalarOf, pyInt, hx, Except.toOption, hasWholePart, ← htruncate]
          | some n =>
              rw [hx] at htruncate
              simp [wholeNumber, scalarOf, pyInt, hx, Except.toOption, hasWholePart, ← htruncate]

section Convertible

variable {primaryCpu : Bool} {item : EvidenceItemSchema}

/-- The cases are those of the loop, in its order; where two fields share a test they are one. -/
theorem metricUpdate_isSome_iff :
    (metricUpdate primaryCpu item).isSome = true ↔
      (fieldOfSource item.source = some .cpu →
        (item.sourceHas "prometheus:cpu_rate" = true ∨ primaryCpu = false) →
        isNone item.latestValue = true ∨ hasQuotient item.latestValue = true) ∧
      (fieldOfSource item.source = some .readiness ∨ fieldOfSource item.source = some .redis →
        isNone item.latestValue = true ∨ isNumber item.latestValue = true) ∧
      (fieldOfSource item.source = some .dbConnections →
        isNone item.latestValue = true ∨ hasWholePart item.latestValue = true) := by
  unfold metricUpdate EvidenceItemSchema.sourceHas fieldOfSource
  dsimp only
  by_cases hup : textContains "prometheus:up" item.source = true
  · rw [if_pos hup, if_pos hup]
    simp
  rw [if_neg hup, if_neg hup]
  by_cases hcpu : (textContains "prometheus:cpu_rate" item.source ||
      textContains "prometheus:process_cpu" item.source) = true
  · rw [if_pos hcpu, if_pos hcpu]
    by_cases hnone : isNone item.latestValue = true
    · simp [hnone]
    · by_cases hread : textContains "prometheus:cpu_rate" item.source = true ∨ primaryCpu = false
      · simp [hnone, hread, dividedBy_isSome]
      · simp [hnone, hread]
  rw [if_neg hcpu, if_neg hcpu]
  by_cases hprobe : textContains "prometheus:probe_success" item.source = true
  · rw [if_pos hprobe, if_pos hprobe]
    by_cases hnone : isNone item.latestValue = true
    · simp [hnone]
    · simp [hnone, atLeastOne_isSome]
  rw [if_neg hprobe, if_neg hprobe]
  by_cases hredis : textContains "prometheus:redis_connected" item.source = true
  · rw [if_pos hredis, if_pos hredis]
    by_cases hnone : isNone item.latestValue = true
    · simp [hnone]
    · simp [hnone, atLeastOne_isSome]
  rw [if_neg hredis, if_neg hredis]
  by_cases hdb : textContains "prometheus:db_connections" item.source = true
  · rw [if_pos hdb, if_pos hdb]
    by_cases hnone : isNone item.latestValue = true
    · simp [hnone]
    · simp [hnone, wholeNumber_isSome]
  rw [if_neg hdb, if_neg hdb]
  by_cases halerts : textContains "prometheus:active_alerts" item.source = true
  · rw [if_pos halerts, if_pos halerts]
    simp
  · rw [if_neg halerts, if_neg halerts]
    simp

/-- **An item raises if and only if its value is not of the kind that is asked for.** -/
theorem itemUpdate_isSome_iff :
    (itemUpdate primaryCpu item).isSome = true ↔ Converts primaryCpu item := by
  unfold itemUpdate
  cases hkind : item.kind with
  | metrics =>
      dsimp only
      rw [metricUpdate_isSome_iff]
      constructor
      · intro h
        refine ⟨fun _ => h.1, fun _ => h.2.1, fun _ => h.2.2, fun hlogs => ?_⟩
        rw [hkind] at hlogs
        cases hlogs
      · intro h
        exact ⟨h.load hkind, h.compared hkind, h.counted hkind⟩
  | logs =>
      dsimp only
      rw [Option.isSome_map]
      constructor
      · intro h
        refine ⟨fun hmetrics => ?_, fun hmetrics => ?_, fun hmetrics => ?_, fun _ => h⟩
        all_goals
          rw [hkind] at hmetrics
          cases hmetrics
      · intro h
        exact h.lines hkind
  | containerState | resourceChanges | alertEvaluation | readinessProbe | other text =>
      refine iff_of_true rfl ⟨fun h => ?_, fun h => ?_, fun h => ?_, fun h => ?_⟩
      all_goals
        rw [hkind] at h
        cases h

end Convertible

section Observations

variable {request : ObservationRequest} {bundle : EvidenceBundle}

/-- **The observations, from all updates and all evidence**, unless an item raises. -/
theorem toObservationBundle_eq (h : AsCollected bundle.items) :
    toObservationBundle request bundle =
      if ∀ item ∈ bundle.items, (itemUpdate (primaryCpuAvailable bundle.items) item).isSome then
        some (ObservationFields.finish bundle
          { bundle.items.foldl (applyItem (primaryCpuAvailable bundle.items))
              (ObservationFields.init request bundle) with
            evidenceIdMap := bundle.items.map idEntry })
      else none := by
  unfold toObservationBundle
  have hids : (ObservationFields.init request bundle).evidenceIdMap = [] := rfl
  rw [observeItems_eq, hids, h.foldl_recordItem]
  split
  · rfl
  · rfl

theorem toObservationBundle_isSome_iff (h : AsCollected bundle.items) :
    (toObservationBundle request bundle).isSome = true ↔
      ∀ item ∈ bundle.items, Converts (primaryCpuAvailable bundle.items) item := by
  rw [toObservationBundle_eq h]
  simp only [← itemUpdate_isSome_iff]
  split
  · rename_i hall
    exact iff_of_true rfl hall
  · rename_i hraise
    exact iff_of_false Bool.false_ne_true hraise

theorem finish_evidenceIdMap (obs : ObservationFields) :
    (obs.finish bundle).evidenceIdMap = obs.evidenceIdMap := by
  unfold ObservationFields.finish
  split
  · rfl
  · rfl

/-- The evidence of a bundle that is converted. -/
theorem evidenceIdMap_of_yields (h : AsCollected bundle.items) {obs : ObservationFields}
    (hobs : toObservationBundle request bundle = some obs) :
    obs.evidenceIdMap = bundle.items.map idEntry := by
  rw [toObservationBundle_eq h] at hobs
  split at hobs
  · rw [← Option.some.inj hobs, finish_evidenceIdMap]
  · cases hobs

theorem finish_normalizedCpu (obs : ObservationFields) :
    (obs.finish bundle).normalizedCpu = obs.normalizedCpu := by
  unfold ObservationFields.finish
  split
  · rfl
  · rfl

/-- What sets another field leaves the load. -/
theorem apply_normalizedCpu {u : FieldUpdate} (h : u.field ≠ some .cpu) (obs : ObservationFields) :
    (u.apply obs).normalizedCpu = obs.normalizedCpu := by
  cases u <;> first | rfl | exact absurd rfl h

theorem foldl_normalizedCpu {primaryCpu : Bool} {items : List EvidenceItemSchema}
    (h : ∀ item ∈ items, ((itemUpdate primaryCpu item).getD .nothing).field ≠ some .cpu)
    (obs : ObservationFields) :
    (items.foldl (applyItem primaryCpu) obs).normalizedCpu = obs.normalizedCpu := by
  induction items generalizing obs with
  | nil => rfl
  | cons item rest ih =>
      rw [List.foldl_cons, ih fun item hitem => h item (List.mem_cons_of_mem _ hitem)]
      exact apply_normalizedCpu (h item List.mem_cons_self) obs

/-- A metric that stands for the load is one of the two. -/
theorem source_of_cpu : ∀ source ∈ metricSources, fieldOfSource source = some .cpu →
    source = "prometheus:" ++ MetricQuery.cpuRate.name ∨
      source = "prometheus:" ++ MetricQuery.processCpu.name := by
  decide +kernel

/-- The load is set by one of the two items, to what its value says. -/
theorem cpu_of_update (h : AsCollected bundle.items) {item : EvidenceItemSchema}
    (hitem : item ∈ bundle.items) {primaryCpu : Bool} {u : FieldUpdate}
    (hu : itemUpdate primaryCpu item = some u) (hcpu : u.field = some .cpu) :
    item.IsMetric .cpuRate ∨ item.IsMetric .processCpu := by
  have hfield : itemField item = some .cpu :=
    ((itemUpdate_field hu).resolve_left (hcpu ▸ Option.some_ne_none _)).symm.trans hcpu
  rcases itemField_cases hfield with ⟨heq, -⟩ | ⟨heq, -⟩ | ⟨hsource, hkind⟩
  · cases heq
  · cases heq
  · rcases source_of_cpu _ (h.metrics item hitem hkind) hsource with hrate | hprocess
    · exact Or.inl ⟨hkind, hrate⟩
    · exact Or.inr ⟨hkind, hprocess⟩

/-- The load that an item sets is there at the end. -/
theorem normalizedCpu_of_mem (h : AsCollected bundle.items) {item : EvidenceItemSchema}
    (hitem : item ∈ bundle.items) (hraise : ∀ item ∈ bundle.items,
      (itemUpdate (primaryCpuAvailable bundle.items) item).isSome)
    (hupdate : itemUpdate (primaryCpuAvailable bundle.items) item =
      (dividedBy cpuBudgetCores item.latestValue).map (.cpu item.latestValue))
    (obs : ObservationFields) :
    ∃ load, dividedBy cpuBudgetCores item.latestValue = some load ∧
      (bundle.items.foldl (applyItem (primaryCpuAvailable bundle.items)) obs).normalizedCpu =
        some load := by
  have hsome := hraise item hitem
  rw [hupdate, Option.isSome_map] at hsome
  obtain ⟨load, hload⟩ := Option.isSome_iff_exists.mp hsome
  obtain ⟨obs', hlast⟩ := h.foldl_of_mem hitem obs
  refine ⟨load, hload, ?_⟩
  rw [hlast, applyItem, hupdate, hload]
  rfl

/-- Only the item of the application is looked for. -/
theorem source_of_cpuRate : ∀ source ∈ metricSources,
    textContains "prometheus:cpu_rate" source = true →
      source = "prometheus:" ++ MetricQuery.cpuRate.name := by
  decide +kernel

theorem isMetric_of_isPrimaryCpu (h : AsCollected bundle.items) {item : EvidenceItemSchema}
    (hitem : item ∈ bundle.items) (hprimary : item.isPrimaryCpu = true) :
    item.IsMetric .cpuRate ∧ isNone item.latestValue = false := by
  unfold EvidenceItemSchema.isPrimaryCpu at hprimary
  rw [Bool.and_eq_true, Bool.and_eq_true, decide_eq_true_eq, Bool.not_eq_true'] at hprimary
  obtain ⟨⟨hkind, hsource⟩, hvalue⟩ := hprimary
  exact ⟨⟨hkind, source_of_cpuRate _ (h.metrics item hitem hkind) hsource⟩, hvalue⟩

/-- **The load comes from the application first, wherever its item stands.** -/
theorem cpu_priority (h : AsCollected bundle.items) {obs : ObservationFields}
    (hobs : toObservationBundle request bundle = some obs) :
    CpuPriority bundle.items obs.normalizedCpu := by
  rw [toObservationBundle_eq h] at hobs
  split at hobs
  · rename_i hraise
    rw [← Option.some.inj hobs, finish_normalizedCpu]
    constructor
    · intro item hitem hmetric hvalue
      refine normalizedCpu_of_mem h hitem hraise ?_ _
      rw [itemUpdate_metrics hmetric.1, metricUpdate_cpuRate hmetric.2, hvalue,
        if_neg Bool.false_ne_true]
    · intro hnone item hitem hmetric hvalue
      have hprimary : primaryCpuAvailable bundle.items = false := by
        unfold primaryCpuAvailable
        rw [List.any_eq_false]
        intro item hitem hhas
        obtain ⟨hmetric, hvalue⟩ := isMetric_of_isPrimaryCpu h hitem hhas
        rw [hnone item hitem hmetric] at hvalue
        cases hvalue
      refine normalizedCpu_of_mem h hitem hraise ?_ _
      rw [itemUpdate_metrics hmetric.1, metricUpdate_processCpu hmetric.2, hvalue, hprimary,
        Bool.or_false, if_neg Bool.false_ne_true]
    · intro hnone
      refine foldl_normalizedCpu (fun item hitem hcpu => ?_) _
      obtain ⟨u, hu⟩ := Option.isSome_iff_exists.mp (hraise item hitem)
      rw [hu, Option.getD_some] at hcpu
      have hnothing : u = .nothing := by
        rcases cpu_of_update h hitem hu hcpu with hmetric | hmetric
        · rw [itemUpdate_metrics hmetric.1, metricUpdate_cpuRate hmetric.2,
            hnone item hitem (Or.inl hmetric), if_pos rfl] at hu
          exact (Option.some.inj hu).symm
        · rw [itemUpdate_metrics hmetric.1, metricUpdate_processCpu hmetric.2,
            hnone item hitem (Or.inr hmetric), Bool.true_or, if_pos rfl] at hu
          exact (Option.some.inj hu).symm
      rw [hnothing] at hcpu
      cases hcpu
  · cases hobs

/-- **The order of the items makes no difference.**  The conversion yields its fields if every item
can be converted, and raises otherwise; in any order of the items the fields are the same, and so is
the evidence of every source; and the load of the application comes before that of the process. -/
theorem observations_permuted (request : ObservationRequest) (bundle : EvidenceBundle)
    (items' : List EvidenceItemSchema) (h : AsCollected bundle.items)
    (hperm : bundle.items.Perm items') :
    ((toObservationBundle request bundle).isSome = true ↔
        ∀ item ∈ bundle.items, Converts (primaryCpuAvailable bundle.items) item) ∧
      Option.Rel ObservationFields.SameAs (toObservationBundle request bundle)
        (toObservationBundle request { bundle with items := items' }) ∧
      ∀ obs, toObservationBundle request bundle = some obs →
        CpuPriority bundle.items obs.normalizedCpu := by
  refine ⟨toObservationBundle_isSome_iff h, ?_, fun obs hobs => cpu_priority h hobs⟩
  have hprimary : primaryCpuAvailable items' = primaryCpuAvailable bundle.items :=
    hperm.symm.any_eq
  rw [toObservationBundle_eq h, toObservationBundle_eq (h.perm hperm)]
  simp only [hprimary]
  by_cases hraise : ∀ item ∈ bundle.items,
      (itemUpdate (primaryCpuAvailable bundle.items) item).isSome
  · have hraise' : ∀ item ∈ items',
        (itemUpdate (primaryCpuAvailable bundle.items) item).isSome :=
      fun item hitem => hraise item (hperm.mem_iff.mpr hitem)
    rw [if_pos hraise, if_pos hraise']
    rw [h.foldl_applyItem hperm]
    refine Option.Rel.some ⟨?_, fun source => ?_⟩
    · unfold ObservationFields.finish
      split
      · rfl
      · rfl
    · rw [finish_evidenceIdMap, finish_evidenceIdMap]
      refine lookup_perm ?_ (hperm.map idEntry) source
      rw [List.map_map]
      exact h.sources
  · have hraise' : ¬ ∀ item ∈ items',
        (itemUpdate (primaryCpuAvailable bundle.items) item).isSome :=
      fun hall => hraise fun item hitem => hall item (hperm.mem_iff.mp hitem)
    rw [if_neg hraise, if_neg hraise']
    exact Option.Rel.none

end Observations

/-- A bundle with the item of the application and that of the process. -/
def loadBundle : EvidenceBundle :=
  let item := fun id (query : MetricQuery) load =>
    { id := id
      kind := .metrics
      source := "prometheus:" ++ query.name
      content := [("latest_value", dataFloat? (some load))] }
  { resourceId := 1
    collectedAt := 0
    items := [item 1 .cpuRate 0.98, item 2 .processCpu 0.04] }

/-- Either order gives the load of the application, and the identifiers of both items. -/
theorem load_items_permuted : ∃ obs obs',
    toObservationBundle {} loadBundle = some obs ∧
      toObservationBundle {} { loadBundle with items := loadBundle.items.reverse } = some obs' ∧
      obs.SameAs obs' ∧
      obs'.normalizedCpu = some (0.98 / 1.0) ∧
      obs'.evidenceIdMap.lookup "prometheus:cpu_rate" = some (uuidText 1) ∧
      obs'.evidenceIdMap.lookup "prometheus:process_cpu" = some (uuidText 2) := by
  have hshape : AsCollected loadBundle.items := by
    refine ⟨by decide, ?_, ?_, ?_⟩
    · intro a ha b _ hkind
      rcases List.mem_pair.mp ha with rfl | rfl <;> cases hkind
    · intro a ha b _ hkind
      rcases List.mem_pair.mp ha with rfl | rfl <;> cases hkind
    · intro item hitem _
      rcases List.mem_pair.mp hitem with rfl | rfl
      · decide
      · decide
  obtain ⟨hyields, hsame, hload⟩ :=
    observations_permuted {} loadBundle _ hshape (List.reverse_perm _).symm
  have hconverts : ∀ item ∈ loadBundle.items,
      Converts (primaryCpuAvailable loadBundle.items) item := by
    intro item hitem
    rw [← itemUpdate_isSome_iff]
    rcases List.mem_pair.mp hitem with rfl | rfl
    · decide +kernel
    · decide +kernel
  obtain ⟨obs, hobs⟩ := Option.isSome_iff_exists.mp (hyields.mpr hconverts)
  have hcpu : obs.normalizedCpu = some (0.98 / 1.0) := by
    obtain ⟨load, hquotient, hnormalized⟩ :=
      (hload obs hobs).application _ List.mem_cons_self ⟨rfl, rfl⟩ rfl
    exact hnormalized.trans hquotient.symm
  have hids := evidenceIdMap_of_yields hshape hobs
  rw [hobs] at hsame
  generalize toObservationBundle {} { loadBundle with items := loadBundle.items.reverse } =
    reversed at hsame ⊢
  cases hsame with
  | some hsame =>
      refine ⟨obs, _, hobs, rfl, hsame, ?_, ?_, ?_⟩
      · exact (congrArg ObservationFields.normalizedCpu hsame.fields).symm.trans hcpu
      · rw [← hsame.evidence, hids]
        rfl
      · rw [← hsame.evidence, hids]
        rfl

/-! ### What is collected -/

/-- Of what is counted once at most there are no two. -/
theorem eq_of_count_le_one {α β : Type} [DecidableEq β] {f : α → β} {l : List α} {y : β} {a b : α}
    (h : (l.map f).count y ≤ 1) (ha : a ∈ l) (hb : b ∈ l) (hfa : f a = y) (hfb : f b = y) :
    a = b := by
  have hlength : (l.filter fun c => f c = y).length ≤ 1 := by
    rw [← List.countP_eq_length_filter]
    rw [List.count_eq_countP, List.countP_map] at h
    exact h
  have ha' : a ∈ l.filter fun c => f c = y := List.mem_filter.mpr ⟨ha, decide_eq_true hfa⟩
  have hb' : b ∈ l.filter fun c => f c = y := List.mem_filter.mpr ⟨hb, decide_eq_true hfb⟩
  cases hfilter : l.filter fun c => f c = y with
  | nil =>
      rw [hfilter] at ha'
      cases ha'
  | cons c rest =>
      rw [hfilter, List.length_cons] at hlength
      have hrest : rest = [] := List.length_eq_zero_iff.mp (by omega)
      rw [hfilter, hrest, List.mem_singleton] at ha' hb'
      rw [ha', hb']

section Collect

variable (request : CollectionRequest) (answers : CollectionAnswers)

/-- The kinds and the sources of what is collected. -/
theorem collect_heads :
    (collect request answers).items.map (fun item => (item.kind, item.source)) =
      (.containerState, "docker:inspect:" ++
          (request.targetContainerId.filter (· ≠ "")).getD "unknown") ::
        (metricSources.map (fun source => (.metrics, source)) ++
          [(.logs, "loki:query:" ++ request.targetService),
           (.resourceChanges, answers.history.source)]) := by
  rfl

/-- The sources are told apart by how they begin. -/
theorem collect_sources_nodup (container service : String) (history : DeploymentHistory) :
    (("docker:inspect:" ++ container) ::
      (metricSources ++ ["loki:query:" ++ service, history.source])).Nodup := by
  have hcontainer : ("docker:inspect:" ++ container).toList.head? = some 'd' := by
    rw [String.toList_append]
    rfl
  have hlog : ("loki:query:" ++ service).toList.head? = some 'l' := by
    rw [String.toList_append]
    rfl
  have hmetrics : ∀ source ∈ metricSources, source.toList.head? = some 'p' := by decide
  have hhistory : history.source.toList.head? = some 'p' ∧ history.source ∉ metricSources := by
    have hsource : ∀ source ∈ ["postgres:deployment_history", "postgres:audit_and_incidents"],
        source.toList.head? = some 'p' ∧ source ∉ metricSources := by decide
    refine hsource _ ?_
    cases history <;> simp [DeploymentHistory.source]
  have hfirst : ∀ {text text' : String}, text = text' →
      text.toList.head? = text'.toList.head? := fun heq => heq ▸ rfl
  rw [List.nodup_cons, List.nodup_append]
  refine ⟨fun hmem => ?_, by decide, ?_, ?_⟩
  · rw [List.mem_append, List.mem_pair] at hmem
    rcases hmem with hmem | heq | heq
    · simpa [hcontainer] using hmetrics _ hmem
    · simpa [hcontainer, hlog] using hfirst heq
    · simpa [hcontainer, hhistory.1] using hfirst heq
  · rw [List.nodup_cons, List.mem_singleton]
    refine ⟨fun heq => ?_, List.nodup_singleton _⟩
    simpa [hlog, hhistory.1] using hfirst heq
  · intro source hsource source' hsource' heq
    rcases List.mem_pair.mp hsource' with hloki | hchanges
    · simpa [hmetrics _ hsource, hlog] using hfirst (heq.trans hloki)
    · exact hhistory.2 (hchanges ▸ heq ▸ hsource)

/-- **The items are as collected items are.** -/
theorem collect_asCollected : AsCollected (collect request answers).items := by
  have hheads := collect_heads request answers
  have hkinds : (collect request answers).items.map EvidenceItemSchema.kind =
      .containerState :: (List.replicate 9 .metrics ++ [.logs, .resourceChanges]) := rfl
  constructor
  · have hsources : (collect request answers).items.map EvidenceItemSchema.source =
        ("docker:inspect:" ++ (request.targetContainerId.filter (· ≠ "")).getD "unknown") ::
          (metricSources ++ ["loki:query:" ++ request.targetService, answers.history.source]) := rfl
    rw [hsources]
    exact collect_sources_nodup _ _ _
  · intro a ha b hb hkind hkind'
    refine eq_of_count_le_one ?_ ha hb hkind hkind'
    rw [hkinds]
    decide
  · intro a ha b hb hkind hkind'
    refine eq_of_count_le_one ?_ ha hb hkind hkind'
    rw [hkinds]
    decide
  · intro item hitem hkind
    have hhead := List.mem_map_of_mem (f := fun item => (item.kind, item.source)) hitem
    rw [hheads, hkind] at hhead
    simpa using hhead

end Collect

end SelfHealing
