/-
What comes back of a plan that was stored.

Its rows are the only ones with the identifier of the plan, as every other step belongs to a plan
that was there before.  Read by their positions, they are the steps that were given, whatever
order they were added in, and the columns of type JSONB change at most the order of keys.  The
checks of a step and the hash do not see that order, so nothing is lost but the resource of the
target: this one is read from the incident.

The statement compares the plan that was accepted with the one that is read back, as it is checked
and hashed again before it is carried out.
-/
import SelfHealing.StoredPlans
import SelfHealing.Proofs.PlanValidation

namespace SelfHealing

open Canonical

/-! ### Storing -/

section Storing

variable {tables tables' : PlanTables} {jsonb : JsonDict → JsonDict} {uuid4 : Nat → Nat}
  {incidentId diagnosisId version : Nat} {risk : RiskLevel} {contentHash : String}
  {containerId : Option String} {bindingGeneration : Option Int} {profile : Option String}
  {stepsData : List StepData} {row : RemediationPlan}

theorem flush_ok {plans : List RemediationPlan} {steps : List StoredStep}
    (h : tables.flush plans steps = .ok tables') :
    tables'.toPlanRows =
      { tables.toPlanRows with
        plans := tables.plans ++ plans
        steps := tables.steps ++ steps } := by
  unfold PlanTables.flush at h
  simp only [] at h
  split at h
  · split at h
    · rw [← Except.ok.inj h]
    · cases h
  · cases h

/-- The rows of the steps, as they are added. -/
def stepRows (jsonb : JsonDict → JsonDict) (uuid4 : Nat → Nat) (planId : Nat)
    (stepsData : List StepData) : List StoredStep :=
  stepsData.mapIdx fun k data => data.row jsonb planId (uuid4 (k + 1))

/-- What is stored. -/
theorem stored_rows
    (h : tables.createRemediationPlanWithSteps jsonb uuid4 incidentId diagnosisId version risk
      contentHash containerId bindingGeneration profile stepsData = .ok (row, tables')) :
    row =
        { id := uuid4 0
          incidentId := incidentId
          diagnosisId := diagnosisId
          version := version
          risk := risk.value
          approved := false
          contentHash := contentHash
          containerId := containerId
          bindingGeneration := bindingGeneration
          verificationProfile := profile } ∧
      tables'.toPlanRows =
        { tables.toPlanRows with
          plans := tables.plans ++ [row]
          steps := tables.steps ++ stepRows jsonb uuid4 row.id stepsData } := by
  unfold PlanTables.createRemediationPlanWithSteps at h
  simp only [] at h
  split at h
  · simp only [bind, Except.bind] at h
    split at h
    · cases h
    · rename_i planned hplanned
      split at h
      · cases h
      · rename_i stored hstored
        simp only [pure, Except.pure, Except.ok.injEq, Prod.mk.injEq] at h
        obtain ⟨hrow, htables⟩ := h
        refine ⟨hrow.symm, ?_⟩
        rw [← htables, flush_ok hstored, flush_ok hplanned, ← hrow]
        simp only [List.append_nil]
        rfl
  · cases h

/-- The steps of the new plan are those that were given. -/
theorem stepsOf_stored
    (h : tables.createRemediationPlanWithSteps jsonb uuid4 incidentId diagnosisId version risk
      contentHash containerId bindingGeneration profile stepsData = .ok (row, tables')) :
    tables'.stepsOf row.id =
      (stepRows jsonb uuid4 row.id stepsData).insertionSort
        fun step step' => step.position ≤ step'.position := by
  obtain ⟨-, hrows⟩ := stored_rows h
  have hplans : tables'.plans = tables.plans ++ [row] := congrArg PlanRows.plans hrows
  have hsteps : tables'.steps = tables.steps ++ stepRows jsonb uuid4 row.id stepsData :=
    congrArg PlanRows.steps hrows
  have hnew : row.id ∉ tables.plans.map RemediationPlan.id := by
    have hids := tables'.constrained.planIds
    rw [hplans, List.map_append, List.nodup_append] at hids
    intro hmem
    exact hids.2.2 row.id hmem row.id (List.mem_singleton.mpr rfl) rfl
  have hold : tables.steps.filter (fun step => step.planId = row.id) = [] := by
    rw [List.filter_eq_nil_iff]
    intro step hstep hid
    have howned := (tables.constrained.owned step hstep).1
    rw [of_decide_eq_true hid] at howned
    exact hnew howned
  have hown : (stepRows jsonb uuid4 row.id stepsData).filter (fun step => step.planId = row.id) =
      stepRows jsonb uuid4 row.id stepsData := by
    rw [List.filter_eq_self]
    intro step hstep
    obtain ⟨k, hk, rfl⟩ := List.mem_mapIdx.mp hstep
    exact decide_eq_true rfl
  unfold PlanTables.stepsOf
  rw [hsteps, List.filter_append, hold, hown, List.nil_append]

end Storing

/-! ### Steps that come back

A step that is read back is the one that was stored, but for the order of keys in its parameters.
The columns of type JSONB keep a dictionary as a finite map, and what the validator and the hash
make of a step does not depend on more than that.
-/

section Reread

variable (jsonb : JsonDict → JsonDict)

/-- A step with its dictionaries as the columns give them back. -/
def RemediationStepSchema.reread (step : RemediationStepSchema) : RemediationStepSchema :=
  { step with parameters := jsonb step.parameters, verification := jsonb step.verification }

theorem schema_stepRows (uuid4 : Nat → Nat) (planId : Nat)
    (data : List (Nat × RemediationStepSchema)) :
    (stepRows jsonb uuid4 planId (data.map fun e => e.2.modelDump e.1)).map StoredStep.schema =
      (data.map Prod.snd).map (RemediationStepSchema.reread jsonb) := by
  refine List.ext_getElem ?_ fun k hk hk' => ?_
  · simp only [stepRows, List.length_map, List.length_mapIdx]
  · simp only [stepRows, List.getElem_map, List.getElem_mapIdx]
    rfl

/-- The steps of a plan that was stored with its steps in any order. -/
theorem schema_stepsOf {tables tables' : PlanTables} {uuid4 : Nat → Nat}
    {incidentId diagnosisId version : Nat} {risk : RiskLevel} {contentHash : String}
    {containerId : Option String} {bindingGeneration : Option Int} {profile : Option String}
    {data : List (Nat × RemediationStepSchema)} {row : RemediationPlan}
    (h : tables.createRemediationPlanWithSteps jsonb uuid4 incidentId diagnosisId version risk
      contentHash containerId bindingGeneration profile
      (data.map fun e => e.2.modelDump e.1) = .ok (row, tables')) :
    (tables'.stepsOf row.id).map StoredStep.schema =
      sortedSteps ((data.map Prod.snd).map (RemediationStepSchema.reread jsonb)) := by
  rw [stepsOf_stored h, ← schema_stepRows jsonb uuid4 row.id data]
  exact List.map_insertionSort _ _ _ _ fun _ _ _ _ => Iff.rfl

theorem reread_same (hjsonb : ∀ dict, Reordered (.map dict) (.map (jsonb dict)))
    (step : RemediationStepSchema) : SameStep step (step.reread jsonb) :=
  ⟨rfl, rfl, rfl, rfl, hjsonb _, hjsonb _⟩

theorem map_position_reread (steps : List RemediationStepSchema) :
    (steps.map (RemediationStepSchema.reread jsonb)).map RemediationStepSchema.position =
      steps.map RemediationStepSchema.position := by
  rw [List.map_map]
  rfl

end Reread

/-! ### Dictionaries in another order -/

/-- What a dictionary with each key once has under a key. -/
theorem get?_eq_some_iff {dict : JsonDict} (hkeys : (dict.map Prod.fst).Nodup) {key : String}
    {value : JsonValue} : dict.get? key = some value ↔ (key, value) ∈ dict := by
  unfold JsonDict.get?
  induction dict with
  | nil => simp only [List.lookup_nil, reduceCtorEq, List.not_mem_nil]
  | cons e rest ih =>
      obtain ⟨k, v⟩ := e
      simp only [List.map_cons, List.nodup_cons] at hkeys
      by_cases hk : key = k
      · have hrest : (key, value) ∉ rest := by
          intro hmem
          exact hkeys.1 (hk ▸ List.mem_map_of_mem hmem)
        rw [hk] at hrest ⊢
        rw [List.lookup_cons_self, List.mem_cons, Option.some.injEq, Prod.mk.injEq]
        constructor
        · intro hv
          exact Or.inl ⟨rfl, hv.symm⟩
        · rintro (⟨-, hv⟩ | hmem)
          · exact hv.symm
          · exact absurd hmem hrest
      · have hbeq : (key == k) = false := beq_false_of_ne hk
        rw [List.lookup_cons, hbeq, List.mem_cons, Prod.mk.injEq, ← ih hkeys.2]
        simp only [hk, false_and, false_or]

theorem get?_perm {dict dict' : JsonDict} (hkeys : (dict.map Prod.fst).Nodup)
    (hperm : dict.Perm dict') (key : String) : dict'.get? key = dict.get? key := by
  have hkeys' : (dict'.map Prod.fst).Nodup := (hperm.map _).nodup_iff.mp hkeys
  refine Option.ext fun value => ?_
  rw [get?_eq_some_iff hkeys, get?_eq_some_iff hkeys', hperm.mem_iff]

theorem acceptsParameters_perm {fields : List ParamField} {dict dict' : JsonDict}
    (hperm : dict.Perm dict') :
    acceptsParameters fields dict' = acceptsParameters fields dict := by
  unfold acceptsParameters
  rw [Bool.eq_iff_iff]
  simp only [Bool.and_eq_true, List.all_eq_true, Bool.or_eq_true, List.any_eq_true, hperm.mem_iff]

/-! ### Checks of steps that come back -/

section Checks

variable {py : Libraries} {registry : ActionRegistry} {target : TargetBinding}
  {steps : List RemediationStepSchema} {jsonb : JsonDict → JsonDict}

/-- The checks of a step do not see the order of its parameters. -/
theorem stepErrors_reread (hjsonb : ∀ dict, Reordered (.map dict) (.map (jsonb dict)))
    {step : RemediationStepSchema} (hflat : Flat step.parameters)
    (h : stepErrors py registry target step = []) :
    stepErrors py registry target (step.reread jsonb) = [] := by
  have hperm : step.parameters.Perm (jsonb step.parameters) := hflat.perm (hjsonb _)
  have hstray : ∀ key expected text, strayParameter (step.reread jsonb) key expected text =
      strayParameter step key expected text := by
    intro key expected text
    unfold strayParameter
    rw [show (step.reread jsonb).parameters.get? key = step.parameters.get? key from
      get?_perm hflat.keys hperm key]
  unfold stepErrors at h ⊢
  rw [show (step.reread jsonb).action = step.action from rfl]
  cases haction : registry.get? step.action with
  | none =>
      rw [haction] at h
      cases h
  | some action =>
      rw [haction] at h
      simp only [actionErrors, List.append_eq_nil_iff, errorIf_nil, not_not, hstray] at h ⊢
      obtain ⟨⟨⟨haccepts, hresource⟩, hcontainer⟩, hservice⟩ := h
      refine ⟨⟨⟨?_, hresource⟩, hcontainer⟩, hservice⟩
      exact (acceptsParameters_perm hperm).trans haccepts

/-- Steps that are in order are so when they come back. -/
theorem Checked.reread (hjsonb : ∀ dict, Reordered (.map dict) (.map (jsonb dict)))
    (hflat : ∀ step ∈ steps, Flat step.parameters) (h : Checked py registry target steps) :
    Checked py registry target (steps.map (RemediationStepSchema.reread jsonb)) := by
  have hmutating : mutatingSteps registry (steps.map (RemediationStepSchema.reread jsonb)) =
      (mutatingSteps registry steps).map (RemediationStepSchema.reread jsonb) :=
    List.filter_map
  refine ⟨?_, ?_, ?_⟩
  · rw [map_position_reread]
    exact h.positions
  · intro step' hstep'
    obtain ⟨step, hstep, rfl⟩ := List.mem_map.mp hstep'
    exact stepErrors_reread hjsonb (hflat step hstep) (h.each step hstep)
  · rw [hmutating]
    rcases h.mutation with hnone | ⟨restart, hone, haction, hinspect, hbefore, hwait, hafter⟩
    · exact Or.inl (by rw [hnone, List.map_nil])
    · refine Or.inr ⟨restart.reread jsonb, by rw [hone, List.map_singleton], haction, ?_⟩
      obtain ⟨i, hi, hiaction⟩ := hinspect
      obtain ⟨w, hw, hwaction⟩ := hwait
      refine ⟨⟨_, List.mem_map_of_mem hi, hiaction⟩, ?_, ⟨_, List.mem_map_of_mem hw, hwaction⟩, ?_⟩
      · exact List.forall_mem_map.mpr hbefore
      · exact List.forall_mem_map.mpr hafter

end Checks

/-! ### The plan that comes back -/

section RoundTrip

variable {py : Libraries} {refusal : String} {sha256 : ByteArray → String}
  {jsonb : JsonDict → JsonDict} {plan : RemediationPlanSchema}

theorem ofValue?_value (risk : RiskLevel) : RiskLevel.ofValue? risk.value = some risk := by
  cases risk <;> decide

/-- What the planner has made. -/
theorem createPlan_ok {actor cause : String} {incidentId diagnosisId version : Nat}
    {target : TargetBinding}
    (h : DeterministicPlanner.createPlan py refusal sha256 actor incidentId diagnosisId cause
      target version = .ok plan) :
    plan = plannedPlan sha256 incidentId diagnosisId cause target version ∧
      (∃ planActor, plan.accepted planActor = true) ∧
      validatePlan py (defaultRegistry py) sha256 plan (some target) true = [] := by
  unfold DeterministicPlanner.createPlan at h
  simp only [] at h
  generalize (if actor = "" then "agent:deterministic_planner" else actor) = planActor at h
  by_cases haccepted :
      (plannedPlan sha256 incidentId diagnosisId cause target version).accepted planActor = true
  · rw [if_pos haccepted] at h
    cases hvalid : validatePlan py (defaultRegistry py) sha256
        (plannedPlan sha256 incidentId diagnosisId cause target version) (some target) true with
    | nil =>
        rw [hvalid] at h
        rw [← Except.ok.inj h]
        exact ⟨rfl, ⟨planActor, haccepted⟩, hvalid⟩
    | cons error rest =>
        rw [hvalid] at h
        cases h
  · rw [if_neg haccepted] at h
    cases h

theorem createPlan_eq {actor cause : String} {incidentId diagnosisId version : Nat}
    {target : TargetBinding}
    (haccepted : (plannedPlan sha256 incidentId diagnosisId cause target version).accepted
      (if actor = "" then "agent:deterministic_planner" else actor) = true)
    (hvalid : validatePlan py (defaultRegistry py) sha256
      (plannedPlan sha256 incidentId diagnosisId cause target version) (some target) true = []) :
    DeterministicPlanner.createPlan py refusal sha256 actor incidentId diagnosisId cause target
      version = .ok (plannedPlan sha256 incidentId diagnosisId cause target version) := by
  unfold DeterministicPlanner.createPlan
  rw [if_pos haccepted, hvalid]

/-- The plan as it is read back for a resource. -/
def RemediationPlanSchema.readBack (jsonb : JsonDict → JsonDict) (resourceId : Nat)
    (plan : RemediationPlanSchema) : RemediationPlanSchema :=
  { plan with
    targetBinding := { plan.targetBinding with resourceId := resourceId }
    steps := sortedSteps (plan.steps.map (RemediationStepSchema.reread jsonb)) }

/-- An actor of a transaction is one that the models accept. -/
theorem boundedText_of_validActor {actor : String} (h : validActor actor = true) :
    boundedText 1 128 actor = true := by
  unfold validActor at h
  rw [Bool.and_eq_true, List.any_eq_true, decide_eq_true_eq] at h
  obtain ⟨⟨c, hc, -⟩, hlen⟩ := h
  unfold boundedText
  rw [Bool.and_eq_true, decide_eq_true_eq, decide_eq_true_eq]
  exact ⟨List.length_pos_of_mem hc, hlen⟩

theorem readBack_accepted {planActor operator : String} (resourceId : Nat)
    (h : plan.accepted planActor = true) (hoperator : validActor operator = true) :
    (plan.readBack jsonb resourceId).accepted operator = true := by
  unfold RemediationPlanSchema.accepted at h ⊢
  simp only [Bool.and_eq_true] at h ⊢
  obtain ⟨⟨⟨⟨⟨htarget, hsteps⟩, hversion⟩, hprofile⟩, hhash⟩, -⟩ := h
  refine ⟨⟨⟨⟨⟨htarget, ?_⟩, hversion⟩, hprofile⟩, hhash⟩, boundedText_of_validActor hoperator⟩
  rw [List.all_eq_true] at hsteps ⊢
  intro step' hstep'
  obtain ⟨step, hstep, rfl⟩ := List.mem_map.mp ((sortedSteps_perm _).mem_iff.mp hstep')
  exact hsteps step hstep

theorem sortedSteps_idem {steps : List RemediationStepSchema}
    (hpos : (steps.map RemediationStepSchema.position).Nodup) :
    sortedSteps (sortedSteps steps) = sortedSteps steps :=
  (sortedSteps_congr hpos (sortedSteps_perm steps).symm).symm

/-- Read back for the resource of its target, a plan has the hash that it had. -/
theorem readBack_hash (hjsonb : ∀ dict, Reordered (.map dict) (.map (jsonb dict)))
    (hkeys : plan.DistinctKeys) (hpos : plan.DistinctPositions) :
    computePlanContentHash sha256 (plan.readBack jsonb plan.targetBinding.resourceId) =
      computePlanContentHash sha256 plan := by
  refine congrArg sha256 (Eq.symm (encoded_congr hkeys ⟨rfl, rfl, rfl, rfl, rfl, rfl⟩ ?_))
  show List.Forall₂ SameStep (sortedSteps plan.steps)
    (sortedSteps (sortedSteps (plan.steps.map (RemediationStepSchema.reread jsonb))))
  rw [sortedSteps_idem (by rw [map_position_reread]; exact hpos)]
  refine sortedSteps_same ?_
  rw [List.forall₂_map_right_iff, List.forall₂_same]
  exact fun step _ => reread_same jsonb hjsonb step

/-- An accepted plan that is read back is accepted for the resource of its target only. -/
theorem readBack_valid_iff (hjsonb : ∀ dict, Reordered (.map dict) (.map (jsonb dict)))
    (hflat : ∀ step ∈ plan.steps, Flat step.parameters) (hkeys : plan.DistinctKeys)
    (hsteps : plan.steps ≠ []) {expected : Option TargetBinding}
    (h : validatePlan py (defaultRegistry py) sha256 plan expected true = []) {resourceId : Nat} :
    validatePlan py (defaultRegistry py) sha256 (plan.readBack jsonb resourceId) none true = [] ↔
      resourceId = plan.targetBinding.resourceId := by
  obtain ⟨htarget, hchecked, hhash⟩ := validatePlan_nil.mp h
  have hperm := sortedSteps_perm (plan.steps.map (RemediationStepSchema.reread jsonb))
  constructor
  · intro hvalid
    obtain ⟨-, hback, -⟩ := validatePlan_nil.mp hvalid
    obtain ⟨step, hstep⟩ := List.exists_mem_of_ne_nil _ hsteps
    -- the step names the resource that the plan was made for
    have hmem := hperm.mem_iff.mpr (List.mem_map_of_mem hstep)
    have hbound := (bound_of_stepErrors (hback.each _ hmem)).1
    exact hbound.symm.trans (bound_of_stepErrors (hchecked.each step hstep)).1
  · rintro rfl
    refine validatePlan_nil.mpr ⟨?_, (hchecked.reread hjsonb hflat).perm hperm.symm, fun _ => ?_⟩
    · simp only [targetErrors, List.append_eq_nil_iff, errorIf_nil] at htarget ⊢
      exact ⟨trivial, htarget.2⟩
    · rw [readBack_hash hjsonb hkeys hchecked.positions]
      exact hhash rfl

/-- The console makes the plan of the rows that were stored for it. -/
theorem planSchema_stored {tables tables' : PlanTables} {uuid4 : Nat → Nat}
    {data : List (Nat × RemediationStepSchema)} {row : RemediationPlan} {resource : Resource}
    {planActor operator : String}
    (hdata : (data.map Prod.snd).Perm plan.steps) (hpos : plan.DistinctPositions)
    (haccepted : plan.accepted planActor = true)
    (hstored : tables.createRemediationPlanWithSteps jsonb uuid4 plan.incidentId plan.diagnosisId
      plan.version plan.risk plan.contentHash (some plan.targetBinding.containerId)
      (some plan.targetBinding.bindingGeneration) plan.verificationProfile
      (data.map fun e => e.2.modelDump e.1) = .ok (row, tables'))
    (hservice : resource.composeService.getD resource.name = plan.targetBinding.serviceName)
    (hoperator : validActor operator = true) :
    tables'.planSchema operator plan.incidentId row resource =
      some (plan.readBack jsonb resource.id) := by
  have hsteps : (tables'.stepsOf row.id).map StoredStep.schema =
      sortedSteps (plan.steps.map (RemediationStepSchema.reread jsonb)) := by
    rw [schema_stepsOf jsonb hstored]
    refine sortedSteps_congr ?_ (hdata.map _)
    rw [map_position_reread]
    exact (hdata.map _).nodup_iff.mpr hpos
  obtain ⟨hrow, -⟩ := stored_rows hstored
  have hback : (plan.readBack jsonb resource.id).accepted operator = true :=
    readBack_accepted resource.id haccepted hoperator
  unfold PlanTables.planSchema
  rw [hsteps, hrow]
  simp only [bind, Option.bind, ofValue?_value, hservice]
  exact if_pos hback

/-- The plan with the highest version of its incident is the newest. -/
theorem newestPlan_eq {tables : PlanTables} {row : RemediationPlan} (hmem : row ∈ tables.plans)
    (hnewest : ∀ plan ∈ tables.plans, plan.incidentId = row.incidentId →
      plan.version ≤ row.version) : tables.newestPlan row.incidentId = some row := by
  have htotal : Std.Total fun plan plan' : RemediationPlan => plan'.version ≤ plan.version :=
    ⟨fun plan plan' => le_total plan'.version plan.version⟩
  have htrans : IsTrans RemediationPlan fun plan plan' => plan'.version ≤ plan.version :=
    ⟨fun _ _ _ h h' => le_trans h' h⟩
  have hperm := List.perm_insertionSort (fun plan plan' : RemediationPlan =>
    plan'.version ≤ plan.version)
    (tables.plans.filter fun plan => plan.incidentId = row.incidentId)
  have hsorted := List.pairwise_insertionSort (fun plan plan' : RemediationPlan =>
    plan'.version ≤ plan.version)
    (tables.plans.filter fun plan => plan.incidentId = row.incidentId)
  have hrow : row ∈ tables.plans.filter fun plan => plan.incidentId = row.incidentId :=
    List.mem_filter.mpr ⟨hmem, decide_eq_true rfl⟩
  unfold PlanTables.newestPlan
  cases hlist : (tables.plans.filter fun plan => plan.incidentId = row.incidentId).insertionSort
      fun plan plan' => plan'.version ≤ plan.version with
  | nil =>
      rw [hlist] at hperm
      rw [← hperm.mem_iff] at hrow
      cases hrow
  | cons first rest =>
      rw [hlist] at hperm hsorted
      obtain ⟨hfirst, hincident⟩ := List.mem_filter.mp (hperm.mem_iff.mp List.mem_cons_self)
      have hincident := of_decide_eq_true hincident
      have hle := hnewest first hfirst hincident
      have hge : row.version ≤ first.version := by
        rcases List.mem_cons.mp (hperm.mem_iff.mpr hrow) with heq | hrest
        · rw [heq]
        · exact (List.pairwise_cons.mp hsorted).1 row hrest
      have hsame : first = row :=
        List.inj_on_of_nodup_map tables.constrained.planVersions hfirst hmem
          (Prod.ext hincident (le_antisymm hle hge))
      rw [hsame]
      rfl

/-- A dry run of the newest plan, as the operator has seen it, is one of what it is read as. -/
theorem dryRun_newest {tables : PlanTables} {row : RemediationPlan} {incident : Incident}
    {resource : Resource} {operator : String} {schema : RemediationPlanSchema}
    (hoperator : validActor operator = true)
    (hincident : tables.incidents.find? (fun incident => incident.id = row.incidentId) =
      some incident)
    (hresource : tables.resources.find? (fun resource => resource.id = incident.resourceId) =
      some resource)
    (hmem : row ∈ tables.plans)
    (hnewest : ∀ plan ∈ tables.plans, plan.incidentId = row.incidentId →
      plan.version ≤ row.version)
    (hschema : tables.planSchema operator row.incidentId row resource = some schema) :
    tables.dryRun operator row.incidentId ⟨incident.version, row.version, row.contentHash⟩ =
      .ok schema := by
  unfold PlanTables.dryRun
  simp only [hoperator, not_true_eq_false, if_false, hincident, newestPlan_eq hmem hnewest,
    Option.filter_some, decide_true, if_true, hresource, hschema]
  rfl

/-- A restart that the planner has made is in order and flat. -/
theorem createPlan_restart {actor cause : String} {incidentId diagnosisId version : Nat}
    {target : TargetBinding} (hcause : cause ∈ supportedRestartCauses)
    (h : DeterministicPlanner.createPlan py refusal sha256 actor incidentId diagnosisId cause
      target version = .ok plan) :
    plan.steps = restartPlanSteps target ∧ plan.DistinctKeys ∧ plan.DistinctPositions := by
  obtain ⟨hmade, -, hvalid⟩ := createPlan_ok h
  have hsteps : plan.steps = restartPlanSteps target := by
    rw [hmade]
    exact plannedPlan_steps hcause
  refine ⟨hsteps, ?_, (validatePlan_nil.mp hvalid).2.1.positions⟩
  intro step hstep
  rw [hsteps] at hstep
  obtain ⟨hparameters, hverification⟩ := restartPlanSteps_flat target step hstep
  exact ⟨hparameters.distinct, hverification.distinct⟩

/-- The rows of a restart that the planner has made, and what a dry run reads. -/
theorem planSchema_restart {planActor cause operator : String}
    {incidentId diagnosisId version : Nat} {target : TargetBinding}
    {data : List (Nat × RemediationStepSchema)} {tables tables' : PlanTables} {uuid4 : Nat → Nat}
    {row : RemediationPlan} {incident : Incident} {resource : Resource}
    (hcause : cause ∈ supportedRestartCauses)
    (hplan : DeterministicPlanner.createPlan py refusal sha256 planActor incidentId diagnosisId
      cause target version = .ok plan)
    (hdata : (data.map Prod.snd).Perm plan.steps)
    (hstored : tables.createRemediationPlanWithSteps jsonb uuid4 incidentId diagnosisId
      plan.version plan.risk plan.contentHash (some target.containerId)
      (some target.bindingGeneration) plan.verificationProfile
      (data.map fun e => e.2.modelDump e.1) = .ok (row, tables'))
    (hincident : tables'.incidents.find? (fun incident => incident.id = incidentId) =
      some incident)
    (hresource : tables'.resources.find? (fun resource => resource.id = incident.resourceId) =
      some resource)
    (hservice : resource.composeService.getD resource.name = target.serviceName)
    (hoperator : validActor operator = true) :
    tables'.planSchema operator incidentId row resource =
        some (plan.readBack jsonb incident.resourceId) ∧
      ((∀ other ∈ tables'.plans, other.incidentId = incidentId → other.version ≤ version) →
        tables'.dryRun operator incidentId ⟨incident.version, version, plan.contentHash⟩ =
          .ok (plan.readBack jsonb incident.resourceId)) := by
  obtain ⟨hmade, ⟨actor, haccepted⟩, -⟩ := createPlan_ok hplan
  obtain ⟨-, -, hpositions⟩ := createPlan_restart hcause hplan
  obtain ⟨hrow, hrows⟩ := stored_rows hstored
  have hid : resource.id = incident.resourceId := by simpa using List.find?_some hresource
  have hschema : tables'.planSchema operator incidentId row resource =
      some (plan.readBack jsonb incident.resourceId) := by
    rw [hmade] at hdata hpositions haccepted hstored ⊢
    rw [← hid]
    exact planSchema_stored hdata hpositions haccepted hstored hservice hoperator
  refine ⟨hschema, fun hnewest => ?_⟩
  have hmem : row ∈ tables'.plans := by
    rw [hrows]
    exact List.mem_append_right _ (List.mem_singleton.mpr rfl)
  have hversion : row.version = version := by rw [hrow, hmade]; rfl
  have howner : row.incidentId = incidentId := by rw [hrow]
  have hcontent : row.contentHash = plan.contentHash := by rw [hrow]
  rw [← howner] at hincident hnewest hschema ⊢
  rw [← hversion] at hnewest ⊢
  rw [← hcontent]
  exact dryRun_newest hoperator hincident hresource hmem hnewest hschema

/-- **A stored plan comes back as it was made, for the resource of the incident.**  A restart that
the planner has made, stored with its steps in any order, is read back by the console; the
validator accepts it exactly when the target's resource is the incident's, and it then has the hash
that it was stored with. -/
theorem stored_plan_valid_iff (py : Libraries) (refusal : String) (sha256 : ByteArray → String)
    (jsonb : JsonDict → JsonDict) (hjsonb : ∀ dict, Reordered (.map dict) (.map (jsonb dict)))
    (planActor : String) (incidentId diagnosisId : Nat) (cause : String) (target : TargetBinding)
    (version : Nat) (hcause : cause ∈ supportedRestartCauses) (plan : RemediationPlanSchema)
    (hplan : DeterministicPlanner.createPlan py refusal sha256 planActor incidentId diagnosisId
      cause target version = .ok plan)
    (data : List (Nat × RemediationStepSchema)) (hdata : (data.map Prod.snd).Perm plan.steps)
    (tables tables' : PlanTables) (uuid4 : Nat → Nat) (row : RemediationPlan)
    (hstored : tables.createRemediationPlanWithSteps jsonb uuid4 incidentId diagnosisId
      plan.version plan.risk plan.contentHash (some target.containerId)
      (some target.bindingGeneration) plan.verificationProfile
      (data.map fun e => e.2.modelDump e.1) = .ok (row, tables'))
    (incident : Incident)
    (hincident : tables'.incidents.find? (fun incident => incident.id = incidentId) =
      some incident)
    (resource : Resource)
    (hresource : tables'.resources.find? (fun resource => resource.id = incident.resourceId) =
      some resource)
    (hservice : resource.composeService.getD resource.name = target.serviceName)
    (operator : String) (hoperator : validActor operator = true) :
    ∃ rebuilt, tables'.planSchema operator incidentId row resource = some rebuilt ∧
      ((∀ other ∈ tables'.plans, other.incidentId = incidentId → other.version ≤ version) →
        tables'.dryRun operator incidentId ⟨incident.version, version, plan.contentHash⟩ =
          .ok rebuilt) ∧
      (validatePlan py (defaultRegistry py) sha256 rebuilt none true = [] ↔
        target.resourceId = incident.resourceId) ∧
      (target.resourceId = incident.resourceId →
        computePlanContentHash sha256 rebuilt = plan.contentHash ∧
          rebuilt.contentHash = plan.contentHash) := by
  obtain ⟨hmade, -, hvalid⟩ := createPlan_ok hplan
  obtain ⟨hsteps, hkeys, hpositions⟩ := createPlan_restart hcause hplan
  obtain ⟨hschema, hdry⟩ := planSchema_restart hcause hplan hdata hstored hincident hresource
    hservice hoperator
  have htarget : plan.targetBinding = target := by rw [hmade]; rfl
  have hflat : ∀ step ∈ plan.steps, Flat step.parameters := by
    rw [hsteps]
    exact fun step hstep => (restartPlanSteps_flat target step hstep).1
  refine ⟨_, hschema, hdry, ?_, ?_⟩
  · have hne : plan.steps ≠ [] := by
      rw [hsteps]
      exact List.cons_ne_nil _ _
    rw [readBack_valid_iff hjsonb hflat hkeys hne hvalid, htarget]
    exact eq_comm
  · intro hsame
    rw [← hsame, ← htarget]
    exact ⟨(readBack_hash hjsonb hkeys hpositions).trans ((validatePlan_nil.mp hvalid).2.2 rfl),
      rfl⟩

end RoundTrip

/-! ### A plan for another resource -/

/-- Two containers of one service, and an incident of the one with the identifier. -/
def incidentTables (resourceId : Nat) : PlanTables where
  resources :=
    [⟨3, "demo-api", "local", none, none, none, some "demo-api"⟩,
     ⟨4, "demo-api-2", "local", none, none, none, some "demo-api"⟩]
  incidents :=
    [{ id := 1, resourceId := resourceId, correlationKey := "demo-api", updatedAt := 0 }]
  diagnoses := [⟨2, 1, "CPU_SATURATION", 9 / 10, none⟩]
  constrained := by
    constructor <;> simp

/-- The steps of the planned restart, the last one first. -/
def restartPlanData : List (Nat × RemediationStepSchema) :=
  ([20, 21, 22].zip restartPlan.steps).reverse

theorem restartPlan_created :
    DeterministicPlanner.createPlan asciiLibraries "refused"
      (fun _ => "943cb14dc47e5bea49b1547ac303ef1ec9dc2e76a71b86ca4eb818fc0112a0e1") "" 1 2
      "CPU_SATURATION" ⟨3, "0123456789ab", "demo-api", 1⟩ 1 = .ok restartPlan :=
  createPlan_eq (by decide +kernel) restartPlan_accepted

/-- The planned restart can be stored for either incident. -/
theorem restartPlan_stored {resourceId : Nat} (h : resourceId = 3 ∨ resourceId = 4) :
    ∃ row tables', (incidentTables resourceId).createRemediationPlanWithSteps id (fun k => 10 + k)
        1 2 restartPlan.version restartPlan.risk restartPlan.contentHash (some "0123456789ab")
        (some 1) restartPlan.verificationProfile
        (restartPlanData.map fun e => e.2.modelDump e.1) = .ok (row, tables') ∧
      tables'.incidents = (incidentTables resourceId).incidents ∧
      tables'.resources = (incidentTables resourceId).resources ∧
      ∀ other ∈ tables'.plans, other.incidentId = 1 → other.version ≤ 1 := by
  cases hresult : (incidentTables resourceId).createRemediationPlanWithSteps id (fun k => 10 + k)
      1 2 restartPlan.version restartPlan.risk restartPlan.contentHash (some "0123456789ab")
      (some 1) restartPlan.verificationProfile
      (restartPlanData.map fun e => e.2.modelDump e.1) with
  | error e =>
      have hok : ((incidentTables resourceId).createRemediationPlanWithSteps id (fun k => 10 + k)
          1 2 restartPlan.version restartPlan.risk restartPlan.contentHash (some "0123456789ab")
          (some 1) restartPlan.verificationProfile
          (restartPlanData.map fun e => e.2.modelDump e.1)).toBool = true := by
        rcases h with rfl | rfl <;> decide +kernel
      rw [hresult] at hok
      cases hok
  | ok result =>
      obtain ⟨row, tables'⟩ := result
      obtain ⟨hrow, hrows⟩ := stored_rows hresult
      refine ⟨row, tables', rfl, by rw [hrows], by rw [hrows], ?_⟩
      rw [hrows]
      intro other hother _
      rw [List.mem_singleton.mp hother, hrow]
      exact Nat.le_refl 1

theorem restartPlanData_perm : (restartPlanData.map Prod.snd).Perm restartPlan.steps := by
  unfold restartPlanData
  rw [List.map_reverse, List.map_snd_zip (by decide)]
  exact List.reverse_perm _

/-- A restart of the incident's own container, stored last step first. -/
theorem stored_plan_valid_iff_restart :
    ∃ (tables' : PlanTables) (rebuilt : RemediationPlanSchema),
      tables'.dryRun "user:operator" 1 ⟨1, 1, restartPlan.contentHash⟩ = .ok rebuilt ∧
      validatePlan asciiLibraries (defaultRegistry asciiLibraries)
        (fun _ => "943cb14dc47e5bea49b1547ac303ef1ec9dc2e76a71b86ca4eb818fc0112a0e1") rebuilt none
        true = [] := by
  obtain ⟨row, tables', hstored, hincidents, hresources, hnewest⟩ :=
    restartPlan_stored (Or.inl rfl)
  obtain ⟨rebuilt, -, hdry, hvalid, -⟩ :=
    stored_plan_valid_iff asciiLibraries "refused" _ id (fun _ => .refl _) "" 1 2 "CPU_SATURATION"
      ⟨3, "0123456789ab", "demo-api", 1⟩ 1 (by decide) restartPlan restartPlan_created
      restartPlanData restartPlanData_perm (incidentTables 3) tables' _ row hstored
      { id := 1, resourceId := 3, correlationKey := "demo-api", updatedAt := 0 }
      (by rw [hincidents]; rfl) ⟨3, "demo-api", "local", none, none, none, some "demo-api"⟩
      (by rw [hresources]; rfl) rfl "user:operator" (by decide +kernel)
  exact ⟨tables', rebuilt, hdry hnewest, hvalid.mpr rfl⟩

/-- A restart of the other container, which the planner accepts for the incident and which is
stored as well: read back, it is refused. -/
theorem other_container_refused :
    ∃ (tables' : PlanTables) (row : RemediationPlan) (rebuilt : RemediationPlanSchema),
      DeterministicPlanner.createPlan asciiLibraries "refused"
        (fun _ => "943cb14dc47e5bea49b1547ac303ef1ec9dc2e76a71b86ca4eb818fc0112a0e1") "" 1 2
        "CPU_SATURATION" ⟨3, "0123456789ab", "demo-api", 1⟩ 1 = .ok restartPlan ∧
      (incidentTables 4).createRemediationPlanWithSteps id (fun k => 10 + k) 1 2
        restartPlan.version restartPlan.risk restartPlan.contentHash (some "0123456789ab") (some 1)
        restartPlan.verificationProfile (restartPlanData.map fun e => e.2.modelDump e.1) =
          .ok (row, tables') ∧
      (∀ resource ∈ tables'.resources, resource.composeService.getD resource.name = "demo-api") ∧
      tables'.dryRun "user:operator" 1 ⟨1, 1, restartPlan.contentHash⟩ = .ok rebuilt ∧
      validatePlan asciiLibraries (defaultRegistry asciiLibraries)
        (fun _ => "943cb14dc47e5bea49b1547ac303ef1ec9dc2e76a71b86ca4eb818fc0112a0e1") rebuilt none
        true ≠ [] := by
  obtain ⟨row, tables', hstored, hincidents, hresources, hnewest⟩ :=
    restartPlan_stored (Or.inr rfl)
  obtain ⟨hsteps, hkeys, -⟩ := createPlan_restart (by decide) restartPlan_created
  have hflat : ∀ step ∈ restartPlan.steps, Flat step.parameters := by
    rw [hsteps]
    exact fun step hstep => (restartPlanSteps_flat _ step hstep).1
  obtain ⟨-, hdry⟩ := planSchema_restart (by decide) restartPlan_created restartPlanData_perm
    hstored
    (show tables'.incidents.find? (fun incident => incident.id = 1) =
      some { id := 1, resourceId := 4, correlationKey := "demo-api", updatedAt := 0 } by
        rw [hincidents]; rfl)
    (show tables'.resources.find? (fun resource => resource.id = 4) =
      some ⟨4, "demo-api-2", "local", none, none, none, some "demo-api"⟩ by rw [hresources]; rfl)
    rfl (show validActor "user:operator" = true by decide +kernel)
  refine ⟨tables', row, _, restartPlan_created, hstored, ?_, hdry hnewest, fun hvalid => ?_⟩
  · rw [hresources]
    decide
  · have hsame := (readBack_valid_iff (fun _ => .refl _) hflat hkeys (by decide)
      restartPlan_accepted).mp hvalid
    exact absurd hsame (by decide)

end SelfHealing
