/-
What an accepted plan is bound to.

The validator compares a step's own resource with the target, and the container and the service
among its parameters.  It does not compare the resource and the generation among them, and so an
accepted plan is bound to its target if and only if these are (`validatePlan_bound_iff`).

The binding is there for the intent that the execution node builds from the restart.  The intent
has its container and its service from the step, where the validator has seen to them: the
container has to be given, and a service that is not given is the only one that is remediated.
Its resource it has from the state of the workflow alone, and its generation from the state
where the step does not give one.  None of this is compared with the target before the intent is
built, so that the state is part of the condition.

The generation is read twice, by pydantic when the plan is validated and by `int` when the intent
is built, and each reading has to give that of the target.
-/
import SelfHealing.ExecutedSteps
import SelfHealing.Proofs.PlanValidation

namespace SelfHealing

open Canonical

variable {py : Libraries} {target : TargetBinding} {state : IncidentGraphState}

/-! ### Steps and their target -/

/-- Every identity that the step carries is that of the target. -/
structure StepBound (py : Libraries) (target : TargetBinding) (step : RemediationStepSchema) :
    Prop where
  resource : step.resourceId = target.resourceId
  resourceId : ∀ value, step.parameters.get? "resource_id" = some value →
    py.uuid value = some target.resourceId
  containerId : ∀ value, step.parameters.get? "container_id" = some value →
    value = jsonStr target.containerId
  serviceName : ∀ value, step.parameters.get? "service_name" = some value →
    value = jsonStr target.serviceName
  bindingGeneration : ∀ value, step.parameters.get? "binding_generation" = some value →
    py.int value = some target.bindingGeneration

/-- The intent is for the target. -/
structure IntentBound (target : TargetBinding) (intent : ExecutionIntent) : Prop where
  resourceId : intent.resourceId = target.resourceId
  containerId : intent.containerId = target.containerId
  serviceName : intent.serviceName = target.serviceName
  bindingGeneration : intent.bindingGeneration = target.bindingGeneration

/-- The steps of the plan are bound to its target, and so is the intent that is built from its
restart, in this state and for the row that the plan is stored in. -/
structure PlanBound (py : Libraries) (plan : RemediationPlanSchema) (state : IncidentGraphState) :
    Prop where
  steps : ∀ step ∈ plan.steps, StepBound py plan.targetBinding step
  intent : ∀ step ∈ plan.steps, step.action = "restart_container" →
    ∀ (stored : RemediationPlan) (id : Nat) (row : RemediationStep),
      step.executed stored.id id = some row →
        IntentBound plan.targetBinding (state.intent stored row)

/-! ### What is not compared -/

/-- The resource and the generation among the parameters, if given, read as those of the
target. -/
def ReadsTarget (py : Libraries) (target : TargetBinding) (step : RemediationStepSchema) : Prop :=
  (∀ value, step.parameters.get? "resource_id" = some value →
    py.uuid value = some target.resourceId) ∧
  ∀ value, step.parameters.get? "binding_generation" = some value →
    py.int value = some target.bindingGeneration

/-- The execution node can read the step. -/
def RemediationStepSchema.Readable (step : RemediationStepSchema) : Prop :=
  (step.executed 0 0).isSome = true

/-- The state is at work on the resource of the target, and the generation is that of the target
as `int` reads it, or in the state if the step does not give one. -/
def StateFits (target : TargetBinding) (state : IncidentGraphState)
    (step : RemediationStepSchema) : Prop :=
  state.resourceId = target.resourceId ∧
  (∀ value, step.parameters.get? "binding_generation" = some value →
    jsonToInt value = some target.bindingGeneration) ∧
  (step.parameters.get? "binding_generation" = none →
    state.bindingGeneration.getD 1 = target.bindingGeneration)

/-! ### The intent

An intent is built for a step whose parameters can be read.  What it takes from the step has been
compared by the validator, the generation excepted; what it takes from the state has not.  So it is
bound to the target exactly if the state fits and the generation is read as that of the target.
-/

/-- What has been read of a step: every parameter that is given could be read. -/
theorem executed_eq_some_iff {step : RemediationStepSchema} {planId id : Nat}
    {row : RemediationStep} : step.executed planId id = some row ↔
      ∃ containerId bindingGeneration serviceName timeoutSeconds,
        readParameter jsonText? step.parameters "container_id" = some containerId ∧
        readParameter jsonToInt step.parameters "binding_generation" = some bindingGeneration ∧
        readParameter jsonText? step.parameters "service_name" = some serviceName ∧
        readParameter jsonToInt step.parameters "timeout_seconds" = some timeoutSeconds ∧
        row = ⟨id, planId, step.resourceId, step.position, step.action, containerId,
          bindingGeneration, serviceName, timeoutSeconds⟩ := by
  unfold RemediationStepSchema.executed
  simp only [Option.bind_eq_bind, Option.bind_eq_some_iff, Option.some.injEq, exists_and_left,
    @eq_comm _ _ row]

/-- Whether a step can be read does not depend on its identifiers. -/
theorem readable_iff {step : RemediationStepSchema} (planId id : Nat) :
    step.Readable ↔ ∃ row, step.executed planId id = some row := by
  unfold RemediationStepSchema.Readable
  rw [Option.isSome_iff_exists]
  simp only [executed_eq_some_iff]
  constructor
  · rintro ⟨row, c, g, s, t, hc, hg, hs, ht, -⟩
    exact ⟨_, c, g, s, t, hc, hg, hs, ht, rfl⟩
  · rintro ⟨row, c, g, s, t, hc, hg, hs, ht, -⟩
    exact ⟨_, c, g, s, t, hc, hg, hs, ht, rfl⟩

theorem readParameter_eq_some {A : Type} {read : JsonValue → Option A} {parameters : JsonDict}
    {key : String} {found : Option A} (h : readParameter read parameters key = some found) :
    (parameters.get? key = none ∧ found = none) ∨
      ∃ value a, parameters.get? key = some value ∧ read value = some a ∧ found = some a := by
  unfold readParameter at h
  cases hvalue : parameters.get? key with
  | none =>
      rw [hvalue] at h
      exact Or.inl ⟨rfl, (Option.some.inj h).symm⟩
  | some value =>
      rw [hvalue] at h
      obtain ⟨a, ha, rfl⟩ := Option.map_eq_some_iff.mp h
      exact Or.inr ⟨value, a, rfl, ha, rfl⟩

/-- An accepted restart gives its container. -/
theorem container_given {step : RemediationStepSchema}
    (h : stepErrors py (defaultRegistry py) target step = [])
    (haction : step.action = "restart_container") :
    ∃ value, step.parameters.get? "container_id" = some value := by
  unfold stepErrors at h
  rw [haction] at h
  simp only [defaultRegistry, ActionRegistry.get?, List.find?, String.reduceEq, decide_false,
    decide_true, actionErrors, List.append_eq_nil_iff, errorIf_nil, not_not] at h
  have haccepts := h.1.1.1
  simp only [acceptsParameters, restartContainerParams, containerIdField, Bool.and_eq_true,
    List.all_cons, Bool.not_true, Bool.false_or, List.any_eq_true, decide_eq_true_eq] at haccepts
  obtain ⟨⟨key, value⟩, hmem, rfl⟩ := haccepts.2.1
  exact Option.isSome_iff_exists.mp (List.lookup_isSome_iff.mpr ⟨_, hmem, by simp⟩)

/-- **The intent of an accepted restart is for the target exactly if the state fits.** -/
theorem intent_bound_iff {step : RemediationStepSchema} {stored : RemediationPlan} {id : Nat}
    {row : RemediationStep} (hservice : target.serviceName = "demo-api")
    (h : stepErrors py (defaultRegistry py) target step = [])
    (haction : step.action = "restart_container")
    (hrow : step.executed stored.id id = some row) :
    IntentBound target (state.intent stored row) ↔ StateFits target state step := by
  obtain ⟨-, hcontainer, hname⟩ := bound_of_stepErrors h
  obtain ⟨c, g, s, t, hc, hg, hs, -, rfl⟩ := executed_eq_some_iff.mp hrow
  have hc : c = some target.containerId := by
    obtain ⟨value, hvalue⟩ := container_given h haction
    rcases readParameter_eq_some hc with ⟨hnone, -⟩ | ⟨value', a, hvalue', hread, rfl⟩
    · rw [hvalue] at hnone
      cases hnone
    · rw [hcontainer value' hvalue'] at hread
      exact hread.symm
  have hs : s.getD "demo-api" = target.serviceName := by
    rcases readParameter_eq_some hs with ⟨-, rfl⟩ | ⟨value, a, hvalue, hread, rfl⟩
    · exact hservice.symm
    · rw [hname value hvalue] at hread
      exact (Option.some.inj hread).symm
  unfold StateFits
  rcases readParameter_eq_some hg with ⟨hnone, rfl⟩ | ⟨value, n, hvalue, hread, rfl⟩
  · constructor
    · intro hbound
      refine ⟨hbound.resourceId, fun value hvalue => ?_, fun _ => hbound.bindingGeneration⟩
      rw [hnone] at hvalue
      cases hvalue
    · rintro ⟨hresource, -, hstate⟩
      exact ⟨hresource, by rw [hc]; rfl, hs, hstate hnone⟩
  · constructor
    · intro hbound
      refine ⟨hbound.resourceId, fun value' hvalue' => ?_, fun hnone => ?_⟩
      · rw [← Option.some.inj (hvalue.symm.trans hvalue'), hread]
        exact congrArg some hbound.bindingGeneration
      · rw [hnone] at hvalue
        cases hvalue
    · rintro ⟨hresource, hgeneration, -⟩
      have hn : n = target.bindingGeneration :=
        Option.some.inj (hread.symm.trans (hgeneration value hvalue))
      exact ⟨hresource, by rw [hc]; rfl, hs, hn⟩

/-! ### The plan -/

/-- **An accepted plan is bound to its target, and the intent of its restart with it, exactly when
the resource and the generation among its parameters are and the state fits**: everything else
that it carries has been compared. -/
theorem validatePlan_bound_iff (py : Libraries) (sha256 : ByteArray → String)
    (plan : RemediationPlanSchema) (expected : Option TargetBinding)
    (state : IncidentGraphState)
    (h : validatePlan py (defaultRegistry py) sha256 plan expected true = []) :
    PlanBound py plan state ↔
      (∀ step ∈ plan.steps, ReadsTarget py plan.targetBinding step) ∧
      ∀ step ∈ plan.steps, step.action = "restart_container" → step.Readable →
        StateFits plan.targetBinding state step := by
  obtain ⟨htarget, hchecked, -⟩ := validatePlan_nil.mp h
  have hservice : plan.targetBinding.serviceName = "demo-api" := by
    unfold targetErrors at htarget
    exact not_not.mp (errorIf_nil.mp (List.append_eq_nil_iff.mp htarget).2)
  constructor
  · intro hbound
    refine ⟨fun step hstep => ⟨(hbound.steps step hstep).resourceId,
      (hbound.steps step hstep).bindingGeneration⟩, fun step hstep haction hreadable => ?_⟩
    let stored : RemediationPlan := ⟨0, 0, 0, 1, "LOW", false, "", none, none, none⟩
    obtain ⟨row, hrow⟩ := (readable_iff stored.id 0).mp hreadable
    exact (intent_bound_iff hservice (hchecked.each step hstep) haction hrow).mp
      (hbound.intent step hstep haction stored 0 row hrow)
  · rintro ⟨hreads, hfits⟩
    refine ⟨fun step hstep => ?_, fun step hstep haction stored id row hrow => ?_⟩
    · obtain ⟨hresource, hcontainer, hname⟩ := bound_of_stepErrors (hchecked.each step hstep)
      obtain ⟨hid, hgeneration⟩ := hreads step hstep
      exact ⟨hresource, hid, hcontainer, hname, hgeneration⟩
    · exact (intent_bound_iff hservice (hchecked.each step hstep) haction hrow).mpr
        (hfits step hstep haction ((readable_iff stored.id id).mpr ⟨row, hrow⟩))

/-- The row of the planned restart. -/
def restartPlanRow : RemediationPlan :=
  ⟨5, 1, 2, 1, "LOW", false, restartPlan.contentHash, some "0123456789ab", some 1,
    some "m1_default_restart_profile"⟩

/-- A workflow on the resource of the planned restart. -/
def restartPlanState : IncidentGraphState := { incidentId := 1, resourceId := 3 }

/-- The planned restart is bound, and its intent is for the container that it was planned for. -/
theorem restartPlan_bound :
    PlanBound asciiLibraries restartPlan restartPlanState ∧
      ∃ step ∈ restartPlan.steps, ∃ row, step.executed 5 7 = some row ∧
        (restartPlanState.intent restartPlanRow row).resourceId = 3 ∧
        (restartPlanState.intent restartPlanRow row).containerId = "0123456789ab" ∧
        (restartPlanState.intent restartPlanRow row).bindingGeneration = 1 := by
  refine ⟨(validatePlan_bound_iff asciiLibraries _ restartPlan _ restartPlanState
    restartPlan_accepted).mpr ⟨?_, ?_⟩, ?_⟩
  · have hreads : ∀ step ∈ restartPlan.steps,
        (∀ value ∈ step.parameters.get? "resource_id",
          asciiLibraries.uuid value = some restartPlan.targetBinding.resourceId) ∧
        ∀ value ∈ step.parameters.get? "binding_generation",
          asciiLibraries.int value = some restartPlan.targetBinding.bindingGeneration := by
      decide +kernel
    exact hreads
  · have hfits : ∀ step ∈ restartPlan.steps, step.action = "restart_container" →
        restartPlanState.resourceId = restartPlan.targetBinding.resourceId ∧
        (∀ value ∈ step.parameters.get? "binding_generation",
          jsonToInt value = some restartPlan.targetBinding.bindingGeneration) ∧
        (step.parameters.get? "binding_generation" = none →
          restartPlanState.bindingGeneration.getD 1 =
            restartPlan.targetBinding.bindingGeneration) := by
      decide +kernel
    exact fun step hstep haction _ => hfits step hstep haction
  · exact ⟨_, List.mem_cons_of_mem _ List.mem_cons_self, _, rfl, rfl, rfl, rfl⟩

/-- A restart with the resource and the generation of another in its parameters, and the digest of
all of it. -/
def forgedPlan : RemediationPlanSchema :=
  let target : TargetBinding := ⟨3, "0123456789ab", "demo-api", 1⟩
  let forged : JsonDict :=
    [("container_id", jsonStr target.containerId), ("resource_id", jsonStr (uuidText 4)),
     ("service_name", jsonStr target.serviceName), ("timeout_seconds", jsonInt 30),
     ("binding_generation", jsonInt 2)]
  { incidentId := 1
    diagnosisId := 2
    targetBinding := target
    steps := (restartPlanSteps target).map fun step =>
      if step.action = "restart_container" then { step with parameters := forged } else step
    contentHash := "b4ce4ab6a97225c018468ec2ecbfbd581a1bffa569aeede0dc7cf6c154944538" }

/-- The forged plan is accepted; its restart names another resource and generation, and the intent
that is built from it has that generation. -/
theorem forgedPlan_accepted :
    validatePlan asciiLibraries (defaultRegistry asciiLibraries)
        (fun _ => "b4ce4ab6a97225c018468ec2ecbfbd581a1bffa569aeede0dc7cf6c154944538")
        forgedPlan (some forgedPlan.targetBinding) true = [] ∧
      ∃ step ∈ forgedPlan.steps, step.action = "restart_container" ∧
        (step.parameters.get? "resource_id").bind asciiLibraries.uuid = some 4 ∧
        (step.parameters.get? "binding_generation").bind asciiLibraries.int = some 2 ∧
        ¬ StepBound asciiLibraries forgedPlan.targetBinding step ∧
        ∃ row, step.executed 5 7 = some row ∧
          (restartPlanState.intent restartPlanRow row).bindingGeneration = 2 := by
  refine ⟨by decide +kernel, ?_⟩
  refine ⟨_, List.mem_cons_of_mem _ List.mem_cons_self, rfl, ?_, rfl, ?_, _, rfl, rfl⟩
  · decide +kernel
  · intro hbound
    have hgeneration := hbound.bindingGeneration (jsonInt 2) rfl
    have hread : asciiLibraries.int (jsonInt 2) = some 2 := rfl
    rw [hread] at hgeneration
    exact absurd (Option.some.inj hgeneration) (by decide)

/-- **The steps that the workflow keeps of a restart are what the node reads of the planned
ones.** -/
theorem restartSteps_executed (target : TargetBinding) (inspectId restartId waitId planId : Nat) :
    ((restartPlanSteps target).zip [inspectId, restartId, waitId]).map
        (fun entry => entry.1.executed planId entry.2) =
      (target.restartSteps inspectId restartId waitId planId).map some := rfl

end SelfHealing
