/-
Plans as the database keeps them, and as the console reads them back.

A plan is stored as one row, and a row for each of its steps.  Of its target the row keeps the
container and the generation only: the console takes the resource from the incident, and the
service from that resource.  What the columns of type JSONB give back of a dictionary is given.

The rows satisfy the constraints of their tables, which are part of the type: a statement that
would break one is refused.
-/
import SelfHealing.Plans

namespace SelfHealing

/-! ### Rows -/

/-- A row of `remediation_steps`, with all its columns. -/
structure StoredStep where
  id : Nat
  planId : Nat
  resourceId : Nat
  position : Nat
  action : String
  actionSchemaVersion : String
  parameters : JsonDict
  verification : JsonDict

/-- The tables that a plan is stored in, and those that it refers to. -/
structure PlanRows where
  resources : List Resource := []
  incidents : List Incident := []
  diagnoses : List Diagnosis := []
  plans : List RemediationPlan := []
  steps : List StoredStep := []

namespace PlanRows

/-- The keys, the unique indexes, the references and the checks of the tables. -/
structure Constrained (rows : PlanRows) : Prop where
  planIds : (rows.plans.map RemediationPlan.id).Nodup
  planVersions : (rows.plans.map fun plan => (plan.incidentId, plan.version)).Nodup
  versions : ∀ plan ∈ rows.plans, 1 ≤ plan.version
  planned : ∀ plan ∈ rows.plans, plan.incidentId ∈ rows.incidents.map Incident.id ∧
    plan.diagnosisId ∈ rows.diagnoses.map Diagnosis.id
  stepIds : (rows.steps.map StoredStep.id).Nodup
  stepPositions : (rows.steps.map fun step => (step.planId, step.position)).Nodup
  owned : ∀ step ∈ rows.steps, step.planId ∈ rows.plans.map RemediationPlan.id ∧
    step.resourceId ∈ rows.resources.map Resource.id

instance (rows : PlanRows) : Decidable rows.Constrained :=
  decidable_of_iff
    ((rows.plans.map RemediationPlan.id).Nodup ∧
      (rows.plans.map fun plan => (plan.incidentId, plan.version)).Nodup ∧
      (∀ plan ∈ rows.plans, 1 ≤ plan.version) ∧
      (∀ plan ∈ rows.plans, plan.incidentId ∈ rows.incidents.map Incident.id ∧
        plan.diagnosisId ∈ rows.diagnoses.map Diagnosis.id) ∧
      (rows.steps.map StoredStep.id).Nodup ∧
      (rows.steps.map fun step => (step.planId, step.position)).Nodup ∧
      ∀ step ∈ rows.steps, step.planId ∈ rows.plans.map RemediationPlan.id ∧
        step.resourceId ∈ rows.resources.map Resource.id)
    ⟨fun ⟨h₁, h₂, h₃, h₄, h₅, h₆, h₇⟩ => ⟨h₁, h₂, h₃, h₄, h₅, h₆, h₇⟩,
      fun ⟨h₁, h₂, h₃, h₄, h₅, h₆, h₇⟩ => ⟨h₁, h₂, h₃, h₄, h₅, h₆, h₇⟩⟩

end PlanRows

/-- The tables, with their constraints. -/
structure PlanTables extends PlanRows where
  constrained : toPlanRows.Constrained

/-- A number that fits into an integer column. -/
def fitsInteger (n : Int) : Bool := decide (-2147483648 ≤ n) && decide (n ≤ 2147483647)

/-- The row fits into its columns. -/
def RemediationPlan.fits (plan : RemediationPlan) : Bool :=
  fitsInteger plan.version && boundedText 0 64 plan.contentHash &&
    plan.containerId.all (boundedText 0 128) && plan.bindingGeneration.all fitsInteger &&
    plan.verificationProfile.all (boundedText 0 64)

def StoredStep.fits (step : StoredStep) : Bool :=
  fitsInteger step.position && boundedText 0 128 step.action &&
    boundedText 0 16 step.actionSchemaVersion

/-! ### Storing a plan -/

/-- What is given of a step that is to be stored; what is missing has a default. -/
structure StepData where
  id : Option Nat := none
  resourceId : Nat
  position : Nat
  action : String
  actionSchemaVersion : Option String := none
  parameters : Option JsonDict := none
  verification : Option JsonDict := none

/-- `model_dump`, of the step with the identifier. -/
def RemediationStepSchema.modelDump (id : Nat) (step : RemediationStepSchema) : StepData :=
  { id := some id
    resourceId := step.resourceId
    position := step.position
    action := step.action
    actionSchemaVersion := some step.actionSchemaVersion
    parameters := some step.parameters
    verification := some step.verification }

section Storing

variable (jsonb : JsonDict → JsonDict)

/-- The row of a step; `drawn` is the identifier that is drawn for it. -/
def StepData.row (planId drawn : Nat) (data : StepData) : StoredStep :=
  { id := data.id.getD drawn
    planId := planId
    resourceId := data.resourceId
    position := data.position
    action := data.action
    actionSchemaVersion := data.actionSchemaVersion.getD "1.0"
    parameters := jsonb (data.parameters.getD [])
    verification := jsonb (data.verification.getD []) }

namespace PlanTables

variable (tables : PlanTables)

/-- The tables with the plan and the steps added, if the columns and the constraints allow it. -/
def flush (plans : List RemediationPlan) (steps : List StoredStep) : Except Err PlanTables :=
  let rows : PlanRows :=
    { tables.toPlanRows with plans := tables.plans ++ plans, steps := tables.steps ++ steps }
  if plans.all RemediationPlan.fits && steps.all StoredStep.fits then
    if h : rows.Constrained then .ok ⟨rows, h⟩ else .error integrityError
  else .error databaseError

/-- `create_remediation_plan_with_steps`, where the identifiers that are drawn are given. -/
def createRemediationPlanWithSteps (uuid4 : Nat → Nat) (incidentId diagnosisId : Nat)
    (version : Nat := 1) (risk : RiskLevel := .low) (contentHash : String)
    (containerId : Option String := none) (bindingGeneration : Option Int := none)
    (verificationProfile : Option String := some "m1_default_restart_profile")
    (stepsData : List StepData) : Except Err (RemediationPlan × PlanTables) := do
  let diag := tables.diagnoses.find? fun diag => diag.id = diagnosisId
  if diag.any fun diag => diag.incidentId = incidentId then
    let plan : RemediationPlan :=
      { id := uuid4 0
        incidentId := incidentId
        diagnosisId := diagnosisId
        version := version
        risk := risk.value
        approved := false
        contentHash := contentHash
        containerId := containerId
        bindingGeneration := bindingGeneration
        verificationProfile := verificationProfile }
    let planned ← tables.flush [plan] []
    let stored ← planned.flush [] (stepsData.mapIdx fun k data =>
      data.row jsonb plan.id (uuid4 (k + 1)))
    return (plan, stored)
  else throw ⟨.valueError, "Diagnosis does not belong to this incident"⟩

end PlanTables

end Storing

/-! ### Reading a plan back -/

/-- The risk with the value. -/
def RiskLevel.ofValue? (value : String) : Option RiskLevel :=
  [RiskLevel.low, .medium, .high, .critical].find? fun risk => risk.value = value

/-- The step that a row is read as. -/
def StoredStep.schema (step : StoredStep) : RemediationStepSchema :=
  { resourceId := step.resourceId
    position := step.position
    action := step.action
    actionSchemaVersion := step.actionSchemaVersion
    parameters := step.parameters
    verification := step.verification }

structure DryRunRequest where
  expectedIncidentVersion : Nat
  planVersion : Nat
  contentHash : String
deriving DecidableEq

namespace PlanTables

variable (tables : PlanTables)

/-- The steps of a plan by their positions. -/
def stepsOf (planId : Nat) : List StoredStep :=
  (tables.steps.filter fun step => step.planId = planId).insertionSort
    fun step step' => step.position ≤ step'.position

/-- The plan of the incident with the highest version. -/
def newestPlan (incidentId : Nat) : Option RemediationPlan :=
  ((tables.plans.filter fun plan => plan.incidentId = incidentId).insertionSort
    fun plan plan' => plan'.version ≤ plan.version).head?

/-- The schema that `dry_run` makes of the row of a plan, if pydantic accepts it. -/
def planSchema (actor : String) (incidentId : Nat) (plan : RemediationPlan)
    (resource : Resource) : Option RemediationPlanSchema := do
  let containerId ← plan.containerId
  let bindingGeneration ← plan.bindingGeneration
  let risk ← RiskLevel.ofValue? plan.risk
  let schema : RemediationPlanSchema :=
    { incidentId := incidentId
      diagnosisId := plan.diagnosisId
      version := plan.version
      risk := risk
      targetBinding :=
        { resourceId := resource.id
          containerId := containerId
          serviceName := resource.composeService.getD resource.name
          bindingGeneration := bindingGeneration }
      steps := (tables.stepsOf plan.id).map StoredStep.schema
      verificationProfile := plan.verificationProfile
      contentHash := plan.contentHash }
  if schema.accepted actor then some schema else none

/-- `dry_run`, up to the plan that is simulated. -/
def dryRun (actor : String) (incidentId : Nat) (body : DryRunRequest) :
    Except Err RemediationPlanSchema := do
  if ¬ validActor actor then
    throw ⟨.valueError, "A nonempty actor (at most 128 characters) is required"⟩
  let some incident := tables.incidents.find? fun incident => incident.id = incidentId
    | throw ⟨.httpException 404, "Incident not found"⟩
  let some plan := (tables.newestPlan incidentId).filter fun plan =>
      decide (body = ⟨incident.version, plan.version, plan.contentHash⟩)
    | throw ⟨.httpException 409, "Incident or plan changed; refresh before running a simulation"⟩
  let some resource := tables.resources.find? fun resource => resource.id = incident.resourceId
    | throw ⟨.attributeError, "'NoneType' object has no attribute 'id'"⟩
  let some schema := tables.planSchema actor incidentId plan resource
    | throw ⟨.httpException 422,
        "Stored plan cannot be simulated: invalid target binding or plan schema"⟩
  return schema

end PlanTables

end SelfHealing
