/-
Plans, and what is checked of them before they are carried out.

A plan is a list of steps for one target, each an action of the catalog with parameters of its
own.  The validator looks at the target, at each step by itself, at how the steps stand to each
other, and at last at the digest of everything that was looked at.

What is not of this repository is given: what pydantic makes of a value, what it says of
parameters it does not accept, and SHA-256.  A plan that comes as a dictionary is made into one by
pydantic first, or refused.
-/
import SelfHealing.Json
import SelfHealing.Workflow.Nodes

namespace SelfHealing

open Canonical

/-! ### Plans -/

inductive RiskLevel
  | low
  | medium
  | high
  | critical
deriving DecidableEq, Repr

def RiskLevel.value : RiskLevel → String
  | .low => "LOW"
  | .medium => "MEDIUM"
  | .high => "HIGH"
  | .critical => "CRITICAL"

/-- `RemediationStepSchema`, but for the identifiers of the step and of its plan. -/
structure RemediationStepSchema where
  resourceId : Nat
  position : Nat
  action : String
  actionSchemaVersion : String := "1.0"
  parameters : JsonDict := []
  verification : JsonDict := []

/-- `RemediationPlanSchema`, but for what no check looks at. -/
structure RemediationPlanSchema where
  incidentId : Nat
  diagnosisId : Nat
  version : Nat := 1
  risk : RiskLevel := .low
  targetBinding : TargetBinding
  steps : List RemediationStepSchema := []
  verificationProfile : Option String := some "m1_default_restart_profile"
  contentHash : String

/-! ### What pydantic makes -/

/-- The pattern of container identifiers, which does not let a line break pass. -/
def containerIdPattern (s : String) : Bool :=
  hexContainerId s && decide (s.toList.getLast? ≠ some '\n')

/-- The pattern of content hashes. -/
def contentHashPattern (s : String) : Bool :=
  let isHex := fun c : Char => c.isDigit || ('a' ≤ c && c ≤ 'f') || ('A' ≤ c && c ≤ 'F')
  decide (s.toList.length = 64) && s.toList.all isHex

/-- A text of bounded length. -/
def boundedText (least most : Nat) (s : String) : Bool :=
  decide (least ≤ s.toList.length) && decide (s.toList.length ≤ most)

def RemediationStepSchema.accepted (step : RemediationStepSchema) : Bool :=
  boundedText 1 128 step.action && boundedText 0 16 step.actionSchemaVersion

/-- The model accepts the plan, with its target, its steps and the actor that it is made by. -/
def RemediationPlanSchema.accepted (plan : RemediationPlanSchema) (actor : String) : Bool :=
  plan.targetBinding.validated.toBool && plan.steps.all RemediationStepSchema.accepted &&
    decide (1 ≤ plan.version) && plan.verificationProfile.all (boundedText 0 64) &&
    contentHashPattern plan.contentHash && boundedText 1 128 actor

/-! ### The content hash -/

def TargetBinding.canonical (target : TargetBinding) : JsonValue :=
  .map
    [("resource_id", jsonStr (uuidText target.resourceId)),
     ("container_id", jsonStr target.containerId),
     ("service_name", jsonStr target.serviceName),
     ("binding_generation", jsonInt target.bindingGeneration)]

def RemediationStepSchema.canonical (step : RemediationStepSchema) : JsonValue :=
  .map
    [("position", jsonInt step.position),
     ("action", jsonStr step.action),
     ("resource_id", jsonStr (uuidText step.resourceId)),
     ("action_schema_version", jsonStr step.actionSchemaVersion),
     ("parameters", .map step.parameters),
     ("verification", .map step.verification)]

/-- The steps by their positions. -/
def sortedSteps (steps : List RemediationStepSchema) : List RemediationStepSchema :=
  steps.insertionSort fun s s' => s.position ≤ s'.position

/-- The `canonical_dict` of `compute_plan_content_hash`. -/
def RemediationPlanSchema.canonical (plan : RemediationPlanSchema) : JsonValue :=
  .map
    [("incident_id", jsonStr (uuidText plan.incidentId)),
     ("diagnosis_id", jsonStr (uuidText plan.diagnosisId)),
     ("version", jsonInt plan.version),
     ("risk", jsonStr plan.risk.value),
     ("target_binding", plan.targetBinding.canonical),
     ("steps", .seq ((sortedSteps plan.steps).map RemediationStepSchema.canonical)),
     ("verification_profile",
       match plan.verificationProfile.filter (· ≠ "") with
       | some profile => jsonStr profile
       | none => jsonNull)]

/-- The bytes that are hashed. -/
def RemediationPlanSchema.encoded (plan : RemediationPlanSchema) : ByteArray :=
  (jsonDumps plan.canonical).toUTF8

def computePlanContentHash (sha256 : ByteArray → String) (plan : RemediationPlanSchema) : String :=
  sha256 plan.encoded

/-! ### The catalog -/

/-- What pydantic makes of a value where a field asks for an integer, or for an identifier, and
what it says of the parameters of an action that it does not accept; the characters of words, and
the letter that one is taken for where `re` ignores case. -/
structure Libraries where
  int : JsonValue → Option Int
  uuid : JsonValue → Option Nat
  message : String → JsonDict → String
  wordChar : Char → Bool
  letter : Char → Char

/-- A string that a test lets pass. -/
def acceptsText (test : String → Bool) : JsonValue → Bool
  | .atom (.text s) => test s
  | _ => false

/-- The commands that `SHELL_INJECTION_PATTERN` looks for. -/
def shellCommands : List String := ["sudo", "rm", "exec", "sh", "bash", "powershell", "cmd"]

/-- A field of the parameters of an action. -/
structure ParamField where
  name : String
  required : Bool
  accepts : JsonValue → Bool

inductive ActionCategory
  | readOnly
  | workloadMutation
  | verificationDeclaration
  | operatorNotification
  | localEscalation
deriving DecidableEq, Repr

/-- `BaseAction`, as far as the validator reads it. -/
structure BaseAction where
  name : String
  category : ActionCategory
  parametersSchema : List ParamField

abbrev ActionRegistry := List BaseAction

/-- `has_action` and `get`. -/
def ActionRegistry.get? (registry : ActionRegistry) (name : String) : Option BaseAction :=
  registry.find? fun action => action.name = name

section Catalog

variable (py : Libraries)

/-- The words of a text. -/
def textWords : List Char → List Char → List String
  | word, [] => [String.ofList word.reverse]
  | word, c :: rest =>
      if py.wordChar c then textWords (c :: word) rest
      else String.ofList word.reverse :: textWords [] rest

/-- `SHELL_INJECTION_PATTERN`: a character of the shell, or a command as a word. -/
def shellInjection (s : String) : Bool :=
  let marks := [59, 38, 124, 96, 36, 62, 60, 10, 13].map Char.ofNat
  s.toList.any (fun c => decide (c ∈ marks)) ||
    (textWords py [] s.toList).any fun word =>
      shellCommands.contains (String.ofList (word.toList.map py.letter))

/-- A text of bounded length without anything for a shell. -/
def safeText (least most : Nat) (s : String) : Bool :=
  decide (least ≤ s.toList.length) && decide (s.toList.length ≤ most) && !shellInjection py s

/-- An integer within bounds. -/
def acceptsInt (least : Int) (most : Option Int) (value : JsonValue) : Bool :=
  (py.int value).any fun n => decide (least ≤ n) && most.all fun most => decide (n ≤ most)

def containerIdField : ParamField := ⟨"container_id", true, acceptsText containerIdPattern⟩

def uuidField (name : String) : ParamField := ⟨name, true, fun value => (py.uuid value).isSome⟩

def bindingGenerationField : ParamField :=
  ⟨"binding_generation", false, fun value =>
    match value with
    | .atom .null => true
    | value => acceptsInt py 1 none value⟩

def inspectContainerParams : List ParamField :=
  [containerIdField, uuidField py "resource_id", bindingGenerationField py]

def restartContainerParams : List ParamField :=
  [containerIdField, uuidField py "resource_id",
   ⟨"service_name", false, acceptsText fun s => !shellInjection py s && decide (s = "demo-api")⟩,
   ⟨"timeout_seconds", false, acceptsInt py 1 (some 120)⟩,
   bindingGenerationField py]

def waitForStabilizationParams : List ParamField :=
  [uuidField py "resource_id",
   ⟨"duration_seconds", false, acceptsInt py 1 (some 300)⟩,
   ⟨"verification_profile", false, acceptsText (safeText py 0 64)⟩]

def notifyOperatorParams : List ParamField :=
  [uuidField py "incident_id",
   ⟨"reason", true, acceptsText (safeText py 1 256)⟩,
   ⟨"severity", false, acceptsText fun s => ["LOW", "MEDIUM", "HIGH", "CRITICAL"].contains s⟩,
   ⟨"message", true, acceptsText (safeText py 1 4096)⟩]

def openIncidentTicketParams : List ParamField :=
  [uuidField py "incident_id",
   ⟨"title", true, acceptsText (safeText py 1 256)⟩,
   ⟨"summary", true, acceptsText (safeText py 1 4096)⟩,
   ⟨"root_cause", true, acceptsText (safeText py 1 128)⟩,
   ⟨"escalation_reason", true, acceptsText (safeText py 1 2048)⟩]

/-- The registry with the default actions. -/
def defaultRegistry : ActionRegistry :=
  [⟨"inspect_container", .readOnly, inspectContainerParams py⟩,
   ⟨"restart_container", .workloadMutation, restartContainerParams py⟩,
   ⟨"wait_for_stabilization", .verificationDeclaration, waitForStabilizationParams py⟩,
   ⟨"notify_operator", .operatorNotification, notifyOperatorParams py⟩,
   ⟨"open_incident_ticket", .localEscalation, openIncidentTicketParams py⟩]

/-- Whether a model accepts parameters: each key is a field of it and its value accepted, and no
field is missing that has to be there. -/
def acceptsParameters (fields : List ParamField) (parameters : JsonDict) : Bool :=
  parameters.all (fun entry =>
      fields.any fun field => decide (field.name = entry.1) && field.accepts entry.2) &&
    fields.all fun field => !field.required || parameters.any fun entry => entry.1 = field.name

end Catalog

/-! ### The validator -/

mutual

/-- `repr` of a value. -/
def pyRepr : JsonValue → String
  | .atom .null => "None"
  | .atom (.bool b) => if b then "True" else "False"
  | .atom (.int n) => String.ofList (intText n)
  | .atom (.float x) => String.ofList x.repr
  | .atom (.infinity negative) => if negative then "-inf" else "inf"
  | .atom (.text s) => textRepr s
  | .seq items => "[" ++ ", ".intercalate (pyReprItems items) ++ "]"
  | .map entries => "\x7b" ++ ", ".intercalate (pyReprEntries entries) ++ "\x7d"

def pyReprItems : List JsonValue → List String
  | [] => []
  | t :: rest => pyRepr t :: pyReprItems rest

def pyReprEntries : List (String × JsonValue) → List String
  | [] => []
  | (k, t) :: rest => (textRepr k ++ ": " ++ pyRepr t) :: pyReprEntries rest

end

/-- `str` of a value. -/
def pyStr (value : JsonValue) : String :=
  match value with
  | .atom (.text s) => s
  | value => pyRepr value

/-- `bool` of a value. -/
def pyBool : JsonValue → Bool
  | .atom .null => false
  | .atom (.bool b) => b
  | .atom (.int n) => decide (n ≠ 0)
  | .atom (.float x) => decide (x.repr ≠ "0.0".toList ∧ x.repr ≠ "-0.0".toList)
  | .atom (.infinity _) => true
  | .atom (.text s) => decide (s ≠ "")
  | .seq items => !items.isEmpty
  | .map entries => !entries.isEmpty

/-- One error, if the condition holds. -/
def errorIf (condition : Prop) [Decidable condition] (text : String) : List String :=
  if condition then [text] else []

/-- The checks of the target. -/
def targetErrors (target : TargetBinding) (expected : Option TargetBinding) : List String :=
  (match expected with
    | none => []
    | some expected =>
        errorIf (target.resourceId ≠ expected.resourceId)
          (s!"Target resource {uuidText target.resourceId} does not match expected binding " ++
            uuidText expected.resourceId) ++
        errorIf (target.containerId ≠ expected.containerId)
          (s!"Target container ID {target.containerId} does not match expected binding " ++
            expected.containerId) ++
        errorIf (target.serviceName ≠ expected.serviceName)
          (s!"Target service {target.serviceName} does not match expected binding " ++
            expected.serviceName) ++
        errorIf (target.bindingGeneration ≠ expected.bindingGeneration)
          (s!"Target binding generation {target.bindingGeneration} does not match expected " ++
            toString expected.bindingGeneration)) ++
  errorIf (target.serviceName ≠ "demo-api")
    s!"Target service '{target.serviceName}' is not allowlisted for M1 remediation"

section Validator

variable (py : Libraries) (registry : ActionRegistry)

/-- A parameter that is given and not what the target has. -/
def strayParameter (step : RemediationStepSchema) (key expected : String)
    (text : String → String) : List String :=
  match step.parameters.get? key with
  | some value => errorIf (pyBool value ∧ ¬ acceptsText (· = expected) value) (text (pyStr value))
  | none => []

/-- The checks of a step by itself, if its action is registered. -/
def actionErrors (target : TargetBinding) (step : RemediationStepSchema) (action : BaseAction) :
    List String :=
  let position := step.position
  errorIf (¬ acceptsParameters action.parametersSchema step.parameters)
    (s!"Invalid parameters for action '{step.action}' at step {position}: " ++
      py.message step.action step.parameters) ++
  errorIf (step.resourceId ≠ target.resourceId)
    (s!"Step {position} resource_id {uuidText step.resourceId} does not match plan target " ++
      s!"resource_id {uuidText target.resourceId}") ++
  strayParameter step "container_id" target.containerId (fun given =>
    s!"Step {position} specifies container_id '{given}' which does not match plan target " ++
      s!"'{target.containerId}' (possible forgery)") ++
  strayParameter step "service_name" target.serviceName (fun given =>
    s!"Step {position} specifies service '{given}' which does not match plan target service " ++
      s!"'{target.serviceName}'")

/-- The checks of a step; an action that is not registered is not looked at any further. -/
def stepErrors (target : TargetBinding) (step : RemediationStepSchema) : List String :=
  match registry.get? step.action with
  | none => [s!"Unregistered action in step {step.position}: '{step.action}'"]
  | some action => actionErrors py target step action

/-- The loop over the steps, with the positions seen so far. -/
def allStepErrors (target : TargetBinding) : List Nat → List RemediationStepSchema → List String
  | _, [] => []
  | seen, step :: rest =>
      errorIf (step.position ∈ seen) s!"Duplicate step position: {step.position}" ++
        stepErrors py registry target step ++ allStepErrors target (step.position :: seen) rest

/-- The step changes the workload. -/
def RemediationStepSchema.mutates (step : RemediationStepSchema) : Bool :=
  (registry.get? step.action).any fun action => action.category = .workloadMutation

def mutatingSteps (steps : List RemediationStepSchema) : List RemediationStepSchema :=
  steps.filter (RemediationStepSchema.mutates registry)

/-- The checks of the mutations: at most one, and only a restart. -/
def mutationErrors (steps : List RemediationStepSchema) : List String :=
  let mutating := mutatingSteps registry steps
  errorIf (1 < mutating.length)
    (s!"Plan contains {mutating.length} mutating steps; M1 strictly prohibits multiple " ++
      "mutations in a single plan") ++
  mutating.flatMap fun step =>
    errorIf (step.action ≠ "restart_container")
      (s!"Action '{step.action}' is not allowlisted for workload mutation in M1. " ++
        "Only 'restart_container' is allowed.")

/-- The checks of the sequence of a restart. -/
def sequenceErrors (steps : List RemediationStepSchema) : List String :=
  match mutatingSteps registry steps with
  | [] => []
  | restart :: _ =>
      let inspect := steps.filter fun step => step.action = "inspect_container"
      let stab := steps.filter fun step => step.action = "wait_for_stabilization"
      errorIf (inspect = [] ∨ inspect.any fun step => decide (restart.position ≤ step.position))
        "Mutating action 'restart_container' must be preceded by an 'inspect_container' step" ++
      errorIf (stab = [] ∨ stab.any fun step => decide (step.position ≤ restart.position))
        "Mutating action 'restart_container' must be followed by a 'wait_for_stabilization' step"

/-- `PlanValidator.validate`, of a plan that pydantic has made: what is wrong with it.  The hash is
looked at only if nothing else is wrong. -/
def validatePlan (sha256 : ByteArray → String) (plan : RemediationPlanSchema)
    (expectedTarget : Option TargetBinding) (verifyContentHash : Bool) : List String :=
  let errors :=
    targetErrors plan.targetBinding expectedTarget ++
      allStepErrors py registry plan.targetBinding [] plan.steps ++
      mutationErrors registry plan.steps ++ sequenceErrors registry plan.steps
  let recomputed := computePlanContentHash sha256 plan
  if verifyContentHash ∧ errors = [] then
    errorIf (recomputed ≠ plan.contentHash)
      s!"Plan content hash mismatch: expected {recomputed}, got {plan.contentHash}"
  else errors

end Validator

/-! ### The planner -/

/-- The steps of a restart, as the planner writes them. -/
def restartPlanSteps (target : TargetBinding) : List RemediationStepSchema :=
  let profile := jsonStr "m1_default_restart_profile"
  let resourceId := jsonStr (uuidText target.resourceId)
  let containerId := jsonStr target.containerId
  let generation := jsonInt target.bindingGeneration
  [{ resourceId := target.resourceId, position := 0, action := "inspect_container"
     parameters :=
       [("container_id", containerId), ("resource_id", resourceId),
        ("binding_generation", generation)] },
   { resourceId := target.resourceId, position := 1, action := "restart_container"
     parameters :=
       [("container_id", containerId), ("resource_id", resourceId),
        ("service_name", jsonStr target.serviceName), ("timeout_seconds", jsonInt 30),
        ("binding_generation", generation)]
     verification := [("profile", profile)] },
   { resourceId := target.resourceId, position := 2, action := "wait_for_stabilization"
     parameters :=
       [("resource_id", resourceId), ("duration_seconds", jsonInt 90),
        ("verification_profile", profile)]
     verification := [("profile", profile)] }]

/-- The steps for a cause that no restart helps against. -/
def escalationPlanSteps (incidentId : Nat) (causeStr : String) (target : TargetBinding) :
    List RemediationStepSchema :=
  let incident := uuidText incidentId
  [{ resourceId := target.resourceId, position := 0, action := "notify_operator"
     parameters :=
       [("incident_id", jsonStr incident),
        ("reason", jsonStr s!"Escalation required for unhandled cause: {causeStr}"),
        ("severity", jsonStr "HIGH"),
        ("message", jsonStr
          (s!"Autonomous remediation unavailable for root cause '{causeStr}'. " ++
            "Manual operator intervention is required."))] },
   { resourceId := target.resourceId, position := 1, action := "open_incident_ticket"
     parameters :=
       [("incident_id", jsonStr incident),
        ("title", jsonStr s!"Escalated Incident: {causeStr}"),
        ("summary", jsonStr
          s!"Incident {incident} escalated due to unsupported root cause {causeStr}."),
        ("root_cause", jsonStr causeStr),
        ("escalation_reason", jsonStr
          s!"Root cause '{causeStr}' requires manual operator resolution.")] }]

/-- The plan of `DeterministicPlanner.create_plan`, which is validated before it is returned. -/
def plannedPlan (sha256 : ByteArray → String) (incidentId diagnosisId : Nat) (causeStr : String)
    (target : TargetBinding) (version : Nat) : RemediationPlanSchema :=
  let supported := supportedRestartCauses.contains causeStr
  let plan : RemediationPlanSchema :=
    { incidentId := incidentId
      diagnosisId := diagnosisId
      version := version
      risk := .low
      targetBinding := target
      steps :=
        if supported then restartPlanSteps target
        else escalationPlanSteps incidentId causeStr target
      verificationProfile := if supported then some "m1_default_restart_profile" else none
      contentHash := "" }
  { plan with contentHash := computePlanContentHash sha256 plan }

/-- `DeterministicPlanner.create_plan`: the plan, if pydantic and the validator accept it.  What
pydantic says of what it refuses is given. -/
def DeterministicPlanner.createPlan (py : Libraries) (refusal : String)
    (sha256 : ByteArray → String) (actor : String) (incidentId diagnosisId : Nat)
    (causeStr : String) (target : TargetBinding) (version : Nat := 1) :
    Except Err RemediationPlanSchema :=
  let plan := plannedPlan sha256 incidentId diagnosisId causeStr target version
  let planActor := if actor = "" then "agent:deterministic_planner" else actor
  if plan.accepted planActor then
    match validatePlan py (defaultRegistry py) sha256 plan (some target) true with
    | [] => .ok plan
    | errors => .error ⟨.planValidationError, "; ".intercalate errors⟩
  else .error ⟨.valueError, refusal⟩

end SelfHealing
