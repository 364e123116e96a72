/-
What the execution node reads of the steps of a plan.

The step that is carried out is a row whose parameters are JSON, as the planner wrote them.  The
execution node takes a container, a generation, a service and a time limit from them, and what is
missing from the state of the workflow or from a default.  It converts the numbers with `int`,
which takes more than pydantic does where the plan is validated: a text with blanks around the
digits, or a float, of which it keeps the whole part.  A container or a service is taken as it is,
and the intent refuses what is not a text.

The rest of the workflow knows a step by what has been read of it, and the intent is built from
that.
-/
import SelfHealing.Plans
import SelfHealing.Telemetry

namespace SelfHealing

open Canonical Floats

/-- The value as one that can be converted. -/
def jsonScalar : JsonValue → Scalar
  | .atom .null => .null
  | .atom (.bool b) => .bool b
  | .atom (.int n) => .int n
  | .atom (.float x) => ((floatOfText (String.ofList x.repr)).map Scalar.float).getD .null
  | .atom (.infinity negative) => .float (infinity (if negative then .negative else .positive))
  | .atom (.text s) => .text s
  | .seq items => .container items.isEmpty
  | .map entries => .container entries.isEmpty

/-- `int` of a value, unless it raises. -/
def jsonToInt (value : JsonValue) : Option Int := (pyInt (jsonScalar value)).toOption

/-- The value, if it is a text. -/
def jsonText? : JsonValue → Option String
  | .atom (.text s) => some s
  | _ => none

/-- A parameter that may be missing, and has to be readable if it is there. -/
def readParameter {A : Type} (read : JsonValue → Option A) (parameters : JsonDict) (key : String) :
    Option (Option A) :=
  match parameters.get? key with
  | none => some none
  | some value => (read value).map some

/-- The step as `execute_node` reads it from its row, unless that raises. -/
def RemediationStepSchema.executed (planId id : Nat) (step : RemediationStepSchema) :
    Option RemediationStep := do
  let containerId ← readParameter jsonText? step.parameters "container_id"
  let bindingGeneration ← readParameter jsonToInt step.parameters "binding_generation"
  let serviceName ← readParameter jsonText? step.parameters "service_name"
  let timeoutSeconds ← readParameter jsonToInt step.parameters "timeout_seconds"
  some
    { id := id
      planId := planId
      resourceId := step.resourceId
      position := step.position
      action := step.action
      containerId := containerId
      bindingGeneration := bindingGeneration
      serviceName := serviceName
      timeoutSeconds := timeoutSeconds }

end SelfHealing
