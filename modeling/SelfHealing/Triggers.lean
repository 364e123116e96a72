/-
The triggers on the tables of incidents and executions.

The database checks every write once more, in a language of its own, and refuses those that are
not in order.  A trigger is given the row as it was, if there was one, and the row as it is to be,
and gives back the row that is stored.
-/
import SelfHealing.Executions
import SelfHealing.Incidents

namespace SelfHealing

/-- `RAISE EXCEPTION`. -/
def raised (text : String) : Err := ⟨.databaseError, text⟩

/-! ### Incidents -/

/-- The states that `guard_incident` lets a row move to. -/
def IncidentState.guardAllows : IncidentState → List IncidentState
  | .detected => [.triaged]
  | .triaged => [.diagnosed, .escalated]
  | .diagnosed => [.planned, .escalated]
  | .planned => [.pendingApproval, .executing, .escalated]
  | .pendingApproval => [.approved, .escalated]
  | .approved => [.executing, .escalated]
  | .executing => [.verifying, .failed]
  | .verifying => [.resolved, .diagnosed, .escalated]
  | .failed => [.rolledback, .escalated]
  | .resolved | .escalated | .rolledback => []

/-- The row leaves `PLANNED` the wrong way. -/
def Incident.misrouted (old new : Incident) : Bool :=
  decide (old.state = .planned) && decide (new.state ≠ .escalated) &&
    (old.approvalRequired && decide (new.state ≠ .pendingApproval) ||
      !old.approvalRequired && decide (new.state ≠ .executing))

/-- `guard_incident`, at time `now`. -/
def guardIncident (now : Int) (old : Option Incident) (new : Incident) : Except Err Incident :=
  match old with
  | none =>
      if new.state ≠ .detected ∨ new.version ≠ 1 ∨ new.attempts ≠ 0 then
        throw (raised "Incidents must start DETECTED at version 1, attempts 0")
      else pure new
  | some old =>
      if new.version ≠ old.version + 1 then
        throw (raised "Incident version must increment by one")
      else if new.state ≠ old.state ∧ new.state ∉ old.state.guardAllows then
        throw (raised s!"Illegal incident transition: {old.state.value} -> {new.state.value}")
      else if new.state ≠ old.state ∧ old.misrouted new = true then
        throw (raised "Approval routing mismatch")
      else if old.retries new.state = true ∧
          (old.retryLimit ≤ old.attempts ∨ new.attempts ≠ old.attempts + 1) then
        throw (raised "Retry limit exhausted or invalid attempt counter")
      else if old.retries new.state = false ∧ new.attempts ≠ old.attempts then
        throw (raised "Attempts change only on retry")
      else
        pure { new with
          resolvedAt := if new.state = .resolved then some now else new.resolvedAt
          updatedAt := now }

/-! ### Executions -/

/-- There is the step that the execution is for, of a plan for its incident. -/
def Execution.planned (steps : List RemediationStep) (plans : List RemediationPlan)
    (new : Execution) : Bool :=
  steps.any fun step => plans.any fun plan =>
    decide (plan.id = step.planId) && decide (step.id = new.stepId) &&
      decide (step.resourceId = new.resourceId) && decide (plan.incidentId = new.incidentId)

/-- The moves of a status that `guard_execution` lets pass. -/
def ExecutionStatus.guardAllows (old new : ExecutionStatus) : Bool :=
  match old, new with
  | .pending, .running => true
  | .running, .succeeded | .running, .failed => true
  | .failed, .rolledback => true
  | _, _ => false

/-- `guard_execution`; a row comes with its idempotency key. -/
def guardExecution (steps : List RemediationStep) (plans : List RemediationPlan)
    (old : Option (String × Execution)) (key : String) (new : Execution) :
    Except Err Execution :=
  if new.planned steps plans = false then throw (raised "Execution plan/target mismatch")
  else
    match old with
    | none =>
        if new.status ≠ .pending ∨ new.version ≠ 1 then
          throw (raised "Invalid initial execution")
        else pure new
    | some (oldKey, old) =>
        if new.version ≠ old.version + 1 then throw (raised "Stale execution version")
        else if key ≠ oldKey ∨ new.stepId ≠ old.stepId ∨ new.resourceId ≠ old.resourceId ∨
            new.incidentId ≠ old.incidentId then
          throw (raised "Execution identity is immutable")
        else if new.status ≠ old.status ∧ old.status.guardAllows new.status = false then
          throw (raised "Illegal execution transition")
        else pure new

end SelfHealing
