/-
Approvals.

A request decides on one version of a plan while its incident waits for that.  It reads the
incident, the plan and the decisions so far, and then records its own and moves the incident, all
in one transaction.  Nothing in the table of decisions keeps a second one out: that is left to the
version of the incident.
-/
import Mathlib.Data.List.Sort
import SelfHealing.Incidents
import SelfHealing.Texts

namespace SelfHealing

open Interleaving ReadCommitted

/-! ### Requests -/

/-- A request of a user, who is an approver; `allowed` is what the rate limiter says of it. -/
structure ApprovalRequest where
  username : String
  incidentId : Nat
  decision : ApprovalDecision
  expectedIncidentVersion : Int
  planVersion : Int
  contentHash : Option String := none
  rejectionReason : Option String := none
  allowed : Bool := true

structure ApprovalResponse where
  id : Nat
  incidentId : Nat
  planId : Nat
  planVersion : Nat
  decision : ApprovalDecision
  rejectionReason : Option String
  approver : String
  createdAt : Int
  expiresAt : Int
  incidentState : IncidentState
  incidentVersion : Nat
deriving DecidableEq, Repr

/-- Where the decision takes the incident. -/
def ApprovalDecision.outcome : ApprovalDecision → IncidentState
  | .approve => .approved
  | .reject => .escalated

/-- The decision is on this version of the plan. -/
def Approval.isFor (planId planVersion : Nat) (approval : Approval) : Bool :=
  decide (approval.planId = planId) && decide (approval.planVersion = planVersion)

/-- The decisions on a version of a plan, the latest first. -/
def Db.approvalsFor (db : Db) (planId planVersion : Nat) : List Approval :=
  (db.approvals.filter (Approval.isFor planId planVersion)).insertionSort
    fun a b => b.createdAt ≤ a.createdAt

/-- The rejection gives no reason. -/
def ApprovalRequest.unexplained (req : ApprovalRequest) : Bool :=
  decide (req.decision = .reject) && decide (textStrip (req.rejectionReason.getD "") = "")

/-- The request is about other contents of the plan. -/
def ApprovalRequest.mismatches (req : ApprovalRequest) (plan : RemediationPlan) : Bool :=
  match req.contentHash with
  | none => false
  | some hash => decide (hash ≠ "") && decide (plan.contentHash ≠ "") &&
      decide (hash ≠ plan.contentHash)

/-- The response that tells of a decision. -/
def Approval.response (approval : Approval) (req : ApprovalRequest) (plan : RemediationPlan)
    (incident : Incident) : ApprovalResponse :=
  { id := approval.id, incidentId := req.incidentId, planId := plan.id,
    planVersion := plan.version, decision := approval.decision,
    rejectionReason := approval.rejectionReason, approver := req.username,
    createdAt := approval.createdAt, expiresAt := approval.expiresAt,
    incidentState := incident.state, incidentVersion := incident.version }

/-! ### The endpoint -/

section Repository

variable (t : TxId)

/-- `record_approval`. -/
def recordApproval (approval : Nat → Approval) : Prog Approval := do
  let id ← uuid4 t.pid
  insertRow t (.approval (approval id))
  pure (approval id)

end Repository

section Endpoint

variable (p : Nat) (req : ApprovalRequest)

/-- The user of the request as an actor. -/
def ApprovalRequest.actor : String := s!"user:{req.username}"

/-- The decision of the request. -/
def ApprovalRequest.approval (plan : RemediationPlan) (now : Int) (id : Nat) : Approval :=
  { id := id, planId := plan.id, planVersion := plan.version, approver := req.username,
    decision := req.decision,
    rejectionReason :=
      match req.decision with
      | .approve => none
      | .reject => req.rejectionReason.map textStrip
    createdAt := now
    expiresAt := now + seconds (29 * 60 + 55) }

/-- The time for the decision is over; what is written here is undone by the exception. -/
def expireRequest (incident : Incident) : Prog ApprovalResponse := do
  if incident.state = .pendingApproval then
    let _ ← transition ⟨p, 0⟩ req.actor req.incidentId incident.version .escalated
    createEscalationRecord ⟨p, 0⟩ req.incidentId "Approval Request Expired"
      s!"30-minute approval request deadline expired for plan version {req.planVersion}."
      "APPROVAL_EXPIRED" (some "Approval request deadline exceeded 30 minutes")
  throw ⟨.httpException 410, "Approval request deadline has expired (30-minute window exceeded). " ++
    "Incident has been escalated."⟩

/-- The decision is recorded and takes the incident on.  That the plan is marked as approved only
the trigger on plans looks at. -/
def decideRequest (incident : Incident) (plan : RemediationPlan) (now : Int) :
    Prog ApprovalResponse := do
  let approval ← recordApproval ⟨p, 0⟩ (req.approval plan now)
  match req.decision with
  | .approve =>
      insertElsewhere
      let updated ← transition ⟨p, 0⟩ req.actor req.incidentId incident.version .approved
      pure (approval.response req plan updated)
  | .reject =>
      let updated ← transition ⟨p, 0⟩ req.actor req.incidentId incident.version .escalated
      createEscalationRecord ⟨p, 0⟩ req.incidentId "Remediation Plan Rejected by Operator"
        s!"Plan version {plan.version} was rejected by {req.username}." "PLAN_REJECTED"
        (some (textStrip (req.rejectionReason.getD "")))
      pure (approval.response req plan updated)

/-- What is done with an incident and a plan that nobody has decided on. -/
def answerRequest (incident : Incident) (plan : RemediationPlan) (now : Int) :
    Prog ApprovalResponse :=
  if incident.updatedAt + seconds (30 * 60) < now then expireRequest p req incident
  else if incident.state ≠ .pendingApproval then
    throw ⟨.httpException 409, "Incident is not in PENDING_APPROVAL state (current state: " ++
      s!"{incident.state.value})."⟩
  else if (incident.version : Int) ≠ req.expectedIncidentVersion then
    throw ⟨.httpException 409, s!"Incident version mismatch: expected " ++
      s!"{req.expectedIncidentVersion}, but current version is {incident.version}."⟩
  else decideRequest p req incident plan now

/-- `submit_approval`. -/
def submitApproval : Prog ApprovalResponse :=
  if req.allowed = false then
    throw ⟨.httpException 429, "Too many approval requests. Please slow down."⟩
  else if req.unexplained then
    throw ⟨.httpException 422,
      "A non-empty rejection reason is required when rejecting a remediation plan."⟩
  else
    unitOfWork ⟨p, 0⟩ req.actor do
      let found ← getIncident ⟨p, 0⟩ req.incidentId
      match found with
      | none => throw ⟨.httpException 404, "Incident not found."⟩
      | some incident =>
          let plan ← select fun db => db.plans.find? fun plan =>
            decide (plan.incidentId = req.incidentId) && decide ((plan.version : Int) = req.planVersion)
          match plan with
          | none =>
              throw ⟨.httpException 404,
                s!"Remediation plan version {req.planVersion} not found for this incident."⟩
          | some plan =>
              if req.mismatches plan then
                throw ⟨.httpException 409, "Plan content hash mismatch."⟩
              else
                let existing ← select fun db => (db.approvalsFor plan.id plan.version).head?
                let now ← datetimeNow
                match existing with
                | some approval =>
                    if approval.decision = req.decision then
                      pure (approval.response req plan incident)
                    else
                      throw ⟨.httpException 409, "A conflicting approval decision was already " ++
                        "recorded for this plan version."⟩
                | none => answerRequest p req incident plan now

end Endpoint

/-! ### Many requests -/

/-- What happens beside the requests: time passes, others move an incident, or make a plan. -/
inductive ApprovalEnv
  | elapse (elapsed : Int)
  | moved (incidentId : Nat) (target : IncidentState)
  | planned (plan : RemediationPlan)

def ApprovalEnv.apply : ApprovalEnv → Db → Option Db
  | .elapse elapsed, db => some { db with now := db.now + elapsed }
  | .moved incidentId target, db =>
      let c := db.incidents incidentId
      match c.pending, c.committed with
      | none, some row =>
          match row.admitsTransition row.version target with
          | .ok _ =>
              some (db.setIncident incidentId
                ⟨some (row.transitioned db.now row.version target row) :: c.versions, none⟩)
          | .error _ => none
      | _, _ => none
  | .planned plan, db =>
      if db.plans.any (fun other => other.id = plan.id) then none
      else some { db with plans := plan :: db.plans }

/-- Any number of requests. -/
def approvalMachine : Machine World ApprovalRequest ApprovalEnv Db where
  prog := fun p req => do
    let _ ← (submitApproval p req).run
    pure ()
  ready := fun _ _ _ => True
  crash := Db.crash
  env := ApprovalEnv.apply
  admits := fun _ _ => True

instance (p : Nat) (req : ApprovalRequest) (db : Db) : Decidable (approvalMachine.ready p req db) :=
  .isTrue trivial

instance (s s' : Db) : Decidable (approvalMachine.admits s s') := .isTrue trivial

end SelfHealing
