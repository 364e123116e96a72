/-
The Docker adapter.

`precheck` looks whether a restart may be made; `execute` makes it, at most once for
an idempotency key: an early look at the record, then, under a lock of the process
and a lock of the resource, the record is inserted or fetched and moved to
`RUNNING`, and only whoever moved it calls Docker.  What cannot be proved to have
worked quarantines the resource.
-/
import SelfHealing.Executions
import SelfHealing.ResourceLocks
import SelfHealing.Texts

namespace SelfHealing

open Interleaving ReadCommitted

/-! ### The Docker client -/

/-- `HEX_CONTAINER_ID_PATTERN`; like the pattern, it lets a final line break pass. -/
def hexContainerId (containerId : String) : Bool :=
  let text := containerId.toList
  let text := if text.getLast? = some '\n' then text.dropLast else text
  let isHex := fun c : Char => c.isDigit || ('a' ≤ c && c ≤ 'f') || ('A' ≤ c && c ≤ 'F')
  decide (12 ≤ text.length) && decide (text.length ≤ 64) && text.all isHex

def invalidContainerId (containerId : String) : Err :=
  let text := textRepr containerId
  ⟨.valueError, s!"Invalid container hex ID format: {text}"⟩

def noDockerClient : Err :=
  ⟨.dockerDaemonUnreachableError, "Docker daemon is unreachable or client is not initialized"⟩

/-- What `inspect_container` makes of an exception. -/
def inspectError (containerId text : String) : Err :=
  let err := textLower text
  if textContains "not found" err || textContains "404" err then
    ⟨.containerNotFoundError, s!"Container {containerId} not found in Docker daemon"⟩
  else if textContains "connection refused" err || textContains "cannot connect" err ||
      textContains "unreachable" err then
    ⟨.dockerDaemonUnreachableError, s!"Docker daemon connection error: {text}"⟩
  else ⟨.providerAdapterError, s!"Failed to inspect container {containerId}: {text}"⟩

/-- What `restart_container` makes of an exception. -/
def restartError (containerId : String) (timeoutSeconds : Int) (text : String) : Err :=
  let err := textLower text
  if textContains "timeout" err || textContains "timed out" err then
    ⟨.dockerTimeoutError,
      s!"Docker restart timed out after {timeoutSeconds}s for container {containerId}"⟩
  else if textContains "not found" err || textContains "404" err then
    ⟨.containerNotFoundError, s!"Container {containerId} not found during restart"⟩
  else if textContains "connection refused" err || textContains "cannot connect" err then
    ⟨.dockerDaemonUnreachableError, s!"Docker daemon connection dropped during restart: {text}"⟩
  else ⟨.providerAdapterError, s!"Docker restart failed for {containerId}: {text}"⟩

/-- The record that is the reason for looking is noted with what is seen, and makes no other
difference. -/
def inspectContainer (leftover : Option String) (containerId : String) : Prog ContainerAttrs :=
  if hexContainerId containerId then
    Interleaving.Prog.stmt fun w db =>
      match w.inspect with
      | .noClient => some (.error noDockerClient, db)
      | .raised text => some (.error (inspectError containerId text), db)
      | .answered attrs => some (.ok attrs, db.note (.inspected leftover containerId attrs))
  else throw (invalidContainerId containerId)

/-- Parts of the names of labels whose values are not shown. -/
def sensitiveKeyNames : List String :=
  ["password", "passwd", "pwd", "secret", "client_secret", "token", "auth_token", "access_token",
    "refresh_token", "session_token", "bearer", "api_key", "apikey", "private_key", "privkey",
    "credential", "credentials", "authorization"]

def redactLabels (labels : List (String × String)) : List (String × String) :=
  labels.map fun (k, v) =>
    let key := String.ofList ((textLower k).toList.map fun c => if c = '-' then '_' else c)
    if sensitiveKeyNames.any (fun term => textContains term key) then (k, "[REDACTED]")
    else if textContains "secret" (textLower v) || textContains "token" (textLower v) then
      (k, "[REDACTED]")
    else (k, v)

def takeSnapshot (leftover : Option String) (containerId : String) : Prog ContainerSnapshot := do
  let attrs ← inspectContainer leftover containerId
  pure
    { containerId := attrs.id, name := String.ofList (attrs.name.toList.dropWhile (· = '/')),
      status := attrs.status, createdAt := attrs.created, startedAt := attrs.startedAt,
      finishedAt := attrs.finishedAt, exitCode := attrs.exitCode,
      restartCount := attrs.restartCount, image := attrs.image, health := attrs.health,
      labels := redactLabels attrs.labels }

/-- The end of a restart.  What it raises is returned: the caller catches every exception of
it. -/
def endRestart (p : Nat) (intent : ExecutionIntent) : Prog (Except Err Unit) :=
  Interleaving.Prog.stmt fun w db =>
    let ended := db.record [.restartEnded p intent]
    if hexContainerId intent.containerId then
      match w.restart with
      | .noClient => some (.ok (.error noDockerClient), ended)
      | .raised text =>
          some (.ok (.error (restartError intent.containerId intent.timeoutSeconds text)), ended)
      | .answered () => some (.ok (.ok ()), ended.note (.restarted p intent))
    else some (.ok (.error (invalidContainerId intent.containerId)), ended)

/-- `restart_container`, from the moment it is called to the moment it is over. -/
def restartContainer (p : Nat) (intent : ExecutionIntent) : Prog (Except Err Unit) := do
  observe [.restartIssued p intent]
  endRestart p intent

/-! ### Prechecks -/

/-- An adapter: which instance it is, and on whose behalf it acts. -/
structure DockerExecutionAdapter where
  instanceId : Nat
  actor : String := "agent:docker_adapter"
deriving DecidableEq, Repr

def precheckFailed (message : String) : Err := ⟨.precheckFailedError, message⟩

def targetRecreated (message : String) : Err := ⟨.targetRecreatedError, message⟩

/-- The label of a container, or nothing. -/
def ContainerAttrs.label (attrs : ContainerAttrs) (key : String) : String :=
  textStrip ((attrs.labels.lookup key).getD "")

/-- The checks of the service name and of the labels. -/
def checkLabels (intent : ExecutionIntent) (attrs : ContainerAttrs) : Except Err Unit :=
  let managed := textLower (attrs.label "self-healing.managed")
  let service := attrs.label "com.docker.compose.service"
  let project := attrs.label "com.docker.compose.project"
  let containerId := intent.containerId
  let found := textRepr managed
  if managed ≠ "true" then
    throw (precheckFailed
      s!"Container {containerId} is missing 'self-healing.managed=true' label (found {found})")
  else if service ≠ "demo-api" then
    throw (precheckFailed
      s!"Container {containerId} compose service label is '{service}', expected 'demo-api'")
  else if project ≠ "" ∧ project ≠ "self-healing-agent" then
    throw (precheckFailed (s!"Container {containerId} compose project label is '{project}', " ++
      "expected 'self-healing-agent'"))
  else pure ()

/-- The container a resource is bound to. -/
def Resource.boundContainer (resource : Resource) : Option String :=
  (resource.dockerContainerId.filter (· ≠ "")).or (resource.containerId.filter (· ≠ ""))

/-- The generation of that binding. -/
def Resource.generation (resource : Resource) : Int := resource.bindingGeneration.getD 1

/-- The checks of the resource and its binding. -/
def checkBinding (intent : ExecutionIntent) (resource : Option Resource) : Except Err Unit :=
  let resourceId := intent.resourceId
  let expected := intent.containerId
  let expectedGeneration := intent.bindingGeneration
  match resource with
  | none => throw (precheckFailed s!"Resource {resourceId} not found in database")
  | some resource =>
      let environment := resource.environment
      let generation := resource.generation
      if environment ≠ "local" then
        throw (precheckFailed (s!"Resource environment '{environment}' " ++
          "is not permitted for local Docker mutations"))
      else
        match resource.boundContainer with
        | none => throw (precheckFailed "Resource record has no bound Docker container ID")
        | some bound =>
            if bound ≠ expected then
              throw (targetRecreated ("Target container was replaced in resource bindings: " ++
                s!"plan expects {expected}, DB has {bound}"))
            else if generation ≠ expectedGeneration then
              throw (targetRecreated ("Target binding generation mismatch: " ++
                s!"plan expects {expectedGeneration}, DB has {generation}"))
            else pure ()

/-- The latest decision for a plan of an incident. -/
def Db.latestPolicyDecision (db : Db) (incidentId planId : Nat) : Option PolicyDecision :=
  db.decisions.find? fun d => d.incidentId = incidentId ∧ d.planId = planId

/-- The check of the latest policy decision. -/
def checkDecision (decision : Option PolicyDecision) : Except Err PolicyDecision :=
  match decision with
  | none => throw (precheckFailed "No persisted policy decision found for plan execution")
  | some decision =>
      let codes := textReprList decision.reasonCodes
      match decision.decision with
      | .deny => throw (precheckFailed s!"Current policy decision is DENY: {codes}")
      | .defer => throw (precheckFailed s!"Current policy decision is DEFER: {codes}")
      | _ => pure decision

/-- The approvals of exactly this version of the plan, newest first. -/
def Db.grants (db : Db) (planId planVersion : Nat) : List Approval :=
  db.approvals.filter fun a =>
    a.planId = planId ∧ a.planVersion = planVersion ∧ a.decision = .approve

/-- The check of the newest grant. -/
def checkGrant (grant : Option Approval) (now : Int) : Except Err Unit :=
  match grant with
  | none => throw (precheckFailed "Policy requires approval but no approved decision was recorded")
  | some approval =>
      let expiry := isoformat approval.expiresAt
      if approval.expiresAt ≤ now then
        throw (precheckFailed s!"Approval grant expired at {expiry}")
      else pure ()

/-- The approval, if the decision or the mode requires one. -/
def checkApproval (intent : ExecutionIntent) (decision : PolicyDecision)
    (control : AutomationControl) : Prog Unit :=
  if decision.decision = .requireApproval ∨ control.mode = .approvalRequired then do
    let grant ← select fun db => (db.grants intent.planId intent.planVersion).head?
    let now ← datetimeNow
    check (checkGrant grant now)
  else pure ()

/-- The part of `precheck` in the database. -/
def precheckRecords (p : Nat) (ad : DockerExecutionAdapter) (intent : ExecutionIntent) :
    Prog Unit := do
  let resource ← select fun db => db.resources intent.resourceId
  check (checkBinding intent resource)
  let latest ← select fun db => db.latestPolicyDecision intent.incidentId intent.planId
  let decision ← check (checkDecision latest)
  let control ← getAutomationControls ⟨p, 0⟩ ad.actor
  checkApproval intent decision control
  checkSafety ⟨p, 0⟩ intent.resourceId (some control)

def precheck (p : Nat) (ad : DockerExecutionAdapter) (intent : ExecutionIntent) :
    Prog ContainerSnapshot := do
  let service := textRepr intent.serviceName
  if intent.serviceName ≠ "demo-api" then
    throw (precheckFailed (s!"Service {service} is not allowlisted for restart. " ++
      "Only 'demo-api' is permitted."))
  let containerId := intent.containerId
  let attrs ← tryCatch (inspectContainer none containerId) fun e =>
    let text := e.message
    if e.exc = .containerNotFoundError then
      throw (targetRecreated
        s!"Target container {containerId} not found in Docker daemon: {text}")
    else throw (precheckFailed s!"Docker inspection precheck failed: {text}")
  check (checkLabels intent attrs)
  unitOfWork ⟨p, 0⟩ ad.actor (precheckRecords p ad intent)
  takeSnapshot none containerId

/-! ### Reconciliation -/

/-- What `reconcile` concludes from a snapshot. -/
def reconciled (dispatchTime : Option Int) (pre : Option ContainerSnapshot)
    (post : ContainerSnapshot) : ReconciliationOutcome :=
  let preCount := (pre.map ContainerSnapshot.restartCount).getD 0
  let postCount := post.restartCount
  let status := post.status
  let startedAt := post.startedAt.getD ""
  let started :=
    match dispatchTime, fromIsoformat (replaceZulu startedAt) with
    | some dispatched, some time => decide (dispatched - seconds 2 ≤ time)
    | _, _ => false
  if postCount > preCount then
    { reconciledSuccess := true, uncertain := false,
      reason := s!"Container restart verified (RestartCount {preCount} -> {postCount})",
      postSnapshot := some post }
  else if started then
    { reconciledSuccess := true, uncertain := false,
      reason := s!"Container restart verified (StartedAt {startedAt} is within dispatch window)",
      postSnapshot := some post }
  else
    { reconciledSuccess := false, uncertain := true,
      reason := s!"Could not prove restart: RestartCount did not increment " ++
        s!"({preCount} == {postCount}) and status is '{status}'",
      postSnapshot := some post }

def reconcile (intent : ExecutionIntent) (dispatchTime : Option Int)
    (pre : Option ContainerSnapshot) : Prog ReconciliationOutcome :=
  tryCatch
    (do
      let post ← takeSnapshot none intent.containerId
      pure (reconciled dispatchTime pre post))
    (fun e =>
      let text := e.message
      pure
        { reconciledSuccess := false, uncertain := true,
          reason := s!"Unable to query container for reconciliation: {text}" })

/-! ### Execution -/

section Execute

variable (p : Nat) (ad : DockerExecutionAdapter)

/-- The outcome of a record that is finished already. -/
def reusedOutcome (intent : ExecutionIntent) (existing : Execution) : ExecutionOutcome :=
  { status := if existing.status = .succeeded then .succeeded else .failed
    executionId := some existing.id
    idempotencyKey := intent.idempotencyKey
    postState := existing.result
    uncertaintyReason := existing.uncertaintyReason }

/-- Why a record left `RUNNING` by a crash is uncertain, if it is. -/
def crashUncertainty (post : ContainerSnapshot) : Option String :=
  if post.status = "running" then none
  else some "Container not running after execution crash recovery"

/-- Finish a record left `RUNNING` by a crash, by what the container looks like now. -/
def finishCrashed (t : TxId) (intent : ExecutionIntent) (existing : Execution)
    (post : ContainerSnapshot) : Prog Execution :=
  finishExecution t intent.idempotencyKey existing.id existing.version
    (if post.status = "running" then .succeeded else .failed) (.snapshot post)
    (crashUncertainty post)

def crashedOutcome (intent : ExecutionIntent) (existing : Execution) (post : ContainerSnapshot) :
    ExecutionOutcome :=
  { status := if post.status = "running" then .succeeded else .uncertain
    executionId := some existing.id
    idempotencyKey := intent.idempotencyKey
    postState := .snapshot post
    uncertaintyReason := crashUncertainty post }

/-- The early look at the record: an outcome, if there is one already. -/
def earlyCheck (intent : ExecutionIntent) : Prog (Option ExecutionOutcome) := do
  let found ← getExecution ⟨p, 0⟩ intent.idempotencyKey
  match found with
  | none => pure none
  | some existing =>
      if existing.belongsTo intent.incidentId intent.stepId intent.resourceId
          (some intent.containerId) then
        match existing.status with
        | .succeeded | .failed => pure (some (reusedOutcome intent existing))
        | .running =>
            let post ← takeSnapshot (some intent.idempotencyKey) intent.containerId
            let _ ← unitOfWork ⟨p, 1⟩ ad.actor (finishCrashed ⟨p, 1⟩ intent existing post)
            pure (some (crashedOutcome intent existing post))
        | .pending | .rolledback => pure none
      else throw foreignKeyError

/-- What the lock transaction ends with: an outcome, or leave to dispatch. -/
inductive Claim
  | settled (outcome : ExecutionOutcome)
  | dispatch (lockToken : Nat) (executionId : Nat) (executionVersion : Nat)

/-- The lock transaction: the resource is locked, the record inserted or fetched, and moved to
`RUNNING` if that is still to be done. -/
def claimExecution (intent : ExecutionIntent) : Prog Claim := do
  let token ← acquireLock ⟨p, 0⟩ ad.actor intent.resourceId 120
  let record ← recordExecution ⟨p, 0⟩ ad.actor intent (some token)
  match record.status with
  | .succeeded | .failed => pure (.settled (reusedOutcome intent record))
  | .running =>
      let post ← takeSnapshot (some intent.idempotencyKey) intent.containerId
      let _ ← finishCrashed ⟨p, 0⟩ intent record post
      pure (.settled (crashedOutcome intent record post))
  | .pending | .rolledback =>
      let running ← finishExecution ⟨p, 0⟩ intent.idempotencyKey record.id record.version .running
        (.dispatchIntent intent)
      pure (.dispatch token record.id running.version)

/-- The transaction that ends a dispatch: the record is finished and the lock dealt with. -/
def endDispatch (intent : ExecutionIntent) (id version : Nat) (status : ExecutionStatus)
    (result : ExecutionResult) (uncertaintyReason : Option String) (unlock : Prog Unit) :
    Prog Unit :=
  unitOfWork ⟨p, 0⟩ ad.actor
    (do
      let _ ← finishExecution ⟨p, 0⟩ intent.idempotencyKey id version status result
        uncertaintyReason
      unlock)
    (fun _ => [.returned p intent])

/-- What follows the Docker call: it succeeded, or the container is gone, or one has to look. -/
def concludeDispatch (intent : ExecutionIntent) (pre : ContainerSnapshot) (token id version : Nat)
    (dispatchTime : Int) (answer : Except Err Unit) : Prog ExecutionOutcome := do
  let release := releaseLock ⟨p, 0⟩ ad.actor intent.resourceId token
  match answer with
  | .ok () =>
      let post ← takeSnapshot none intent.containerId
      endDispatch p ad intent id version .succeeded (.snapshot post) none release
      pure { status := .succeeded, executionId := some id,
             idempotencyKey := intent.idempotencyKey, postState := .snapshot post }
  | .error e =>
      if e.exc = .containerNotFoundError then
        endDispatch p ad intent id version .failed (.error e.message) (some e.message) release
        pure { status := .failed, executionId := some id,
               idempotencyKey := intent.idempotencyKey, error := some e.message }
      else
        let recon ← reconcile intent (some dispatchTime) (some pre)
        if recon.reconciledSuccess then
          endDispatch p ad intent id version .succeeded
            (.reconciled recon.reason recon.postSnapshot) none release
          pure { status := .succeeded, executionId := some id,
                 idempotencyKey := intent.idempotencyKey,
                 postState := (recon.postSnapshot.map ExecutionResult.snapshot).getD .empty,
                 reconciled := true }
        else
          let reason := if recon.reason = "" then e.message else recon.reason
          endDispatch p ad intent id version .failed (.uncertain reason) (some reason)
            (quarantineResource ⟨p, 0⟩ intent.resourceId
              s!"Uncertain execution outcome: {reason}")
          pure { status := .uncertain, executionId := some id,
                 idempotencyKey := intent.idempotencyKey, uncertaintyReason := some reason,
                 error := some reason }

/-- The time of the dispatch. -/
def dispatchNow (intent : ExecutionIntent) : Prog Int :=
  Interleaving.Prog.stmt fun _ db => some (.ok db.now, db.note (.dispatched p intent db.now))

/-- The Docker call and what follows it. -/
def dispatch (intent : ExecutionIntent) (pre : ContainerSnapshot) (token id version : Nat) :
    Prog ExecutionOutcome := do
  let dispatchTime ← dispatchNow p intent
  let answer ← restartContainer p intent
  concludeDispatch p ad intent pre token id version dispatchTime answer

/-- Take the dispatch lock of this instance for a container, when it is free. -/
def enterDispatch (containerId : String) : Prog Unit :=
  Interleaving.Prog.stmt fun _ db =>
    match db.dispatchLocks ad.instanceId containerId with
    | some _ => none
    | none => some (.ok (), db.setDispatchLock ad.instanceId containerId (some p))

def leaveDispatch (containerId : String) : Prog Unit :=
  Interleaving.Prog.stmt fun _ db =>
    some (.ok (), db.setDispatchLock ad.instanceId containerId none)

/-- `async with dispatch_lock`. -/
def withDispatchLock {α : Type} (containerId : String) (body : Prog α) : Prog α := do
  enterDispatch p ad containerId
  let a ← tryCatch body fun e => do
    leaveDispatch ad containerId
    throw e
  leaveDispatch ad containerId
  pure a

/-- What is seen of the lock transaction when it has committed. -/
def Claim.seen (intent : ExecutionIntent) : Claim → List Event
  | .settled _ => []
  | .dispatch _ _ _ => [.acquired p intent ad.actor]

/-- The part of `execute` under the dispatch lock. -/
def executeLocked (intent : ExecutionIntent) (pre : ContainerSnapshot) : Prog ExecutionOutcome := do
  let claim ← unitOfWork ⟨p, 0⟩ ad.actor (claimExecution p ad intent) (Claim.seen p ad intent)
  match claim with
  | .settled outcome => pure outcome
  | .dispatch token id version =>
      tryCatch (dispatch p ad intent pre token id version) fun e => do
        observe [.returned p intent]
        throw e

def execute (intent : ExecutionIntent) : Prog ExecutionOutcome := do
  observe [.called p intent]
  let early ← unitOfWork ⟨p, 0⟩ ad.actor (earlyCheck p ad intent)
  match early with
  | some outcome => pure outcome
  | none =>
      let pre ← takeSnapshot none intent.containerId
      let intent := { intent with preState := some pre }
      withDispatchLock p ad intent.containerId (executeLocked p ad intent pre)

/-- A call of `execute` whose caller has the outcome in the end. -/
def executeTold (intent : ExecutionIntent) : Prog Unit := do
  let outcome ← execute p ad intent
  Interleaving.Prog.stmt fun _ db => some (.ok (), db.note (.told p intent outcome))

end Execute

/-! ### Many calls -/

/-- A call of `execute`. -/
structure ExecuteCall where
  adapter : DockerExecutionAdapter
  intent : ExecutionIntent

/-- What happens beside the calls: time passes, and what they only read is written. -/
inductive AdapterEnv
  | tick (elapsed : Nat)
  | control (c : Cell TxId AutomationControl)
  | planned (plans : List RemediationPlan) (steps : List RemediationStep)

def AdapterEnv.apply : AdapterEnv → Db → Option Db
  | .tick elapsed, db => some { db with now := db.now + elapsed }
  | .control c, db => some (db.setControl c)
  | .planned plans steps, db => some { db with plans := plans, steps := steps }

/-- Any number of calls, each under a number of its own: a call that is made again after a crash
is another one. -/
def executeMachine (admits : Db → Db → Prop) : Machine World ExecuteCall AdapterEnv Db where
  prog := fun p call => do
    let _ ← (execute p call.adapter call.intent).run
    pure ()
  ready := fun p _ db => db.unseen p
  crash := Db.crash
  env := AdapterEnv.apply
  admits := admits

instance (admits : Db → Db → Prop) (p : Nat) (call : ExecuteCall) (db : Db) :
    Decidable ((executeMachine admits).ready p call db) :=
  inferInstanceAs (Decidable (db.unseen p))

instance (admits : Db → Db → Prop) [h : ∀ s s', Decidable (admits s s')] (s s' : Db) :
    Decidable ((executeMachine admits).admits s s') := h s s'

/-- The same with callers that keep what they are told. -/
def toldMachine (admits : Db → Db → Prop) : Machine World ExecuteCall AdapterEnv Db where
  prog := fun p call => do
    let _ ← (executeTold p call.adapter call.intent).run
    pure ()
  ready := fun p _ db => db.unseen p
  crash := Db.crash
  env := AdapterEnv.apply
  admits := admits

instance (admits : Db → Db → Prop) (p : Nat) (call : ExecuteCall) (db : Db) :
    Decidable ((toldMachine admits).ready p call db) :=
  inferInstanceAs (Decidable (db.unseen p))

instance (admits : Db → Db → Prop) [h : ∀ s s', Decidable (admits s s')] (s s' : Db) :
    Decidable ((toldMachine admits).admits s s') := h s s'

/-- The Docker call for an idempotency key. -/
def Event.isRestartOf (key : String) : Event → Bool
  | .restartIssued _ intent => decide (intent.idempotencyKey = key)
  | _ => false

/-- How often a restart has been issued for a key. -/
def restartsIssued (key : String) (log : List Event) : Nat := log.countP (Event.isRestartOf key)

/-- The call of process `p` has its lock and a dispatch to make, and its Docker call is not over. -/
def Mutating (p : Nat) (intent : ExecutionIntent) (log : List Event) : Prop :=
  (∃ actor, .acquired p intent actor ∈ log) ∧ .restartEnded p intent ∉ log ∧ .crashed p ∉ log

/-- No two calls are mutating the same resource at once. -/
def ExclusiveMutations (db : Db) : Prop :=
  ∀ p q (i j : ExecutionIntent), Mutating p i db.log → Mutating q j db.log →
    i.resourceId = j.resourceId → p = q

end SelfHealing
