/-
The fault injector.

It keeps the faults it has injected in four dictionaries of its module and runs on one event
loop: a coroutine has the loop for itself until it awaits, so what stands between two awaits
of it is one step here, and a coroutine that waits is a row in the table of its kind.

The objects of one injection, the fault, its record and its timer, go by the number of the
request that made them; a record is shared by the dictionaries that hold it.  What a fault's
own `inject` and `clear` do is outside: they return, or raise, when the loop resumes who waits
for them.
-/
import Mathlib.Logic.Function.Basic

namespace SelfHealing

/-- The keys of `FAULT_REGISTRY`. -/
def faultRegistry : List String :=
  ["SCN-001", "SCN-002", "SCN-003", "SCN-004", "SCN-005", "SCN-006", "SCN-007", "SCN-008",
    "SCN-009", "SCN-010"]

inductive FaultStatus
  | active
  | cleared
  | expired
deriving DecidableEq, Repr

structure FaultRecord where
  runId : String
  scenarioId : String
  injectedAt : Nat
  ttlSeconds : Int
  status : FaultStatus := .active
  clearedAt : Option Nat := none
deriving DecidableEq, Repr

/-- What a request is answered. -/
inductive FaultAnswer
  /-- 404, with its detail. -/
  | unknownScenario (detail : String)
  | alreadyActive (scenarioId : String) (runId : Option String)
  | injected (scenarioId runId : String) (ttlSeconds : Int) (injectedAt : Nat)
  | notActive (scenarioId : String)
  /-- With the run and the time, if there was a record. -/
  | cleared (scenarioId : String) (run : Option (String × Nat))
  /-- The fault raised and the request did not handle it. -/
  | failed
deriving DecidableEq, Repr

inductive FaultEvent
  | answered (request : Nat) (answer : FaultAnswer)
  /-- The timer of an injection calls `clear` of a fault. -/
  | clearCalled (timer fault : Nat)
  /-- The timer of an injection takes a fault from the active ones. -/
  | removed (timer fault : Nat)
deriving DecidableEq, Repr

/-- A request that waits for its fault's `inject`. -/
structure Injecting where
  runId : String
  scenarioId : String
  ttlSeconds : Int
deriving DecidableEq, Repr

/-- An `_auto_clear_job`: asleep, or waiting for the `clear` of a fault. -/
structure AutoClearJob where
  runId : String
  scenarioId : String
  wakesAt : Int
  clearing : Bool := false
  cancelled : Bool := false
deriving DecidableEq, Repr

structure FaultInjector where
  activeFaults : String → Option Nat := fun _ => none
  faultTimers : String → Option Nat := fun _ => none
  faultMetadata : String → Option Nat := fun _ => none
  faultHistory : String → Option Nat := fun _ => none
  /-- The records, by the injection they are of. -/
  records : Nat → Option FaultRecord := fun _ => none
  /-- The injects and the clears that wait, by request. -/
  injecting : Nat → Option Injecting := fun _ => none
  clearing : Nat → Option String := fun _ => none
  /-- The auto-clear jobs that have not ended, by injection. -/
  jobs : Nat → Option AutoClearJob := fun _ => none
  requests : Nat := 0
  clock : Nat := 0
  /-- Newest first. -/
  log : List FaultEvent := []

namespace FaultInjector

open Function (update)

variable (s : FaultInjector)

def answer (request : Nat) (answer : FaultAnswer) : FaultInjector :=
  { s with log := .answered request answer :: s.log }

/-- The record that `FAULT_METADATA` has for a scenario. -/
def metadataOf (scenarioId : String) : Option FaultRecord :=
  (s.faultMetadata scenarioId).bind s.records

/-! ### Injecting -/

/-- `inject_fault`, until it waits for the fault. -/
def injectFault (scenarioId : String) (ttlSeconds : Int) (hex : String) : FaultInjector :=
  let request := s.requests
  let s := { s with requests := s.requests + 1 }
  if scenarioId ∉ faultRegistry then
    s.answer request (.unknownScenario s!"Unknown scenario ID: {scenarioId}")
  else if (s.activeFaults scenarioId).isSome then
    s.answer request (.alreadyActive scenarioId ((s.metadataOf scenarioId).map FaultRecord.runId))
  else
    let waiting : Injecting := ⟨scenarioId ++ "-" ++ hex, scenarioId, ttlSeconds⟩
    { s with injecting := update s.injecting request (some waiting) }

/-- The entries of a fault that has been injected, with the task that is to clear it. -/
def enter (request : Nat) (i : Injecting) : FaultInjector :=
  let record : FaultRecord := {
    runId := i.runId
    scenarioId := i.scenarioId
    injectedAt := s.clock
    ttlSeconds := i.ttlSeconds }
  let job : AutoClearJob := {
    runId := i.runId
    scenarioId := i.scenarioId
    wakesAt := s.clock + i.ttlSeconds }
  { s with
    activeFaults := update s.activeFaults i.scenarioId (some request)
    records := update s.records request (some record)
    faultMetadata := update s.faultMetadata i.scenarioId (some request)
    faultHistory := update s.faultHistory i.runId (some request)
    jobs := update s.jobs request (some job)
    faultTimers := update s.faultTimers i.scenarioId (some request) }

/-- `inject_fault`, from the return of the fault's `inject` on. -/
def injectReturned (request : Nat) (raised : Bool) : Option FaultInjector :=
  match s.injecting request with
  | none => none
  | some i =>
      let s := { s with injecting := update s.injecting request none }
      if raised then some (s.answer request .failed)
      else some ((s.enter request i).answer request
        (.injected i.scenarioId i.runId i.ttlSeconds s.clock))

/-! ### Clearing -/

/-- `FAULT_TIMERS[scenario_id].cancel()` and the pop after it, if the scenario has a timer. -/
def cancelTimer (scenarioId : String) : FaultInjector :=
  match s.faultTimers scenarioId with
  | none => s
  | some timer =>
      { s with
        jobs := update s.jobs timer ((s.jobs timer).map fun job => { job with cancelled := true })
        faultTimers := update s.faultTimers scenarioId none }

/-- `clear_fault`, until it waits for the fault. -/
def clearFault (scenarioId : String) : FaultInjector :=
  let request := s.requests
  let s := { s with requests := s.requests + 1 }
  if (s.activeFaults scenarioId).isSome then
    let s := s.cancelTimer scenarioId
    { s with clearing := update s.clearing request (some scenarioId) }
  else s.answer request (.notActive scenarioId)

/-- Set the status of a record and the time of it. -/
def close (record : Nat) (status : FaultStatus) : FaultInjector :=
  let closed := (s.records record).map fun r =>
    { r with status := status, clearedAt := some s.clock }
  { s with records := update s.records record closed }

/-- The entries of a scenario go, and its record is closed. -/
def drop (scenarioId : String) : FaultInjector :=
  let s' := { s with
    activeFaults := update s.activeFaults scenarioId none
    faultMetadata := update s.faultMetadata scenarioId none }
  match s.faultMetadata scenarioId with
  | some record => s'.close record .cleared
  | none => s'

/-- `clear_fault`, from the return of the fault's `clear` on. -/
def clearReturned (request : Nat) (raised : Bool) : Option FaultInjector :=
  match s.clearing request with
  | none => none
  | some scenarioId =>
      let s := { s with clearing := update s.clearing request none }
      if raised then some (s.answer request .failed)
      else
        let run := (s.metadataOf scenarioId).map fun r => (r.runId, s.clock)
        some ((s.drop scenarioId).answer request (.cleared scenarioId run))

/-! ### The timers -/

/-- The fault of the job's scenario and its timer go. -/
def remove (timer : Nat) (job : AutoClearJob) : FaultInjector :=
  let s' := { s with
    activeFaults := update s.activeFaults job.scenarioId none
    faultTimers := update s.faultTimers job.scenarioId none }
  match s.activeFaults job.scenarioId with
  | some fault => { s' with log := .removed timer fault :: s.log }
  | none => s'

/-- The record of the job's run in `FAULT_HISTORY` expires, if it is still active. -/
def expireHistory (job : AutoClearJob) : FaultInjector :=
  match s.faultHistory job.runId with
  | some record =>
      if (s.records record).any (fun r => decide (r.status = .active)) then
        s.close record .expired
      else s
  | none => s

/-- The entry of the job's scenario in `FAULT_METADATA` goes, if it is of the job's run. -/
def forget (job : AutoClearJob) : FaultInjector :=
  if (s.metadataOf job.scenarioId).any (fun r => decide (r.runId = job.runId)) then
    { s with faultMetadata := update s.faultMetadata job.scenarioId none }
  else s

/-- The job is over. -/
def endJob (timer : Nat) : FaultInjector := { s with jobs := update s.jobs timer none }

/-- `_auto_clear_job`, from what it waits for on. -/
def jobResumed (timer : Nat) (raised : Bool) : Option FaultInjector :=
  match s.jobs timer with
  | none => none
  | some job =>
      -- The cancellation is raised at whichever await the job is.
      if job.cancelled then some (s.endJob timer)
      else if job.clearing then
        if raised then some (s.endJob timer)
        else some ((((s.remove timer job).expireHistory job).forget job).endJob timer)
      else if job.wakesAt ≤ s.clock then
        match s.activeFaults job.scenarioId with
        | some fault =>
            some { s with
              jobs := update s.jobs timer (some { job with clearing := true })
              log := .clearCalled timer fault :: s.log }
        | none => some (((s.expireHistory job).forget job).endJob timer)
      else none

end FaultInjector

/-! ### The loop -/

/-- What the loop does next. -/
inductive FaultMove
  | inject (scenarioId : String) (ttlSeconds : Int) (hex : String)
  | injectReturned (request : Nat) (raised : Bool)
  | clear (scenarioId : String)
  | clearReturned (request : Nat) (raised : Bool)
  | jobResumed (timer : Nat) (raised : Bool)
  | tick

namespace FaultInjector

def step (s : FaultInjector) : FaultMove → Option FaultInjector
  | .inject scenarioId ttlSeconds hex => some (s.injectFault scenarioId ttlSeconds hex)
  | .injectReturned request raised => s.injectReturned request raised
  | .clear scenarioId => some (s.clearFault scenarioId)
  | .clearReturned request raised => s.clearReturned request raised
  | .jobResumed timer raised => s.jobResumed timer raised
  | .tick => some { s with clock := s.clock + 1 }

/-- Make the moves of a list in order. -/
def runs (s : FaultInjector) : List FaultMove → Option FaultInjector
  | [] => some s
  | move :: rest =>
      match s.step move with
      | some s' => s'.runs rest
      | none => none

end FaultInjector

end SelfHealing
