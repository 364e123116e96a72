/-
Which restarts a plan has planned.

The execution node looks for the step of a plan that restarts the container, and takes the first
step where there is none; and what the step does not say of its target it takes from the state of
the workflow.  So a restart that is issued is the planned one exactly if the plan has a step that
restarts, and the first of these says which container it means, and which generation of it.

The restart is traced back through the steps of its call, as its leave is: the intent comes from
the transaction that has read the plan and its steps.

The claim speaks of the restart that was approved; the approval is of the plan, and the plan may
have no restart among its steps.  Nothing in the node asks for the action of the step that it has
taken.
-/
import SelfHealing.Proofs.Authorisation

namespace SelfHealing

open Interleaving Interleaving.Prog ReadCommitted

/-! ### Plans and intents -/

/-- The step that restarts. -/
def restartStep (steps : List RemediationStep) : Option RemediationStep :=
  steps.find? fun step => step.action = "restart_container"

/-- The restart is the one of the steps: its target and its time limit are those of a step that
restarts; a step that gives no time limit means thirty seconds. -/
def PlannedRestart (steps : List RemediationStep) (intent : ExecutionIntent) : Prop :=
  ∃ step, restartStep steps = some step ∧ intent.stepId = step.id ∧
    step.containerId = some intent.containerId ∧
    step.bindingGeneration = some intent.bindingGeneration ∧
    step.timeoutSeconds.getD 30 = intent.timeoutSeconds

/-- There is a step that restarts, and it says which container of which generation. -/
def NamesTarget (steps : List RemediationStep) : Prop :=
  ∃ step, restartStep steps = some step ∧ step.containerId.isSome = true ∧
    step.bindingGeneration.isSome = true

/-- What the node makes of the step that it has taken. -/
theorem planned_intent_iff {steps : List RemediationStep} {step : RemediationStep}
    (hstep : targetStep steps = some step) (state : IncidentGraphState) (plan : RemediationPlan) :
    PlannedRestart steps (state.intent plan step) ↔ NamesTarget steps := by
  have htaken : ∀ first, restartStep steps = some first → step = first := by
    intro first hfirst
    have htarget : targetStep steps = (restartStep steps).or steps.head? := rfl
    rw [htarget, hfirst] at hstep
    exact (Option.some.inj hstep).symm
  constructor
  · rintro ⟨first, hfirst, -, hcontainer, hgeneration, -⟩
    refine ⟨first, hfirst, ?_, ?_⟩
    · rw [hcontainer]
      rfl
    · rw [hgeneration]
      rfl
  · rintro ⟨first, hfirst, hcontainer, hgeneration⟩
    obtain rfl := htaken first hfirst
    obtain ⟨container, hcontainer⟩ := Option.isSome_iff_exists.mp hcontainer
    obtain ⟨generation, hgeneration⟩ := Option.isSome_iff_exists.mp hgeneration
    refine ⟨step, hfirst, rfl, ?_, ?_, rfl⟩
    · simp only [IncidentGraphState.intent, hcontainer, Option.getD_some]
    · simp only [IncidentGraphState.intent, hgeneration, Option.getD_some]

/-! ### The way from the plan

The part of the run before the adapter is a read, with the intent that is made from it, and a
precheck; the intent is handed on as it is.  So a restart that is issued is for an intent that was
made from rows of the plan, and it is enough to look at how it was made.
-/

/-- What has been read of a plan is that plan. -/
theorem took_getPlanWithSteps {planId : Nat} {plan : RemediationPlan}
    {found : List RemediationStep} {l : List (Db × Db)}
    (h : (getPlanWithSteps planId).Took l (.ok (some plan, found))) : plan.id = planId := by
  obtain ⟨row, l₁, l₂, rfl, hselect, hrest⟩ := took_bind_ok h
  obtain ⟨s, rfl, hfound⟩ := took_select_ok hselect
  cases row with
  | none =>
      obtain ⟨-, hpair⟩ := took_pure.mp hrest
      cases hpair
  | some row =>
      obtain ⟨steps, l₃, l₄, rfl, -, hpair⟩ := took_bind_ok hrest
      obtain ⟨-, hpair⟩ := took_pure.mp hpair
      cases hpair
      simpa using List.find?_some hfound.symm

/-- An intent that the node has got is made of a step of the plan that it has read. -/
theorem took_retrieveIntent {p : Nat} {actor : String} {state : IncidentGraphState}
    {intent : ExecutionIntent} {l : List (Db × Db)}
    (h : (retrieveIntent p actor state).Took l (.ok intent)) :
    ∃ before read after plan found step, l = before ++ read ++ after ∧
      (getPlanWithSteps plan.id).Took read (.ok (some plan, found)) ∧
      targetStep found = some step ∧ intent = state.intent plan step := by
  unfold retrieveIntent at h
  cases hplan : state.currentPlanId with
  | none =>
      rw [hplan] at h
      obtain ⟨-, hbad⟩ := took_throw.mp h
      cases hbad
  | some planId =>
      rw [hplan] at h
      obtain ⟨before, l, after, rfl, hbody⟩ := took_unitOfWork h
      obtain ⟨⟨row, found⟩, read, l', rfl, hread, hrest⟩ := took_bind_ok hbody
      cases row with
      | none =>
          obtain ⟨-, hbad⟩ := took_throw.mp hrest
          cases hbad
      | some plan =>
          cases hstep : targetStep found with
          | none =>
              simp only [hstep] at hrest
              obtain ⟨-, hbad⟩ := took_throw.mp hrest
              cases hbad
          | some step =>
              simp only [hstep] at hrest
              obtain ⟨rfl, hintent⟩ := took_pure.mp hrest
              refine ⟨before, read, after, plan, found, step, by simp, ?_, hstep,
                Except.ok.inj hintent⟩
              rw [took_getPlanWithSteps hread]
              exact hread

/-- **A restart is the planned one exactly if the plan names it.**  For every restart that an
execution node has issued, in any interleaving with other nodes and with operators: the steps of
its plan, as the node has read them earlier in the same call, have planned that restart if and only
if one of them restarts, and the first of these says which container of which generation. -/
theorem restart_planned_iff {db₀ : Db} {c : Config World Db} {steps : Nat → List (Db × Db)}
    (h : Recorded nodeMachine db₀ c steps) {p : Nat} {earlier later : List (Db × Db)} {s s' : Db}
    {intent : ExecutionIntent} (hsteps : steps p = earlier ++ (s, s') :: later)
    (hissued : s'.log = .restartIssued p intent :: s.log) :
    ∃ before read after plan found, earlier = before ++ read ++ after ∧
      (getPlanWithSteps intent.planId).Took read (.ok (some plan, found)) ∧
      (PlannedRestart found intent ↔ NamesTarget found) := by
  obtain ⟨call, y, hwent⟩ := h.went_upto hsteps
  obtain ⟨retrieved, prechecked, between, lock, after, rfl,
    ⟨proposed, pre, snapshot, hintent, hretrieved, -⟩, -⟩ :=
    began_executeNode hissued (began_of_went hwent)
  obtain ⟨l, read, l', plan, found, step, rfl, hread, hstep, hproposed⟩ :=
    took_retrieveIntent hretrieved
  have hplanned := planned_intent_iff hstep call.state plan
  rw [← hproposed] at hplanned
  have hplan : intent.planId = plan.id := by rw [hintent, hproposed]; rfl
  have hsame : PlannedRestart found intent ↔ PlannedRestart found proposed := by
    rw [hintent]
    exact Iff.rfl
  refine ⟨l, read, l' ++ prechecked ++ between ++ lock ++ after, plan, found, by simp, ?_,
    hsame.trans hplanned⟩
  rw [hplan]
  exact hread

/-- The moves of a node that carries out the plan of the demo. -/
def nodeMoves : List (Move World NodeCall OperatorEnv) :=
  .start 0 ⟨⟨0, "worker:a"⟩, { incidentId := 1, resourceId := 4, currentPlanId := some 2 }⟩ ::
    List.replicate 44 (.run 0 managedContainer)

/-- The restart that a plan has asked for. -/
theorem restart_planned_of_demo :
    ∃ c steps, Recorded nodeMachine approvedDemo c steps ∧
      ∃ q ∈ steps 0, q.2.log = .restartIssued 0 approvedRestart :: q.1.log ∧
        ∃ read plan found, (getPlanWithSteps 2).Took read (.ok (some plan, found)) ∧
          (PlannedRestart found approvedRestart ↔ NamesTarget found) := by
  obtain ⟨c, steps, hr, htest⟩ := Machine.recorded_of_exec nodeMachine approvedDemo nodeMoves
    (fun _ steps => (steps 0).any fun q =>
      decide (q.2.log = .restartIssued 0 approvedRestart :: q.1.log)) (by decide +kernel)
  obtain ⟨q, hq, hlog⟩ := List.any_eq_true.mp htest
  simp only [decide_eq_true_eq] at hlog
  obtain ⟨earlier, later, hsteps⟩ := List.append_of_mem hq
  obtain ⟨before, read, after, plan, found, -, hread, hiff⟩ :=
    restart_planned_iff hr hsteps hlog
  exact ⟨c, steps, hr, q, hq, hlog, read, plan, found, hread, hiff⟩

/-- The demo with a plan that only looks at the container. -/
def inspectDemo : Db :=
  { approvedDemo with
    steps := [⟨3, 2, 4, 1, "inspect_container", some "0123456789ab", some 1, none, none⟩] }

/-- **A restart that nobody has planned**: of a plan without a restart, the first step is carried
out as one. -/
theorem restart_unplanned :
    (∀ step ∈ inspectDemo.stepsOf 2, step.action ≠ "restart_container") ∧
      ∃ c, Reaches nodeMachine (Config.idle inspectDemo) c ∧
        Event.restartIssued 0 approvedRestart ∈ c.state.log ∧
        ¬ PlannedRestart (inspectDemo.stepsOf 2) approvedRestart := by
  have hnone : ∀ step ∈ inspectDemo.stepsOf 2, step.action ≠ "restart_container" := by decide
  obtain ⟨c, hr, htest⟩ := Machine.reaches_of_exec nodeMachine (Config.idle inspectDemo) nodeMoves
    (fun db => decide (Event.restartIssued 0 approvedRestart ∈ db.log)) (by decide +kernel)
  refine ⟨hnone, c, hr, of_decide_eq_true htest, ?_⟩
  rintro ⟨step, hstep, -⟩
  have haction := List.find?_some hstep
  exact hnone step (List.mem_of_find?_eq_some hstep) (of_decide_eq_true haction)

end SelfHealing
