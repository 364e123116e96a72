/-
No execution without a policy decision for it.

The edges lead to the execution from two nodes only.  One is the policy, whose decision is what
the edge reads; the other is the wait for an approval, to which only the policy leads.  So of all
that a run has visited when it comes to execute, the last visit is one of the policy, or the last
but one is, and what else the nodes put into the state makes no difference.

Nothing has to be known of what the nodes do.  A node may raise, or leave the state as it likes; it
does not choose where the run goes next, as this is read off the state by the edges.
-/
import SelfHealing.Proofs.Transactions
import SelfHealing.Workflow.Runner

namespace SelfHealing

open Interleaving

/-- The workflow with any nodes but the one of the policy, and any policy engine. -/
def gatedWorkflow (p : Nat) (actor : String)
    (evaluate : EvaluationContext → Except Err PolicyEvaluationDecision)
    (nodes : WorkflowNode → IncidentGraphState → Prog IncidentGraphState) :
    StateGraph World Db Err WorkflowNode IncidentGraphState where
  node := fun node state =>
    if node = .evaluatePolicy then evaluatePolicyNode p actor state evaluate
    else nodes node state
  next := fun node state => node.next state

/-- The workflow as it is built is one of them. -/
theorem incidentWorkflow_eq_gated (p : Nat) (actor : String) (services : WorkflowServices) :
    incidentWorkflow p actor services = gatedWorkflow p actor services.evaluate
      (incidentWorkflow p actor services).node := by
  unfold gatedWorkflow incidentWorkflow
  congr 1
  funext node state
  split
  · rename_i h
    rw [h]
    rfl
  · rfl

/-! ### One edge -/

/-- The policy node, by its parts: it has looked, it has decided, and has stored what it decided. -/
structure Decides (p : Nat) (actor : String) (state : IncidentGraphState)
    (evaluate : EvaluationContext → Except Err PolicyEvaluationDecision) (planId : Nat)
    (ctx : EvaluationContext) (decision : PolicyEvaluationDecision) (id : Nat)
    (inc : Option Incident) (looked stored : List (Db × Db)) : Prop where
  plan : state.currentPlanId = some planId
  looks : (policyContext p actor state planId).Took looked (.ok ctx)
  decides : evaluate ctx = .ok decision
  stores : (applyDecision p actor state planId ctx decision).Took stored (.ok (id, inc))

theorem took_evaluatePolicyNode_parts {p : Nat} {actor : String} {state s' : IncidentGraphState}
    {evaluate : EvaluationContext → Except Err PolicyEvaluationDecision} {steps : List (Db × Db)}
    (h : (evaluatePolicyNode p actor state evaluate).Took steps (.ok s')) :
    ∃ planId ctx decision id inc looked stored, steps = looked ++ stored ∧
      s' = state.decided decision id ((inc.map Incident.version).getD state.version) ∧
      Decides p actor state evaluate planId ctx decision id inc looked stored := by
  unfold evaluatePolicyNode at h
  split at h
  · obtain ⟨-, hr⟩ := Interleaving.Prog.took_throw.mp h
    cases hr
  · rename_i planId hplan
    obtain ⟨ctx, looked, l₁, rfl, hlooks, h₁⟩ := took_bind_ok h
    obtain ⟨decision, l₂, l₃, rfl, hchecked, h₂⟩ := took_bind_ok h₁
    obtain ⟨rfl, hdecides⟩ := took_check_ok hchecked
    obtain ⟨⟨id, inc⟩, stored, l₄, rfl, hstores, h₃⟩ := took_bind_ok h₂
    obtain ⟨rfl, hr⟩ := Interleaving.Prog.took_pure.mp h₃
    exact ⟨planId, ctx, decision, id, inc, looked, stored, by simp, Except.ok.inj hr,
      hplan, hlooks, hdecides, hstores⟩

/-- What the policy node hands on is what it has decided. -/
theorem took_evaluatePolicyNode {p : Nat} {actor : String} {state s' : IncidentGraphState}
    {evaluate : EvaluationContext → Except Err PolicyEvaluationDecision} {steps : List (Db × Db)}
    (h : (evaluatePolicyNode p actor state evaluate).Took steps (.ok s')) :
    ∃ decision id version, s' = state.decided decision id version := by
  obtain ⟨planId, ctx, decision, id, inc, looked, stored, -, heq, -⟩ :=
    took_evaluatePolicyNode_parts h
  exact ⟨decision, id, _, heq⟩

/-- From the policy to the execution: it was allowed, or it is approved. -/
theorem next_policy_execute {state : IncidentGraphState} {decision : PolicyEvaluationDecision}
    {id version : Nat}
    (h : WorkflowNode.evaluatePolicy.next (state.decided decision id version) = some .execute) :
    (state.decided decision id version).policyDecision = some .allow ∨
      (state.decided decision id version).policyDecision = some .requireApproval ∧
        (state.decided decision id version).isApproved = some true := by
  cases hd : decision.decision with
  | allow => exact Or.inl (by simp [IncidentGraphState.decided, hd])
  | deny => simp [IncidentGraphState.decided, WorkflowNode.next, hd] at h
  | defer => simp [IncidentGraphState.decided, WorkflowNode.next, hd] at h
  | requireApproval =>
      refine Or.inr ⟨by simp [IncidentGraphState.decided, hd], ?_⟩
      by_contra hno
      have hno' : state.isApproved ≠ some true := by
        simpa [IncidentGraphState.decided, hd] using hno
      simp [IncidentGraphState.decided, WorkflowNode.next, hd, hno'] at h

/-- From the policy to the wait: an approval is required. -/
theorem next_policy_wait {state : IncidentGraphState} {decision : PolicyEvaluationDecision}
    {id version : Nat}
    (h : WorkflowNode.evaluatePolicy.next (state.decided decision id version) =
      some .waitForApproval) :
    (state.decided decision id version).policyDecision = some .requireApproval := by
  cases hd : decision.decision with
  | requireApproval => simp [IncidentGraphState.decided, hd]
  | allow => simp [IncidentGraphState.decided, WorkflowNode.next, hd] at h
  | deny => simp [IncidentGraphState.decided, WorkflowNode.next, hd] at h
  | defer => simp [IncidentGraphState.decided, WorkflowNode.next, hd] at h

theorem next_eq_wait {node : WorkflowNode} {state : IncidentGraphState}
    (h : node.next state = some .waitForApproval) : node = .evaluatePolicy := by
  cases node <;> simp only [WorkflowNode.next] at h <;> grind

theorem next_eq_execute {node : WorkflowNode} {state : IncidentGraphState}
    (h : node.next state = some .execute) :
    node = .evaluatePolicy ∨ node = .waitForApproval ∧ state.isApproved = some true := by
  cases node <;> simp only [WorkflowNode.next] at h <;> grind

/-! ### A whole run

The induction is over the visits of a run, from the last one back.  Only the last two matter: the
edge into the execution has been taken from the policy, or from the wait, and into the wait there
is one edge, which leads from the policy as well.
-/

section Run

variable {p : Nat} {actor : String}
  {evaluate : EvaluationContext → Except Err PolicyEvaluationDecision}
  {nodes : WorkflowNode → IncidentGraphState → Prog IncidentGraphState}
  {s₀ s : IncidentGraphState} {visits : List (Visit Db WorkflowNode IncidentGraphState)}

/-- A run that comes to the wait has just been at the policy, which requires an approval. -/
theorem comes_wait
    (h : (gatedWorkflow p actor evaluate nodes).Comes .collectEvidence s₀ visits
      .waitForApproval s) :
    ∃ earlier v, visits = earlier ++ [v] ∧ v.node = .evaluatePolicy ∧
      v.result.policyDecision = some .requireApproval := by
  cases h with
  | visit h ht hnext =>
      have hnode := next_eq_wait hnext
      subst hnode
      obtain ⟨decision, id, version, rfl⟩ := took_evaluatePolicyNode ht
      exact ⟨_, _, rfl, rfl, next_policy_wait hnext⟩

/-- **The gate.**  A run that comes to execute has visited the policy since it last did, and the
last decision was to allow it, or to require an approval, which there is. -/
theorem execute_gated
    (h : (gatedWorkflow p actor evaluate nodes).Comes .collectEvidence s₀ visits .execute s) :
    ∃ earlier v later, visits = earlier ++ v :: later ∧ v.node = .evaluatePolicy ∧
      (∀ u ∈ later, u.node ≠ .evaluatePolicy ∧ u.node ≠ .execute) ∧
      (v.result.policyDecision = some .allow ∨
        v.result.policyDecision = some .requireApproval ∧ s.isApproved = some true) := by
  cases h with
  | visit h ht hnext =>
      rcases next_eq_execute hnext with hnode | ⟨hnode, happroved⟩
      · subst hnode
        obtain ⟨decision, id, version, rfl⟩ := took_evaluatePolicyNode ht
        exact ⟨_, _, [], rfl, rfl, by simp, next_policy_execute hnext⟩
      · subst hnode
        obtain ⟨earlier, v, rfl, hv, hrequire⟩ := comes_wait h
        refine ⟨earlier, v, [_], by rw [List.append_assoc]; rfl, hv, ?_, Or.inr
          ⟨hrequire, happroved⟩⟩
        simp

end Run

/-- A workflow that has a plan and an approval for it. -/
def approvedState : IncidentGraphState :=
  { incidentId := 0, resourceId := 0, currentPlanId := some 0, isApproved := some true }

/-- A plan for which there is an approval is decided on before it is executed. -/
theorem approved_execution_gated :
    ∃ visits s, (gatedWorkflow 0 "worker" defaultPolicy (fun _ s => pure s)).Comes
      .collectEvidence approvedState visits .execute s ∧
    ∃ earlier v later, visits = earlier ++ v :: later ∧ v.node = .evaluatePolicy ∧
      (∀ u ∈ later, u.node ≠ .evaluatePolicy ∧ u.node ≠ .execute) ∧
      (v.result.policyDecision = some .allow ∨
        v.result.policyDecision = some .requireApproval ∧ s.isApproved = some true) := by
  obtain ⟨r, db', hends, htest⟩ := Interleaving.Prog.ends_of_solo
    (evaluatePolicyNode 0 "worker" approvedState defaultPolicy)
    (List.replicate 20 {}) (Db.init 0)
    (fun r _ => match r with
      | .ok s => decide (WorkflowNode.evaluatePolicy.next s = some .execute)
      | .error _ => false)
    (by decide +kernel)
  obtain ⟨steps, htook⟩ := hends.took
  cases r with
  | error e => cases htest
  | ok s =>
      let G := gatedWorkflow 0 "worker" defaultPolicy (fun _ s => pure s)
      have hskip : ∀ node, node ≠ .evaluatePolicy →
          (G.node node approvedState).Took [] (.ok approvedState) := by
        intro node hne
        show Interleaving.Prog.Took (if node = .evaluatePolicy then _ else pure approvedState) _ _
        rw [if_neg hne]
        exact Interleaving.Prog.took_pure.mpr ⟨rfl, rfl⟩
      have hdiagnose : G.Comes .collectEvidence approvedState _ .diagnose approvedState :=
        .visit .start (hskip _ (by decide)) rfl
      have hplan : G.Comes .collectEvidence approvedState _ .plan approvedState :=
        .visit hdiagnose (hskip _ (by decide)) rfl
      have hpolicy : G.Comes .collectEvidence approvedState _ .evaluatePolicy approvedState :=
        .visit hplan (hskip _ (by decide)) rfl
      have hexecute : G.Comes .collectEvidence approvedState _ .execute s :=
        .visit hpolicy htook (of_decide_eq_true htest)
      exact ⟨_, _, hexecute, execute_gated hexecute⟩

end SelfHealing
