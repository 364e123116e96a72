/-
What is handed on through a run of the workflow.

A node hands on the state that it was given, with what it has found put into it, and most of the
keys are none of its business.  Which incident it is about no node ever changes, nor whether a plan
for it is approved.  What there is to wait for is set by the policy, by the wait for an approval and
by the verification, and by nobody else, so that it stays in the state after the node that has set
it.  The cause and the confidence are set by the diagnosis alone, when there is none yet.

A fact of that kind is stated once for a node and carried along the run by induction; the results
about approvals, diagnoses and retries take from here what is in the state at a node far from the
one that has put it there.
-/
import SelfHealing.Proofs.GraphGate
import SelfHealing.Proofs.Rules
import SelfHealing.Proofs.WorkerSteps

namespace SelfHealing

open Interleaving Interleaving.Prog ReadCommitted

/-- What most of the nodes leave as it was given to them. -/
structure Carries (s s' : IncidentGraphState) : Prop where
  incidentId : s'.incidentId = s.incidentId
  isApproved : s'.isApproved = s.isApproved
  waitReason : s'.waitReason = s.waitReason ∨ s'.waitReason = some .cooldown

/-- The diagnosis is the one that was given. -/
structure SameDiagnosis (s s' : IncidentGraphState) : Prop where
  id : s'.currentDiagnosisId = s.currentDiagnosisId
  rootCause : s'.rootCause = s.rootCause
  confidence : s'.confidence = s.confidence

/-- Nothing of all that is changed. -/
structure Forwards (s s' : IncidentGraphState) : Prop extends Carries s s', SameDiagnosis s s'

theorem Forwards.of_eq {s s' : IncidentGraphState} (hincident : s'.incidentId = s.incidentId)
    (happroved : s'.isApproved = s.isApproved) (hwait : s'.waitReason = s.waitReason)
    (hid : s'.currentDiagnosisId = s.currentDiagnosisId) (hcause : s'.rootCause = s.rootCause)
    (hconfidence : s'.confidence = s.confidence) : Forwards s s' :=
  { incidentId := hincident, isApproved := happroved, waitReason := Or.inl hwait, id := hid,
    rootCause := hcause, confidence := hconfidence }

section Nodes

variable {α : Type} {p : Nat} {actor : String} {state : IncidentGraphState}

/-! ### One node -/

theorem returns_executeWithPolicy {P : α → Prop} (node : WorkflowNode) {x : Prog α}
    (hx : Returns P x) : Returns P (executeWithPolicy node x) := by
  unfold executeWithPolicy
  split
  · exact Returns.handle hx (fun _ => Returns.handle hx (fun _ => hx))
  · exact hx

theorem returns_collectEvidenceNode :
    Returns (Forwards state) (collectEvidenceNode p actor state) := by
  unfold collectEvidenceNode
  split
  · exact returns_pure (.of_eq rfl rfl rfl rfl rfl rfl)
  · exact returns_bind (fun _ => returns_bind (fun _ => returns_bind (fun _ =>
      returns_pure (.of_eq rfl rfl rfl rfl rfl rfl))))

/-- The diagnosis is made where there is none. -/
theorem returns_diagnoseNode :
    Returns (fun s' => Carries state s' ∧
      (state.currentDiagnosisId ≠ none → SameDiagnosis state s'))
      (diagnoseNode p actor state) := by
  unfold diagnoseNode
  split
  · exact returns_pure ⟨⟨rfl, rfl, Or.inl rfl⟩, fun _ => ⟨rfl, rfl, rfl⟩⟩
  · rename_i hnone
    refine returns_bind (fun diag => returns_bind (fun id => returns_bind (fun inc => ?_)))
    simp only
    split
    · exact returns_pure ⟨⟨rfl, rfl, Or.inl rfl⟩, fun h => absurd hnone h⟩
    · exact returns_pure ⟨⟨rfl, rfl, Or.inl rfl⟩, fun h => absurd hnone h⟩

theorem returns_makePlan (diag : Diagnosis) (target : TargetBinding) :
    Returns (Forwards state) (makePlan p actor state diag target) := by
  refine returns_bind (fun draft => ?_)
  cases draft with
  | some draft =>
      exact returns_bind (fun _ => returns_bind (fun _ =>
        returns_pure (.of_eq rfl rfl rfl rfl rfl rfl)))
  | none =>
      exact returns_bind (fun _ => returns_bind (fun _ => returns_bind (fun _ =>
        returns_pure (.of_eq rfl rfl rfl rfl rfl rfl))))

theorem returns_planNode : Returns (Forwards state) (planNode p actor state) := by
  unfold planNode
  split
  · exact returns_pure (.of_eq rfl rfl rfl rfl rfl rfl)
  · exact returns_throw _
  · refine returns_unitOfWork (returns_bind (fun diag => ?_))
    cases diag with
    | none => exact returns_throw _
    | some diag =>
        refine returns_bind (fun resource => ?_)
        cases resource with
        | none => exact returns_throw _
        | some resource =>
            refine returns_bind (fun _ => Returns.handle (returns_makePlan _ _) (fun e => ?_))
            split
            · exact returns_bind (fun _ => returns_bind (fun _ =>
                returns_pure (.of_eq rfl rfl rfl rfl rfl rfl)))
            · exact returns_throw _

theorem returns_executeNode (adapter : ProviderAdapter) :
    Returns (Forwards state) (executeNode p actor adapter state) := by
  refine returns_bind (fun intent => returns_bind (fun prechecked => ?_))
  cases prechecked with
  | some reason =>
      exact returns_bind (fun _ => returns_pure (.of_eq rfl rfl rfl rfl rfl rfl))
  | none =>
      refine returns_bind (fun _ => returns_bind (fun outcome => ?_))
      split
      · exact returns_bind (fun _ => returns_pure (.of_eq rfl rfl rfl rfl rfl rfl))
      · exact returns_bind (fun _ => returns_pure (.of_eq rfl rfl rfl rfl rfl rfl))

/-- The verification may have to wait for a cooldown. -/
theorem returns_settleVerdict (verdict : VerdictAnswer) (cooldown : Int) :
    Returns (Forwards state) (settleVerdict p actor state verdict cooldown) := by
  refine returns_unitOfWork (returns_bind (fun found => returns_bind (fun _ => ?_)))
  split
  · exact returns_bind (fun _ => returns_pure (.of_eq rfl rfl rfl rfl rfl rfl))
  · split
    · exact returns_bind (fun _ => returns_pure (.of_eq rfl rfl rfl rfl rfl rfl))
    · simp only
      split
      · refine returns_bind (fun inc => returns_pure ?_)
        exact ⟨⟨rfl, rfl, Or.inr rfl⟩, ⟨rfl, rfl, rfl⟩⟩
      · exact returns_bind (fun _ => returns_pure (.of_eq rfl rfl rfl rfl rfl rfl))

theorem returns_verifyNode (cooldown : Int) :
    Returns (Forwards state) (verifyNode p actor state cooldown) := by
  unfold verifyNode
  split
  · exact returns_bind (fun _ => returns_bind (fun _ => returns_settleVerdict _ _))
  · exact returns_bind (fun _ => returns_settleVerdict _ _)

theorem returns_terminalNode (target : IncidentState) (status : WorkflowStatus) :
    Returns (Forwards state) (terminalNode p actor state target status) :=
  returns_bind (fun _ => returns_pure (.of_eq rfl rfl rfl rfl rfl rfl))

/-- **What a node hands on**, if it is neither the diagnosis nor the policy nor the wait. -/
theorem returns_node (services : WorkflowServices) (node : WorkflowNode)
    (hdiagnose : node ≠ .diagnose) (hpolicy : node ≠ .evaluatePolicy)
    (hwait : node ≠ .waitForApproval) :
    Returns (Forwards state) ((incidentWorkflow p actor services).node node state) := by
  refine returns_executeWithPolicy node ?_
  cases node with
  | collectEvidence => exact returns_collectEvidenceNode
  | diagnose => exact absurd rfl hdiagnose
  | plan => exact returns_planNode
  | evaluatePolicy => exact absurd rfl hpolicy
  | waitForApproval => exact absurd rfl hwait
  | execute => exact returns_executeNode _
  | verify => exact returns_verifyNode _
  | escalate => exact returns_terminalNode _ _
  | resolve => exact returns_terminalNode _ _

/-- What the policy hands on, but for what there is to wait for. -/
theorem decided_keeps (state : IncidentGraphState) (decision : PolicyEvaluationDecision)
    (id version : Nat) :
    (state.decided decision id version).incidentId = state.incidentId ∧
      (state.decided decision id version).isApproved = state.isApproved ∧
      SameDiagnosis state (state.decided decision id version) := by
  unfold IncidentGraphState.decided
  cases decision.decision with
  | allow => exact ⟨rfl, rfl, rfl, rfl, rfl⟩
  | requireApproval => exact ⟨rfl, rfl, rfl, rfl, rfl⟩
  | defer => exact ⟨rfl, rfl, rfl, rfl, rfl⟩
  | deny => exact ⟨rfl, rfl, rfl, rfl, rfl⟩

/-- What the wait hands on. -/
theorem took_waitForApprovalNode {s' : IncidentGraphState} {steps : List (Db × Db)}
    (h : (waitForApprovalNode state).Took steps (.ok s')) :
    steps = [] ∧ s'.incidentId = state.incidentId ∧ s'.isApproved = state.isApproved ∧
      SameDiagnosis state s' ∧ (s'.waitReason = none ∨ s'.waitReason = some .awaitingApproval) := by
  unfold waitForApprovalNode at h
  split at h
  · obtain ⟨rfl, heq⟩ := took_pure.mp h
    rw [Except.ok.inj heq]
    exact ⟨rfl, rfl, rfl, ⟨rfl, rfl, rfl⟩, Or.inl rfl⟩
  · split at h
    · obtain ⟨rfl, heq⟩ := took_pure.mp h
      rw [Except.ok.inj heq]
      exact ⟨rfl, rfl, rfl, ⟨rfl, rfl, rfl⟩, Or.inl rfl⟩
    · obtain ⟨rfl, heq⟩ := took_pure.mp h
      rw [Except.ok.inj heq]
      exact ⟨rfl, rfl, rfl, ⟨rfl, rfl, rfl⟩, Or.inr rfl⟩

end Nodes

/-! ### A whole run

A run is a list of visits, each with the state that it has handed on.  What every node leaves alone
is the same at the end as at the beginning; what one node sets is what it has set, from its last
visit on.
-/

section Run

variable {p : Nat} {actor : String} {services : WorkflowServices} {s₀ s : IncidentGraphState}
  {node : WorkflowNode} {visits : List (Visit Db WorkflowNode IncidentGraphState)}

/-- Which incident it is, and whether it is approved, no node ever changes. -/
theorem took_node_keeps {s' : IncidentGraphState} {steps : List (Db × Db)}
    (h : ((incidentWorkflow p actor services).node node s).Took steps (.ok s')) :
    s'.incidentId = s.incidentId ∧ s'.isApproved = s.isApproved := by
  by_cases hdiagnose : node = .diagnose
  · subst hdiagnose
    obtain ⟨hcarries, -⟩ := (returns_executeWithPolicy .diagnose returns_diagnoseNode).took h
    exact ⟨hcarries.incidentId, hcarries.isApproved⟩
  · by_cases hpolicy : node = .evaluatePolicy
    · subst hpolicy
      obtain ⟨decision, id, version, rfl⟩ := took_evaluatePolicyNode h
      have hkeeps := decided_keeps s decision id version
      exact ⟨hkeeps.1, hkeeps.2.1⟩
    · by_cases hwait : node = .waitForApproval
      · subst hwait
        obtain ⟨-, hincident, happroved, -⟩ := took_waitForApprovalNode h
        exact ⟨hincident, happroved⟩
      · have hforwards := (returns_node services node hdiagnose hpolicy hwait).took h
        exact ⟨hforwards.incidentId, hforwards.isApproved⟩

theorem comes_keeps
    (h : (incidentWorkflow p actor services).Comes .collectEvidence s₀ visits node s) :
    s.incidentId = s₀.incidentId ∧ s.isApproved = s₀.isApproved := by
  induction h with
  | start => exact ⟨rfl, rfl⟩
  | visit _ ht _ ih =>
      obtain ⟨hincident, happroved⟩ := took_node_keeps ht
      exact ⟨hincident.trans ih.1, happroved.trans ih.2⟩

/-! #### The way to the policy -/

/-- A retry that is left has to wait for its cooldown. -/
theorem returns_verifyNode_retry {state : IncidentGraphState} (cooldown : Int) :
    Returns (fun s' => s'.retryEligible = some true → s'.waitReason = some .cooldown)
      (verifyNode p actor state cooldown) := by
  have hsettle : ∀ verdict, Returns
      (fun s' : IncidentGraphState => s'.retryEligible = some true → s'.waitReason = some .cooldown)
      (settleVerdict p actor state verdict cooldown) := by
    intro verdict
    refine returns_unitOfWork (returns_bind (fun found => returns_bind (fun _ => ?_)))
    split
    · exact returns_bind (fun _ => returns_pure (fun h => by cases h))
    · split
      · exact returns_bind (fun _ => returns_pure (fun h => by cases h))
      · simp only
        split
        · exact returns_bind (fun _ => returns_pure (fun _ => rfl))
        · exact returns_bind (fun _ => returns_pure (fun h => by cases h))
  unfold verifyNode
  split
  · exact returns_bind (fun _ => returns_bind (fun _ => hsettle _))
  · exact returns_bind (fun _ => hsettle _)

/-- The nodes after the policy. -/
def WorkflowNode.afterPolicy : WorkflowNode → Bool
  | .collectEvidence | .diagnose | .plan | .evaluatePolicy => false
  | _ => true

/-- Where a run has come to: on its way to the policy it has visited each node once. -/
inductive Path (p : Nat) (actor : String) (services : WorkflowServices) (s₀ : IncidentGraphState) :
    List (Visit Db WorkflowNode IncidentGraphState) → WorkflowNode → IncidentGraphState → Prop
  | begun : Path p actor services s₀ [] .collectEvidence s₀
  | collected {s₁ : IncidentGraphState} {l₁ : List (Db × Db)}
      (hcollect : (executeWithPolicy .collectEvidence (collectEvidenceNode p actor s₀)).Took l₁
        (.ok s₁)) :
      Path p actor services s₀ [⟨.collectEvidence, s₀, l₁, s₁⟩] .diagnose s₁
  | diagnosed {s₁ s₂ : IncidentGraphState} {l₁ l₂ : List (Db × Db)}
      (hcollect : (executeWithPolicy .collectEvidence (collectEvidenceNode p actor s₀)).Took l₁
        (.ok s₁))
      (hdiagnose : (diagnoseNode p actor s₁).Took l₂ (.ok s₂)) :
      Path p actor services s₀ [⟨.collectEvidence, s₀, l₁, s₁⟩, ⟨.diagnose, s₁, l₂, s₂⟩] .plan s₂
  | planned {s₁ s₂ s₃ : IncidentGraphState} {l₁ l₂ l₃ : List (Db × Db)}
      (hcollect : (executeWithPolicy .collectEvidence (collectEvidenceNode p actor s₀)).Took l₁
        (.ok s₁))
      (hdiagnose : (diagnoseNode p actor s₁).Took l₂ (.ok s₂))
      (hplan : (planNode p actor s₂).Took l₃ (.ok s₃)) :
      Path p actor services s₀
        [⟨.collectEvidence, s₀, l₁, s₁⟩, ⟨.diagnose, s₁, l₂, s₂⟩, ⟨.plan, s₂, l₃, s₃⟩]
        .evaluatePolicy s₃
  | past {visits : List (Visit Db WorkflowNode IncidentGraphState)} {node : WorkflowNode}
      {s : IncidentGraphState} (hnode : node.afterPolicy = true) :
      Path p actor services s₀ visits node s

/-- From the nodes after the policy no edge leads back, once a retry has to wait. -/
theorem next_afterPolicy {node' : WorkflowNode} {s' : IncidentGraphState}
    (h : node.next s' = some node') (hnode : node.afterPolicy = true ∨ node = .evaluatePolicy)
    (hretry : node = .verify → s'.retryEligible = some true → s'.waitReason = some .cooldown) :
    node'.afterPolicy = true := by
  cases node with
  | collectEvidence | diagnose | plan => simp [WorkflowNode.afterPolicy] at hnode
  | verify =>
      simp only [WorkflowNode.next] at h
      split at h
      · cases h
      · rename_i hwait
        split at h
        · cases h
          rfl
        · split at h
          · rename_i hleft
            exact absurd (hretry rfl hleft) hwait
          · cases h
            rfl
  | evaluatePolicy | waitForApproval | execute | escalate | resolve =>
      simp only [WorkflowNode.next] at h
      grind [WorkflowNode.afterPolicy]

theorem comes_path
    (h : (incidentWorkflow p actor services).Comes .collectEvidence s₀ visits node s) :
    Path p actor services s₀ visits node s := by
  induction h with
  | start => exact .begun
  | @visit visits n n' s s' steps hcomes ht hnext ih =>
      have hnext' : n.next s' = some n' := hnext
      cases ih with
      | begun =>
          simp only [WorkflowNode.next, Option.some.injEq] at hnext'
          subst hnext'
          exact .collected ht
      | collected hcollect =>
          simp only [WorkflowNode.next] at hnext'
          split at hnext'
          · cases hnext'
            exact .past rfl
          · cases hnext'
            exact .diagnosed hcollect ht
      | diagnosed hcollect hdiagnose =>
          simp only [WorkflowNode.next] at hnext'
          split at hnext'
          · cases hnext'
            exact .past rfl
          · cases hnext'
            exact .planned hcollect hdiagnose ht
      | planned hcollect hdiagnose hplan =>
          exact .past (next_afterPolicy hnext' (Or.inr rfl) (fun h => by cases h))
      | past hnode =>
          refine .past (next_afterPolicy hnext' (Or.inl hnode) ?_)
          rintro rfl
          exact (returns_executeWithPolicy .verify (returns_verifyNode_retry _)).took ht

/-! #### Where it begins -/

/-- The run is about the incident that it was begun for. -/
theorem returns_inspectIncident {i : Nat} {expectedVersion : Option Nat}
    {arranged : List Diagnosis → List Diagnosis} :
    Returns (fun found => ∀ r, found = some r → r.incidentId = i)
      (inspectIncident p actor i expectedVersion arranged) := by
  refine returns_unitOfWork (returns_bind (fun found => ?_))
  cases found with
  | none => exact returns_throw _
  | some incident =>
      simp only
      split
      · exact returns_pure (fun r h => by cases h)
      · split
        · exact returns_pure (fun r h => by cases h)
        · have hread : Returns (fun r => r.incidentId = i) (reconstruct i incident arranged) :=
            returns_bind (fun _ => returns_bind (fun _ => returns_bind (fun _ => returns_bind
              (fun _ => returns_pure rfl))))
          refine hread.bind (fun r hr => returns_pure ?_)
          intro r' heq
          rw [← Option.some.inj heq]
          exact hr

/-- Each part of where the run begins is read in one of the steps: the rows of the incident, of its
plans, of its evidence, of its diagnoses and of the decisions on its plans. -/
structure ReadIn (p i : Nat) (arranged : List Diagnosis → List Diagnosis) (steps : List (Db × Db))
    (r : Reconstruction) : Prop where
  incident : ∃ q ∈ steps, (q.1.incidents i).visible ⟨p, 0⟩ = some r.incident
  plans : ∃ q ∈ steps, r.plans = q.1.plans.reverse.filter fun plan => plan.incidentId = i
  evidence : ∃ q ∈ steps, r.evidence = q.1.evidence i
  diagnoses : ∃ q ∈ steps,
    r.diagnoses = arranged (q.1.diagnoses.reverse.filter fun diag => diag.incidentId = i)
  approvals : ∃ q ∈ steps, r.approvals = q.1.approvals.reverse.filter fun approval =>
    r.plans.any fun plan => plan.id = approval.planId

/-- **Where a run begins is what it has read.** -/
theorem took_inspectIncident {i : Nat} {expectedVersion : Option Nat}
    {arranged : List Diagnosis → List Diagnosis} {r : Reconstruction} {steps : List (Db × Db)}
    (h : (inspectIncident p actor i expectedVersion arranged).Took steps (.ok (some r))) :
    ReadIn p i arranged steps r := by
  rcases took_unitOfWork_block h with ⟨-, e, hbad⟩ | hblock
  · simp at hbad
  cases hblock with
  | committed _ begun ended l hbody =>
      obtain ⟨found, l₁, l₂, rfl, hread, hrest⟩ := took_bind_ok hbody
      obtain ⟨first, rfl, rfl⟩ := took_select_ok hread
      cases hrow : (first.incidents i).visible ⟨p, 0⟩ with
      | none =>
          rw [hrow] at hrest
          obtain ⟨-, hbad⟩ := took_throw.mp hrest
          simp at hbad
      | some incident =>
          rw [hrow] at hrest
          simp only at hrest
          split at hrest
          · obtain ⟨-, hbad⟩ := took_pure.mp hrest
            simp at hbad
          split at hrest
          · obtain ⟨-, hbad⟩ := took_pure.mp hrest
            simp at hbad
          obtain ⟨r', l₃, l₄, rfl, hreconstruct, hpure⟩ := took_bind_ok hrest
          obtain ⟨rfl, heq⟩ := took_pure.mp hpure
          obtain ⟨plans, m₁, m₂, rfl, hplans, hrest₁⟩ := took_bind_ok hreconstruct
          obtain ⟨evidence, m₃, m₄, rfl, hevidence, hrest₂⟩ := took_bind_ok hrest₁
          obtain ⟨diagnoses, m₅, m₆, rfl, hdiagnoses, hrest₃⟩ := took_bind_ok hrest₂
          obtain ⟨approvals, m₇, m₈, rfl, happrovals, hrest₄⟩ := took_bind_ok hrest₃
          obtain ⟨s₁, rfl, rfl⟩ := took_select_ok hplans
          obtain ⟨s₂, rfl, rfl⟩ := took_select_ok hevidence
          obtain ⟨s₃, rfl, rfl⟩ := took_select_ok hdiagnoses
          obtain ⟨s₄, rfl, rfl⟩ := took_select_ok happrovals
          obtain ⟨rfl, hr⟩ := took_pure.mp hrest₄
          rw [Option.some.inj (Except.ok.inj heq), Except.ok.inj hr]
          exact
            { incident := ⟨(first, first), by simp, hrow⟩
              plans := ⟨(s₁, s₁), by simp, rfl⟩
              evidence := ⟨(s₂, s₂), by simp, rfl⟩
              diagnoses := ⟨(s₃, s₃), by simp, rfl⟩
              approvals := ⟨(s₄, s₄), by simp, rfl⟩ }

/-- What the graph begins with. -/
theorem initialState_begins (r : Reconstruction) (saved : Option IncidentGraphState)
    (metadata : ResumeMetadata) :
    (r.initialState saved metadata).incidentId = r.incidentId ∧
      (r.initialState saved metadata).isApproved = some r.isApproved ∧
      (r.initialState saved metadata).waitReason = none := by
  unfold Reconstruction.initialState
  cases r.latestPlan with
  | none => exact ⟨rfl, rfl, rfl⟩
  | some plan => exact ⟨rfl, rfl, rfl⟩

end Run

end SelfHealing
