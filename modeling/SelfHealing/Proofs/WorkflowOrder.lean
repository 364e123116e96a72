/-
The workflow goes forward.

The graph has an edge that leads from the verification back to the diagnosis.  No run takes it: a
verification that leaves a retry has the workflow wait for its cooldown, and a run that waits ends
there.  So a run comes to each node once at most, and the number of nodes that it may take is never
used up.

The nodes are ranked, and every edge that a run can take leads to a higher rank; the edge back is
one that no run takes, by what the verification puts into the state.
-/
import SelfHealing.Lib.Ascending
import SelfHealing.Proofs.WorkflowRuns

namespace SelfHealing

open Interleaving Interleaving.Prog

/-- When a run comes to a node; it ends in one of two. -/
def WorkflowNode.stage : WorkflowNode → Nat
  | .collectEvidence => 0
  | .diagnose => 1
  | .plan => 2
  | .evaluatePolicy => 3
  | .waitForApproval => 4
  | .execute => 5
  | .verify => 6
  | .escalate | .resolve => 7

theorem WorkflowNode.stage_lt (node : WorkflowNode) : node.stage < 8 := by
  cases node with
  | _ => decide

/-- Every edge leads on, but for the one that a retry takes that need not wait. -/
theorem WorkflowNode.stage_next {node node' : WorkflowNode} {s : IncidentGraphState}
    (h : node.next s = some node')
    (hretry : node = .verify → s.retryEligible = some true → s.waitReason = some .cooldown) :
    node.stage < node'.stage := by
  cases node with
  | verify =>
      simp only [WorkflowNode.next] at h
      split at h
      · cases h
      · rename_i hwait
        split at h
        · cases h
          decide
        · split at h
          · rename_i hleft
            exact absurd (hretry rfl hleft) hwait
          · cases h
            decide
  | collectEvidence | diagnose | plan | evaluatePolicy | waitForApproval | execute | escalate
  | resolve =>
      simp only [WorkflowNode.next] at h
      grind [WorkflowNode.stage]

section Run

variable {p : Nat} {actor : String} {services : WorkflowServices}

theorem workflow_ascends : (incidentWorkflow p actor services).Ascends WorkflowNode.stage := by
  intro node s steps s' node' ht hnext
  refine WorkflowNode.stage_next hnext ?_
  rintro rfl
  exact (returns_executeWithPolicy .verify (returns_verifyNode_retry _)).took ht

end Run

/-- **A run of the workflow comes to each node once at most**, and in the order of their stages,
whatever state it begins with, whatever the services answer and whatever others do in between.  The
limit on the nodes of a run has no effect: what a run does under it, it does under any other that
leaves room for eight nodes. -/
theorem workflow_visits_once (p : Nat) (actor : String) (services : WorkflowServices)
    (s₀ : IncidentGraphState) :
    (∀ visits node s, (incidentWorkflow p actor services).Comes .collectEvidence s₀ visits node s →
      (visits.map Visit.node ++ [node]).Pairwise (fun a b => a.stage < b.stage)) ∧
    ∀ limit exhausted steps r, 8 ≤ limit →
      (((incidentWorkflow p actor services).invoke graphRecursionError recursionLimit
        .collectEvidence s₀).Took steps r ↔
      ((incidentWorkflow p actor services).invoke exhausted limit .collectEvidence s₀).Took
        steps r) := by
  refine ⟨fun visits node s h => workflow_ascends.pairwise h, ?_⟩
  intro limit exhausted steps r hlimit
  have hbounded : (incidentWorkflow p actor services).Bounded 8 .collectEvidence s₀ :=
    workflow_ascends.bounded WorkflowNode.stage_lt _ _
  have hdefault : 8 ≤ recursionLimit := by decide
  exact ⟨hbounded.took hdefault hlimit, hbounded.took hlimit hdefault⟩

end SelfHealing
