/-
Graphs that only go forward.

`Comes` says nothing of how long a run may be, and a run that uses up its number of nodes raises.
If the nodes have stages, and what follows a node is of a later stage, then no run comes to a node
twice, and none is longer than there are stages.  Then the bound on a run is none at all: with more
of it the graph does the same.

Stages need not be given by the graph: any function from nodes to numbers will do that grows along
every edge.  It bounds the visits (`Ascends.length_add_le`), and from there it follows for a graph
with a bound on its runs that the bound is never met (`Ascends.bounded`).
-/
import SelfHealing.Lib.Interference
import SelfHealing.Lib.StateGraph

namespace Interleaving.StateGraph

variable {W σ ε N S : Type} {G : StateGraph W σ ε N S} {stage : N → Nat}

/-- What follows a node that has run to its end is of a later stage. -/
def Ascends (G : StateGraph W σ ε N S) (stage : N → Nat) : Prop :=
  ∀ n s steps s' n', (G.node n s).Took steps (.ok s') → G.next n s' = some n' →
    stage n < stage n'

section Comes

variable {n₀ n : N} {s₀ s : S} {visits : List (Visit σ N S)}

/-- What has been visited was of an earlier stage. -/
theorem Ascends.earlier (hG : G.Ascends stage) (h : G.Comes n₀ s₀ visits n s) :
    ∀ v ∈ visits, stage v.node < stage n := by
  induction h with
  | start => exact fun v hv => absurd hv List.not_mem_nil
  | @visit visits n n' s s' steps _ ht hnext ih =>
      intro v hv
      have hlater : stage n < stage n' := hG n s steps s' n' ht hnext
      rcases List.mem_append.mp hv with hv | hv
      · exact Nat.lt_trans (ih v hv) hlater
      · rw [List.mem_singleton.mp hv]
        exact hlater

/-- **A run goes from stage to stage.** -/
theorem Ascends.pairwise (hG : G.Ascends stage) (h : G.Comes n₀ s₀ visits n s) :
    (visits.map Visit.node ++ [n]).Pairwise (fun a b => stage a < stage b) := by
  induction h with
  | start => exact List.pairwise_singleton _ _
  | @visit visits n n' s s' steps hcomes ht hnext ih =>
      have hafter := hG.earlier (hcomes.visit ht hnext)
      rw [List.pairwise_append]
      refine ⟨by rw [List.map_append]; exact ih, List.pairwise_singleton _ _, ?_⟩
      intro a ha b hb
      rw [List.mem_singleton.mp hb]
      obtain ⟨v, hv, rfl⟩ := List.mem_map.mp ha
      exact hafter v hv

/-- Each visit costs a stage. -/
theorem Ascends.length_add_le (hG : G.Ascends stage) (h : G.Comes n₀ s₀ visits n s) :
    stage n₀ + visits.length ≤ stage n := by
  induction h with
  | start => exact Nat.le_refl _
  | @visit visits n n' s s' steps _ ht hnext ih =>
      have hlater : stage n < stage n' := hG n s steps s' n' ht hnext
      rw [List.length_append, List.length_singleton]
      omega

end Comes

/-- No run from here visits as many nodes. -/
def Bounded (G : StateGraph W σ ε N S) (k : Nat) (n : N) (s : S) : Prop :=
  ∀ visits n' s', G.Comes n s visits n' s' → visits.length < k

theorem Bounded.next {k : Nat} {n n' : N} {s s' : S} {steps : List (σ × σ)}
    (h : G.Bounded (k + 1) n s) (ht : (G.node n s).Took steps (.ok s'))
    (hnext : G.next n s' = some n') : G.Bounded k n' s' := by
  intro visits m u hcomes
  have hlong := h _ m u (hcomes.cons ht hnext)
  rw [List.length_cons] at hlong
  omega

theorem Ascends.bounded (hG : G.Ascends stage) {k : Nat} (hstage : ∀ n, stage n < k) (n : N)
    (s : S) : G.Bounded k n s := by
  intro visits n' s' h
  have hle := hG.length_add_le h
  have hlt := hstage n'
  omega

/-- **A bound that is not reached is no bound.**  What a run does under one it does under another,
whatever would be raised if it were used up. -/
theorem Bounded.took {k limit limit' : Nat} {exhausted exhausted' : ε} {n : N} {s : S}
    {steps : List (σ × σ)} {r : Except ε S} (h : G.Bounded k n s) (hlimit : k ≤ limit)
    (hlimit' : k ≤ limit') (ht : (G.invoke exhausted limit n s).Took steps r) :
    (G.invoke exhausted' limit' n s).Took steps r := by
  induction k generalizing limit limit' n s steps with
  | zero => exact absurd (h [] n s .start) (by simp)
  | succ k ih =>
      obtain ⟨m, rfl⟩ : ∃ m, limit = m + 1 := ⟨limit - 1, by omega⟩
      obtain ⟨m', rfl⟩ : ∃ m', limit' = m' + 1 := ⟨limit' - 1, by omega⟩
      rcases Prog.took_bind ht with ⟨s₁, l, l', rfl, hnode, hrest⟩ | ⟨e, hnode, rfl⟩
      · refine Prog.Took.bind hnode ?_
        cases hnext : G.next n s₁ with
        | none =>
            rw [hnext] at hrest
            exact hrest
        | some n₁ =>
            rw [hnext] at hrest
            exact ih (h.next hnode hnext) (by omega) (by omega) hrest
      · exact Prog.Took.raises hnode

end Interleaving.StateGraph
