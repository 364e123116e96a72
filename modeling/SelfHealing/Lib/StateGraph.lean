/-
A graph of nodes over a state.

A node is a program that hands on the state; what comes after it is read off the state that it
hands on.  Running the graph is bounded by a number of nodes, and raises when it is used up.

`Comes` is the part of a run that lies behind: the nodes that have run to their end, each with
what it was given, the steps that it made and what it handed on.  A run that has made certain
steps has come to some node, and has made the last of them there.

A run may also end in the middle of a node, when it raises or when it is stopped.  The nodes behind
it are complete all the same, and each of them has got what the one before it has handed on.
-/
import SelfHealing.Lib.History
import SelfHealing.Lib.Solo

namespace Interleaving

/-- The nodes, and where to go from each; `none` is the end. -/
structure StateGraph (W σ ε N S : Type) where
  node : N → S → Prog W σ ε S
  next : N → S → Option N

/-- A node that has run to its end. -/
structure Visit (σ N S : Type) where
  node : N
  given : S
  steps : List (σ × σ)
  result : S

namespace StateGraph

variable {W σ ε N S : Type} (G : StateGraph W σ ε N S) (exhausted : ε)

/-- Run the graph from a node on, over at most so many nodes.  A node that raises ends the run with
what it has raised. -/
def invoke : Nat → N → S → Prog W σ ε S
  | 0, _, _ => throw exhausted
  | limit + 1, n, s => do
      let s' ← G.node n s
      match G.next n s' with
      | none => pure s'
      | some n' => invoke limit n' s'

/-- Begun at `n₀` with `s₀`, the graph has made these visits and comes to a node. -/
inductive Comes (n₀ : N) (s₀ : S) : List (Visit σ N S) → N → S → Prop
  | start : Comes n₀ s₀ [] n₀ s₀
  | visit {visits : List (Visit σ N S)} {n n' : N} {s s' : S} {steps : List (σ × σ)}
      (h : Comes n₀ s₀ visits n s) (ht : (G.node n s).Took steps (.ok s'))
      (hnext : G.next n s' = some n') : Comes n₀ s₀ (visits ++ [⟨n, s, steps, s'⟩]) n' s'

variable {G} {exhausted}

/-- A run through a node, where nothing waits. -/
theorem surely_invoke {A : W → Prop} {Q : S → σ → Prop} {X : ε → σ → Prop} {limit : Nat} {n : N}
    {s : S} {start : σ}
    (h : (G.node n s).Surely A (fun s' end' => match G.next n s' with
      | none => Q s' end'
      | some n' => (G.invoke exhausted limit n' s').Surely A Q X end') X start) :
    (G.invoke exhausted (limit + 1) n s).Surely A Q X start := by
  refine Prog.surely_bind (h.mono ?_ (fun _ _ h => h))
  intro s' end' h'
  cases hnext : G.next n s' with
  | none =>
      rw [hnext] at h'
      exact (Prog.surely_pure s').mpr h'
  | some n' =>
      rw [hnext] at h'
      exact h'

/-- What no node does the run does not. -/
theorem within_invoke {R : σ → σ → Prop} (hnode : ∀ n s, Prog.Within R (G.node n s)) (limit : Nat)
    (n : N) (s : S) : Prog.Within R (G.invoke exhausted limit n s) := by
  induction limit generalizing n s with
  | zero => exact Prog.within_throw _
  | succ limit ih =>
      refine Prog.Within.bind (hnode n s) (fun s' => ?_)
      split
      · exact Prog.within_pure _
      · exact ih _ _

/-- A visit before all the others. -/
theorem Comes.cons {n n₁ n' : N} {s s₁ s' : S} {steps : List (σ × σ)}
    {visits : List (Visit σ N S)} (ht : (G.node n s).Took steps (.ok s₁))
    (hnext : G.next n s₁ = some n₁) (h : G.Comes n₁ s₁ visits n' s') :
    G.Comes n s (⟨n, s, steps, s₁⟩ :: visits) n' s' := by
  induction h with
  | start =>
      have hfirst : G.Comes n s [] n s := .start
      exact hfirst.visit ht hnext
  | visit _ ht' hnext' ih =>
      rw [← List.cons_append]
      exact ih.visit ht' hnext'

/-- Nothing has been visited yet, or this is the first of the visits. -/
theorem Comes.first {n n' : N} {s s' : S} {visits : List (Visit σ N S)}
    (h : G.Comes n s visits n' s') :
    (visits = [] ∧ n' = n ∧ s' = s) ∨ ∃ steps s₁ n₁ later,
      visits = ⟨n, s, steps, s₁⟩ :: later ∧ (G.node n s).Took steps (.ok s₁) ∧
        G.next n s₁ = some n₁ ∧ G.Comes n₁ s₁ later n' s' := by
  induction h with
  | start => exact Or.inl ⟨rfl, rfl, rfl⟩
  | visit _ ht hnext ih =>
      right
      rcases ih with ⟨rfl, rfl, rfl⟩ | ⟨l, s₁, n₁, later, rfl, ht₁, hnext₁, hrest⟩
      · exact ⟨_, _, _, [], rfl, ht, hnext, .start⟩
      · exact ⟨l, s₁, n₁, _, rfl, ht₁, hnext₁, hrest.visit ht hnext⟩

/-- **What has been visited has been run**, if it was not too much. -/
theorem Comes.began {n₀ n : N} {s₀ s : S} {visits : List (Visit σ N S)} {l : List (σ × σ)}
    {limit : Nat} (h : G.Comes n₀ s₀ visits n s) (hl : (G.node n s).Began l)
    (hlimit : visits.length < limit) :
    (G.invoke exhausted limit n₀ s₀).Began (visits.flatMap Visit.steps ++ l) := by
  induction limit generalizing n₀ s₀ visits with
  | zero => omega
  | succ limit ih =>
      rcases h.first with ⟨rfl, rfl, rfl⟩ | ⟨steps, s₁, n₁, later, rfl, ht, hnext, hlater⟩
      · exact hl.bind _
      · rw [List.flatMap_cons, List.append_assoc]
        refine ht.began_bind ?_
        rw [hnext]
        exact ih hlater (by simpa using hlimit)

/-- Each of the visits was come to, and has run to its end. -/
theorem Comes.mem {n₀ n : N} {s₀ s : S} {visits : List (Visit σ N S)}
    (h : G.Comes n₀ s₀ visits n s) {v : Visit σ N S} (hv : v ∈ visits) :
    (∃ earlier, G.Comes n₀ s₀ earlier v.node v.given) ∧
      (G.node v.node v.given).Took v.steps (.ok v.result) := by
  induction h with
  | start => simp at hv
  | visit hcomes ht _ ih =>
      rcases List.mem_append.mp hv with hv | hv
      · exact ih hv
      · rw [List.mem_singleton.mp hv]
        exact ⟨⟨_, hcomes⟩, ht⟩

/-- **A run that has ended has ended at some node**, after which nothing comes. -/
theorem took_invoke {limit : Nat} {n : N} {s final : S} {steps : List (σ × σ)}
    (h : (G.invoke exhausted limit n s).Took steps (.ok final)) :
    ∃ visits n' s' l, G.Comes n s visits n' s' ∧ steps = visits.flatMap Visit.steps ++ l ∧
      (G.node n' s').Took l (.ok final) ∧ G.next n' final = none := by
  induction limit generalizing n s steps with
  | zero =>
      obtain ⟨-, hbad⟩ := Prog.took_throw.mp h
      cases hbad
  | succ limit ih =>
      rcases Prog.took_bind h with ⟨s₁, l, l', rfl, ht, hrest⟩ | ⟨e, -, hbad⟩
      · cases hnext : G.next n s₁ with
        | none =>
            rw [hnext] at hrest
            obtain ⟨rfl, hfinal⟩ := Prog.took_pure.mp hrest
            cases hfinal
            exact ⟨[], n, s, l, .start, by simp, ht, hnext⟩
        | some n₁ =>
            rw [hnext] at hrest
            obtain ⟨visits, n', s', m, hcomes, rfl, hnode, hend⟩ := ih hrest
            exact ⟨⟨n, s, l, s₁⟩ :: visits, n', s', m, hcomes.cons ht hnext, by simp, hnode, hend⟩
      · cases hbad

end StateGraph

end Interleaving
