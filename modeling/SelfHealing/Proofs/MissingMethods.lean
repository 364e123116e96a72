/-
Two methods that the repository does not have.

The policy node asks for a wake-up when a plan is deferred, and the evidence node for each item of
evidence to be stored.  Neither method exists.  What is raised for the wake-up undoes the decision
with it; what is raised for an item is logged only, and the identifiers of items that nobody has
stored are handed on.

An attribute that is missing raises where it is called, which is inside the `try` of the one and
outside of that of the other.  That alone makes the difference: the exception is the same.
-/
import SelfHealing.Lib.Interference
import SelfHealing.Proofs.WorkerSteps

namespace SelfHealing

open Interleaving Interleaving.Prog ReadCommitted

section Node

variable {p : Nat} {actor : String} {state : IncidentGraphState}

/-! ### The wake-up

The transaction has recorded the decision and has moved the incident when it comes to the wake-up.
The attribute is missing, so it raises there; the transaction is undone, and the exception goes
through the node to the graph.  What is left is the state before the decision.
-/

theorem evaluatePolicyNodeOn_none
    (evaluate : EvaluationContext → Except Err PolicyEvaluationDecision) :
    evaluatePolicyNodeOn p actor state none evaluate
      = evaluatePolicyNode p actor state evaluate := by
  unfold evaluatePolicyNodeOn evaluatePolicyNode
  cases state.currentPlanId with
  | none => rfl
  | some planId => rfl

/-- The contexts that the node builds itself know of no execution to wait after. -/
theorem context_undeferred (planId : Nat) (plan : Option RemediationPlan)
    (control : AutomationControl) (inc : Option Incident) (now : Int) (rules : PolicyRuleSet) :
    (evaluatePolicy (state.context planId plan control inc now) rules).deferUntil = none := by
  show (policyOutcome (state.context planId plan control inc now) rules).2.1 = none
  unfold policyOutcome
  simp only
  split
  · rfl
  · split
    · rfl
    · split
      · rfl
      · split
        · rfl
        · rfl

/-- The transaction that is to store a deferral does not come to its end. -/
theorem applyDecision_deferred {planId : Nat} {ctx : EvaluationContext}
    {decision : PolicyEvaluationDecision} (hdefer : decision.decision = .defer)
    (huntil : decision.deferUntil.isSome = true) :
    Returns (fun _ => False) (applyDecision p actor state planId ctx decision) := by
  refine returns_unitOfWork (returns_bind (fun id => returns_bind (fun found => ?_)))
  rw [hdefer]
  simp only [if_pos huntil]
  exact returns_throw _

/-- On a context that is there, the engine decides without a statement. -/
theorem evaluatePolicyNodeOn_prepared (p : Nat) (actor : String) {state : IncidentGraphState}
    {planId : Nat} {ctx : EvaluationContext}
    {evaluate : EvaluationContext → Except Err PolicyEvaluationDecision}
    {decision : PolicyEvaluationDecision} (hplan : state.currentPlanId = some planId)
    (heval : evaluate ctx = .ok decision) :
    evaluatePolicyNodeOn p actor state (some ctx) evaluate = (do
      let (id, inc) ← applyDecision p actor state planId ctx decision
      pure (state.decided decision id ((inc.map Incident.version).getD state.version))) := by
  have hcheck : check (evaluate ctx) = pure decision := by rw [heval]; rfl
  unfold evaluatePolicyNodeOn
  rw [hplan]
  have hpure : ∀ {α β : Type} (a : α) (f : α → Prog β), (pure a >>= f) = f a := fun _ _ => rfl
  simp only
  rw [hpure, hcheck, hpure]

/-- **A deferred decision is not stored.**  Whenever the engine defers a plan until some time, the
node raises, and commits neither the decision nor a wake-up.  The engine does so only on a context
that the caller has prepared: those that the node builds itself know of no time to wait after. -/
theorem deferred_decision_lost (p : Nat) (actor : String) (state : IncidentGraphState) (planId : Nat)
    (ctx : EvaluationContext) (evaluate : EvaluationContext → Except Err PolicyEvaluationDecision)
    (decision : PolicyEvaluationDecision) (hplan : state.currentPlanId = some planId)
    (heval : evaluate ctx = .ok decision) (hdefer : decision.decision = .defer)
    (huntil : decision.deferUntil.isSome = true) :
    (∀ steps r, (evaluatePolicyNodeOn p actor state (some ctx) evaluate).Took steps r →
      (∃ e, r = .error e) ∧ ∀ q ∈ steps, q.2.decisions = q.1.decisions ∧
        ∀ w, q.2.schedule w = q.1.schedule w) ∧
    (∀ plan control inc now rules,
      (evaluatePolicy (state.context planId plan control inc now) rules).deferUntil = none) := by
  refine ⟨?_, context_undeferred planId⟩
  intro steps r h
  -- the context is there, and the engine decides without a statement
  have hnode := evaluatePolicyNodeOn_prepared p actor hplan heval
  have hreturns : Returns (fun _ => False) (applyDecision p actor state planId ctx decision) :=
    applyDecision_deferred hdefer huntil
  have hundone : ∀ {l : List (Db × Db)} {e : Err},
      (applyDecision p actor state planId ctx decision).Took l (.error e) →
      ∀ q ∈ l, Undone q.1 q.2 := by
    intro l e hl
    obtain ⟨body, hbody, heq⟩ : ∃ body,
        Within (WorkerStep p (fun k => .incident = k) (fun _ => False) (fun _ => True)) body ∧
          applyDecision p actor state planId ctx decision = unitOfWork ⟨p, 0⟩ actor body :=
      applyDecision_block (K := fun k => .incident = k) (fun _ _ => trivial) rfl state planId ctx
        decision
    rw [heq] at hl
    exact took_unitOfWork_undone (by simp) hbody hl
  rw [hnode] at h
  rcases took_bind h with ⟨a, l, l', rfl, happly, -⟩ | ⟨e, happly, rfl⟩
  · exact (hreturns.took happly).elim
  · refine ⟨⟨e, rfl⟩, ?_⟩
    intro q hq
    exact ⟨(hundone happly q hq).decisions, (hundone happly q hq).schedule⟩

end Node

/-- A plan for a service that was restarted five minutes ago. -/
def restartedContext : EvaluationContext where
  incidentId := 1
  planId := 3
  planVersion := 1
  contentHash := ""
  containerId := "demo-api-container"
  bindingGeneration := 1
  serviceName := "demo-api"
  confidence := 95 / 100
  rootCause := "CONTAINER_STOPPED"
  lastExecutionTime := some 0
  automationMode := .automatic
  currentTime := seconds 300

/-- A planned incident, and nothing else. -/
def restartedDb : Db :=
  { Db.init (seconds 300) with
    nextId := 5
    incidents := Function.update (fun _ => Cell.empty) 1 (Cell.ofRow
      { id := 1, resourceId := 7, correlationKey := "demo", state := .planned, version := 4,
        approvalRequired := false, updatedAt := 0 }) }

def restartedState : IncidentGraphState :=
  { incidentId := 1, resourceId := 7, version := 4, currentPlanId := some 3 }

theorem restartedContext_defers : ∃ decision, defaultPolicy restartedContext = .ok decision ∧
    decision.decision = .defer ∧ decision.deferUntil = some (seconds 600) :=
  ⟨evaluatePolicy restartedContext {}, rfl, by decide +kernel, by decide +kernel⟩

/-- A run of the node on this plan. -/
theorem deferred_decision_lost_cooling :
    ∃ steps e, (evaluatePolicyNodeOn 0 "worker:a" restartedState (some restartedContext)
        defaultPolicy).Took steps (.error e) ∧
      ∀ q ∈ steps, q.2.decisions = q.1.decisions ∧ ∀ w, q.2.schedule w = q.1.schedule w := by
  obtain ⟨decision, heval, hdefer, huntil⟩ := restartedContext_defers
  have hpasses : (evaluatePolicyNodeOn 0 "worker:a" restartedState (some restartedContext)
      defaultPolicy).passes (List.replicate 10 {}) restartedDb (fun _ _ => true) = true := by
    decide +kernel
  obtain ⟨r, last, steps, htook, -, -⟩ := alone_of_passes hpasses
  obtain ⟨⟨e, rfl⟩, hkept⟩ := (deferred_decision_lost 0 "worker:a" restartedState 3
    restartedContext defaultPolicy decision rfl heval hdefer (by rw [huntil]; rfl)).1 steps r htook
  exact ⟨steps, e, htook, hkept⟩

/-- Every statement goes through, and the node raises with nothing stored. -/
theorem deferred_decision_raises :
    ∃ e last, (evaluatePolicyNodeOn 0 "worker:a" restartedState (some restartedContext)
        defaultPolicy).Ends restartedDb (.error e) last ∧
      e.exc = .attributeError ∧ last.decisions = [] ∧ last.scheduleIds = [] := by
  have hpasses : (evaluatePolicyNodeOn 0 "worker:a" restartedState (some restartedContext)
      defaultPolicy).passes (List.replicate 10 {}) restartedDb (fun r db => match r with
        | .error e => decide (e.exc = .attributeError) &&
            (db.decisions.isEmpty && db.scheduleIds.isEmpty)
        | .ok _ => false) = true := by
    decide +kernel
  obtain ⟨r, last, hends, htest⟩ := ends_of_passes hpasses
  split at htest
  · rename_i e
    simp only [Bool.and_eq_true, decide_eq_true_eq, List.isEmpty_iff] at htest
    exact ⟨e, last, hends, htest.1, htest.2.1, htest.2.2⟩
  · cases htest

/-! ### The items of evidence -/

/-- Storing items is nothing at all. -/
theorem storeEvidence_nothing (items : List EvidenceItem) : storeEvidence items = pure () := by
  induction items with
  | nil => rfl
  | cons item rest ih =>
      show (do
        tryCatch (recordEvidence item) (fun _ => pure ())
        storeEvidence rest : Prog Unit) = pure ()
      rw [ih]
      rfl

section Evidence

variable {p : Nat} {actor : String} {state : IncidentGraphState}
  {bundle : List Nat → List EvidenceItem}

/-- The node that stores its items is the one that does not. -/
theorem collectEvidenceItems_eq (hbundle : ∀ ids, (bundle ids).map EvidenceItem.id = ids) :
    collectEvidenceItems p actor state bundle = collectEvidenceNode p actor state := by
  have hbody : ∀ items, (do
      let inc ← advanceIncident actor ⟨p, 0⟩ state.incidentId [.detected] .triaged
      storeEvidence items
      pure inc : Prog (Option Incident)) =
      advanceIncident actor ⟨p, 0⟩ state.incidentId [.detected] .triaged := by
    intro items
    rw [storeEvidence_nothing]
    exact Interleaving.Prog.bind_pure _
  unfold collectEvidenceItems collectEvidenceNode
  simp only [hbody, hbundle]

theorem workerStep_collectEvidenceItems
    (hbundle : ∀ ids, (bundle ids).map EvidenceItem.id = ids) :
    Within (WorkerStep p (fun _ => True) (fun _ => True) (fun _ => True))
      (collectEvidenceItems p actor state bundle) := by
  rw [collectEvidenceItems_eq hbundle]
  exact workerStep_collectEvidenceNode (fun _ _ => trivial) permits_all state trivial

/-- The item is a stored row of the incident; `rows` are the contents of the rows. -/
def Db.storesItem (db : Db) (rows : Nat → EvidenceItem) (incidentId : Nat) (item : EvidenceItem) :
    Prop :=
  item.id ∈ db.evidence incidentId ∧ (rows item.id).kind = item.kind ∧
    (rows item.id).source = item.source ∧ (rows item.id).content = item.content

/-- **No item of evidence is stored.**  The identifiers that the node hands on are those of the
items that were collected; and these items, or those among them that a diagnosis cites, are stored
when the node has run if and only if they were when it began.  So if the identifiers are new, all
of them are those of stored items only where there are none. -/
theorem evidence_stored_iff (p : Nat) (actor : String) (state : IncidentGraphState)
    (bundle : List Nat → List EvidenceItem)
    (hbundle : ∀ ids, (bundle ids).map EvidenceItem.id = ids) (rows : Nat → EvidenceItem)
    (steps : List (Db × Db)) (final : IncidentGraphState) (first last : Db)
    (h : (collectEvidenceItems p actor state bundle).Took steps (.ok final))
    (hothers : Between (fun s s' => s'.evidence = s.evidence) first steps last) :
    (bundle final.evidenceIds).map EvidenceItem.id = final.evidenceIds ∧
    (∀ cited, cited ⊆ bundle final.evidenceIds →
      ((∀ item ∈ cited, last.storesItem rows state.incidentId item) ↔
        ∀ item ∈ cited, first.storesItem rows state.incidentId item)) ∧
    ((∀ id ∈ final.evidenceIds, id ∉ first.evidence state.incidentId) →
      ((∀ item ∈ bundle final.evidenceIds, last.storesItem rows state.incidentId item) ↔
        final.evidenceIds = [])) := by
  have hsteps := (workerStep_collectEvidenceItems hbundle).began (Took.began h)
  have hkept : last.evidence = first.evidence := by
    refine hothers.keeps (P := fun s => s.evidence = first.evidence) ?_ ?_ rfl
    · intro s s' hsame hs
      rw [hsame, hs]
    · intro q hq hs
      rw [(hsteps q hq).evidence, hs]
  refine ⟨hbundle _, fun cited _ => ?_, fun hnew => ?_⟩
  · simp only [Db.storesItem, hkept]
  constructor
  · intro hstored
    refine List.eq_nil_iff_forall_not_mem.mpr (fun id hid => ?_)
    rw [← hbundle final.evidenceIds] at hid
    obtain ⟨item, hitem, rfl⟩ := List.mem_map.mp hid
    have hin := (hstored item hitem).1
    rw [hkept] at hin
    refine hnew item.id ?_ hin
    rw [← hbundle final.evidenceIds]
    exact List.mem_map_of_mem hitem
  · intro hnone item hitem
    have hid := List.mem_map_of_mem (f := EvidenceItem.id) hitem
    rw [hbundle, hnone] at hid
    exact absurd hid List.not_mem_nil

end Evidence

/-- An incident that has just been detected. -/
def detectedDb : Db :=
  { Db.init 0 with
    nextId := 5
    incidents := Function.update (fun _ => Cell.empty) 1 (Cell.ofRow
      { id := 1, resourceId := 7, correlationKey := "demo", state := .detected, version := 1,
        approvalRequired := false, updatedAt := 0 }) }

def detectedState : IncidentGraphState := { incidentId := 1, resourceId := 7 }

/-- Items of logs. -/
def logItems (ids : List Nat) : List EvidenceItem :=
  ids.map fun id => { id := id, kind := "LOG", source := "loki", content := [], observedAt := 0 }

theorem logItems_id (ids : List Nat) : (logItems ids).map EvidenceItem.id = ids := by
  simp [logItems, Function.comp_def]

theorem collectEvidenceItems_detected :
    ∃ final last, (collectEvidenceItems 0 "worker:a" detectedState logItems).Ends detectedDb
        (.ok final) last ∧ final.evidenceIds = [77] ∧ last.evidence 1 = [] := by
  have hpasses : (collectEvidenceItems 0 "worker:a" detectedState logItems).passes
      (List.replicate 12 { collect := .answered [77] }) detectedDb (fun r db => match r with
        | .ok final => decide (final.evidenceIds = [77] ∧ db.evidence 1 = [])
        | .error _ => false) = true := by
    decide +kernel
  obtain ⟨r, last, hends, htest⟩ := ends_of_passes hpasses
  split at htest
  · rename_i final
    simp only [decide_eq_true_eq] at htest
    exact ⟨final, last, hends, htest.1, htest.2⟩
  · cases htest

/-- The node returns the identifier of an item that is not stored. -/
theorem evidence_cited_unstored :
    ∃ final last, (collectEvidenceItems 0 "worker:a" detectedState logItems).Ends detectedDb
        (.ok final) last ∧ ∃ id ∈ final.evidenceIds, id ∉ last.evidence 1 := by
  obtain ⟨final, last, hends, hids, hnone⟩ := collectEvidenceItems_detected
  refine ⟨final, last, hends, 77, ?_, ?_⟩
  · rw [hids]
    exact List.mem_singleton.mpr rfl
  · rw [hnone]
    exact List.not_mem_nil

/-- What a run of the node leaves of its item. -/
theorem evidence_stored_iff_new :
    ∃ final, ∃ last : Db, (collectEvidenceItems 0 "worker:a" detectedState logItems).Ends detectedDb
        (.ok final) last ∧
      ¬ ∀ item ∈ logItems final.evidenceIds,
        last.storesItem (fun id => ⟨id, "LOG", "loki", [], 0, none, none⟩) 1 item := by
  obtain ⟨final, last, hends, hids, -⟩ := collectEvidenceItems_detected
  obtain ⟨steps, htook, hbetween⟩ := hends.alone
  obtain ⟨-, -, hnew⟩ := evidence_stored_iff 0 "worker:a" detectedState logItems logItems_id
    (fun id => ⟨id, "LOG", "loki", [], 0, none, none⟩) steps final detectedDb last htook
    (hbetween.mono (fun s s' heq => by rw [heq]))
  refine ⟨final, last, hends, fun hstored => ?_⟩
  have hnone := (hnew (fun _ _ => List.not_mem_nil)).mp hstored
  rw [hids] at hnone
  cases hnone

end SelfHealing
