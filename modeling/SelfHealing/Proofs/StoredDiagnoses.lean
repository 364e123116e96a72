/-
The diagnosis that the policy decides on.

Where there is no diagnosis yet, the run makes one, stores it and hands on its cause and its
confidence.  Where there is one the diagnosis is skipped.  The cause is then that of the last row that
a query without an order has returned, and the confidence is not read at all: it is what the
checkpoint has of it, or else ninety per cent.

On its way to the policy a run visits each node once, so that it is enough to follow the rows of the
incident through three nodes, and through what comes before them.
-/
import SelfHealing.Lib.Interference
import SelfHealing.Proofs.Authorisation
import SelfHealing.Proofs.WorkflowRuns

namespace SelfHealing

open Interleaving Interleaving.Prog ReadCommitted

/-! ### The rows of an incident

Which row a query without an order returns last is a choice, and the statement is about every
choice.
-/

/-- The diagnoses of an incident, newest first. -/
def Db.diagnosesOf (db : Db) (i : Nat) : List Diagnosis :=
  db.diagnoses.filter fun diag => diag.incidentId = i

/-- The most recently created diagnosis of an incident. -/
def Db.newestDiagnosis (db : Db) (i : Nat) : Option Diagnosis := (db.diagnosesOf i).head?

/-- The others store no diagnosis of the incident, and leave alone what process `p` has under way. -/
structure SparesDiagnoses (p i : Nat) (s s' : Db) : Prop where
  rows : s'.diagnosesOf i = s.diagnosesOf i
  added : ∀ l, s'.added ⟨p, l⟩ = s.added ⟨p, l⟩

/-- These are the diagnoses of the incident, and process `p` is about to add those. -/
structure Stored (p i : Nat) (rows new : List Diagnosis) (s : Db) : Prop where
  rows : s.diagnosesOf i = rows
  new : (s.added ⟨p, 0⟩).filterMap NewRow.diagnosis? = new
  others : ∀ l, l ≠ 0 → (s.added ⟨p, l⟩).filterMap NewRow.diagnosis? = []

namespace Stored

variable {p i l : Nat} {rows new : List Diagnosis} {s s' : Db}

theorem same (h : Stored p i rows new s) (hrows : s'.diagnosesOf i = s.diagnosesOf i)
    (hadded : ∀ l, s'.added ⟨p, l⟩ = s.added ⟨p, l⟩) : Stored p i rows new s' :=
  ⟨hrows.trans h.rows, by rw [hadded]; exact h.new, fun l hl => by rw [hadded]; exact h.others l hl⟩

/-- Another row is about to be added. -/
theorem add (h : Stored p i rows new s) (row : NewRow) (hrow : row.diagnosis? = none) :
    Stored p i rows new (s.add ⟨p, l⟩ row) := by
  have hsame : ∀ k, ((s.add ⟨p, l⟩ row).added ⟨p, k⟩).filterMap NewRow.diagnosis? =
      (s.added ⟨p, k⟩).filterMap NewRow.diagnosis? := by
    intro k
    by_cases hk : k = l
    · subst hk
      simp [Db.add, hrow]
    · have hne : (⟨p, k⟩ : TxId) ≠ ⟨p, l⟩ := fun heq => hk (TxId.mk.inj heq).2
      simp [Db.add, hne]
  exact ⟨h.rows, (hsame 0).trans h.new, fun k hk => (hsame k).trans (h.others k hk)⟩

theorem add_diagnosis (h : Stored p i rows [] s) (diag : Diagnosis) :
    Stored p i rows [diag] (s.add ⟨p, 0⟩ (.diagnosis diag)) := by
  refine ⟨h.rows, ?_, ?_⟩
  · simp [Db.add, NewRow.diagnosis?, h.new]
  · intro k hk
    have hne : (⟨p, k⟩ : TxId) ≠ ⟨p, 0⟩ := fun heq => hk (TxId.mk.inj heq).2
    have hkept : (s.add ⟨p, 0⟩ (.diagnosis diag)).added ⟨p, k⟩ = s.added ⟨p, k⟩ := by
      simp [Db.add, hne]
    rw [hkept]
    exact h.others k hk

/-- What is about to be added is forgotten at the end of a transaction. -/
theorem forgotten (h : Stored p i rows new s) {t : TxId} (ht : t.pid = p)
    (hnew : t = ⟨p, 0⟩ ∨ new = []) (hrows : s'.diagnosesOf i = s.diagnosesOf i)
    (hadded : s'.added = Function.update s.added t []) : Stored p i rows [] s' := by
  refine ⟨hrows.trans h.rows, ?_, ?_⟩
  · rw [hadded]
    by_cases h0 : t = ⟨p, 0⟩
    · subst h0
      simp
    · rw [Function.update_of_ne (fun heq => h0 heq.symm), h.new]
      exact hnew.resolve_left h0
  · intro k hk
    rw [hadded]
    by_cases h0 : (⟨p, k⟩ : TxId) = t
    · rw [h0]
      simp
    · rw [Function.update_of_ne h0]
      exact h.others k hk

theorem commit (h : Stored p i rows [] s) (l : Nat) (evs : List Event) :
    Stored p i rows [] ((s.commit ⟨p, l⟩).record evs) := by
  refine h.forgotten rfl (Or.inr rfl) ?_ rfl
  have hnone : (s.added ⟨p, l⟩).filterMap NewRow.diagnosis? = [] := by
    by_cases hl : l = 0
    · rw [hl]
      exact h.new
    · exact h.others l hl
  show ((s.added ⟨p, l⟩).filterMap NewRow.diagnosis? ++ s.diagnoses).filter _ = _
  rw [hnone]
  rfl

/-- The diagnosis is stored. -/
theorem commit_diagnosis {diag : Diagnosis} (h : Stored p i rows [diag] s)
    (hincident : diag.incidentId = i) (evs : List Event) :
    Stored p i (diag :: rows) [] ((s.commit ⟨p, 0⟩).record evs) := by
  have hrows : ((s.commit ⟨p, 0⟩).record evs).diagnosesOf i = diag :: rows := by
    show ((s.added ⟨p, 0⟩).filterMap NewRow.diagnosis? ++ s.diagnoses).filter _ = _
    rw [h.new, ← h.rows]
    simp [Db.diagnosesOf, hincident]
  refine ⟨hrows, ?_, ?_⟩
  · simp [Db.commit, Db.record]
  · intro k hk
    have hne : (⟨p, k⟩ : TxId) ≠ ⟨p, 0⟩ := fun heq => hk (TxId.mk.inj heq).2
    have hkept : ((s.commit ⟨p, 0⟩).record evs).added ⟨p, k⟩ = s.added ⟨p, k⟩ :=
      Function.update_of_ne hne _ _
    rw [hkept]
    exact h.others k hk

/-- **A worker that adds no diagnosis** leaves the diagnoses as they are. -/
theorem worker {K : WorkerKind → Prop} {E : Event → Prop} (h : Stored p i rows new s)
    (hstep : WorkerStep p K E (fun row => row.diagnosis? = none) s s')
    (hnew : new = [] ∨ ¬ K .transaction) : Stored p i rows new s' := by
  cases hstep with
  | added l row hrow => exact h.add row hrow
  | commit l evs hK _ =>
      obtain rfl := hnew.resolve_right (not_not.mpr hK)
      exact h.commit l evs
  | rollback l hK =>
      obtain rfl := hnew.resolve_right (not_not.mpr hK)
      exact h.forgotten (t := ⟨p, l⟩) rfl (Or.inr rfl) rfl rfl
  | _ => exact h.same rfl (fun _ => rfl)

end Stored

theorem SparesDiagnoses.stored {p i : Nat} {rows new : List Diagnosis} {s s' : Db}
    (h : SparesDiagnoses p i s s') (hs : Stored p i rows new s) : Stored p i rows new s' :=
  hs.same h.rows h.added

/-! ### On the way to the policy

The nodes before the policy write one diagnosis at most, and only if there is none.  So the rows of
the incident are the same when the policy is come to, or there is one more, and what the state has
of cause and confidence is from that one.
-/

section Way

variable {α : Type} {p i : Nat} {actor : String} {rows : List Diagnosis} {first last : Db}
  {l : List (Db × Db)} {state s' : IncidentGraphState}

/-- What a worker does here that adds no diagnosis. -/
abbrev Undiagnosing (p : Nat) : Db → Db → Prop :=
  WorkerStep p (fun _ => True) (fun _ => True) (fun row => row.diagnosis? = none)

/-- A part of the run that adds no diagnosis. -/
theorem Stored.began (hs : Stored p i rows [] first) {x : Prog α} (hx : Within (Undiagnosing p) x)
    (h : x.Began l) (hothers : Between (SparesDiagnoses p i) first l last) :
    Stored p i rows [] last :=
  hothers.keeps (P := Stored p i rows []) (fun _ _ hspares h => hspares.stored h)
    (fun q hq hq' => hq'.worker (hx.began h q hq) (Or.inl rfl)) hs

/-- **A diagnosis that is made is stored**, and its cause and its confidence are handed on. -/
theorem took_diagnoseNode_stores (h : (diagnoseNode p actor state).Took l (.ok s'))
    (hnone : state.currentDiagnosisId = none)
    (hothers : Between (SparesDiagnoses p state.incidentId) first l last)
    (hs : Stored p state.incidentId rows [] first) :
    ∃ diag : Diagnosis, Stored p state.incidentId (diag :: rows) [] last ∧
      s'.rootCause = some diag.rootCause ∧ s'.confidence = some diag.confidence := by
  have hrefl : ∀ s : Db, SparesDiagnoses p state.incidentId s s := fun _ => ⟨rfl, fun _ => rfl⟩
  unfold diagnoseNode at h
  split at h
  · rename_i id hsome
    rw [hnone] at hsome
    cases hsome
  obtain ⟨answer, l₁, l₂, rfl, hasked, h₁⟩ := took_bind_ok h
  obtain ⟨id, l₃, l₄, rfl, hdrawn, h₂⟩ := took_bind_ok h₁
  obtain ⟨inc, l₅, l₆, rfl, hrecord, h₃⟩ := took_bind_ok h₂
  let diag : Diagnosis :=
    { id := id, incidentId := state.incidentId, rootCause := answer.rootCause,
      confidence := answer.confidence, escalationReason := answer.escalationReason }
  have hfinal : l₆ = [] ∧ s'.rootCause = some diag.rootCause ∧
      s'.confidence = some diag.confidence := by
    simp only at h₃
    split at h₃
    · obtain ⟨hnil, heq⟩ := took_pure.mp h₃
      rw [Except.ok.inj heq]
      exact ⟨hnil, rfl, rfl⟩
    · obtain ⟨hnil, heq⟩ := took_pure.mp h₃
      rw [Except.ok.inj heq]
      exact ⟨hnil, rfl, rfl⟩
  obtain ⟨rfl, hcause, hconfidence⟩ := hfinal
  refine ⟨diag, ?_, hcause, hconfidence⟩
  rw [List.append_nil] at hothers
  obtain ⟨mid, hothers₁, hothers₂⟩ := hothers.split hrefl
  obtain ⟨mid', hothers₃, hothers₄⟩ := hothers₂.split hrefl
  have hstored : Stored p state.incidentId rows [] mid' :=
    ((hs.began (workerStep_service (fun _ _ _ => trivial)) hasked.began hothers₁).began
      (workerStep_uuid4 _) hdrawn.began hothers₃)
  -- the row is added, and what follows it in the transaction adds no other
  rcases took_unitOfWork_block hrecord with ⟨-, e, hbad⟩ | hblock
  · simp at hbad
  cases hblock with
  | committed _ begun ended body hbody =>
      obtain ⟨found, m₁, m₂, rfl, hread, hbody₁⟩ := took_bind_ok hbody
      obtain ⟨read, rfl, -⟩ := took_select_ok hread
      obtain ⟨u, m₃, m₄, rfl, hadd, hbody₂⟩ := took_bind_ok hbody₁
      obtain ⟨added, s₁, rfl, ⟨hbad, -⟩ | hf⟩ := took_sql hadd
      · simp at hbad
      simp only [Option.some.injEq, Prod.mk.injEq] at hf
      obtain ⟨-, rfl⟩ := hf
      have hcut : (begun, begun.started ⟨p, 0⟩) :: ([(read, read)] ++
            ([(added, added.add ⟨p, 0⟩ (.diagnosis diag))] ++ m₄)) ++
              [(ended, (ended.commit ⟨p, 0⟩).record [])] =
          [(begun, begun.started ⟨p, 0⟩), (read, read)] ++
            ((added, added.add ⟨p, 0⟩ (.diagnosis diag)) :: (m₄ ++
              [(ended, (ended.commit ⟨p, 0⟩).record [])])) := by simp
      rw [hcut] at hothers₄
      obtain ⟨mid₂, hbefore, hspared, hafter⟩ := hothers₄.split hrefl
      have hbefore' : Stored p state.incidentId rows [] mid₂ := by
        refine hbefore.keeps (P := Stored p state.incidentId rows [])
          (fun _ _ hspares h => hspares.stored h) ?_ hstored
        intro q hq hq'
        simp only [List.mem_cons, List.not_mem_nil, or_false] at hq
        rcases hq with rfl | rfl
        · exact hq'.same rfl (fun _ => rfl)
        · exact hq'
      have hadded := (hspared.stored hbefore').add_diagnosis diag
      obtain ⟨mid₃, hrest, hended⟩ := hafter.split hrefl
      have hmoves : Within (WorkerStep p (fun k => .incident = k) (fun _ => True)
          (fun row => row.diagnosis? = none))
          (if answer.isActionable then leaveTriage actor ⟨p, 0⟩ state.incidentId found .diagnosed
          else do
            let inc ← leaveTriage actor ⟨p, 0⟩ state.incidentId found .escalated
            let cause := answer.rootCause
            createEscalationRecord ⟨p, 0⟩ state.incidentId s!"Diagnosis Escalation: {cause}"
              (textOrElse answer.escalationReason s!"Non-actionable diagnosis: {cause}") cause
              answer.escalationReason
            pure inc) := by
        split
        · exact workerStep_leaveTriage rfl _ _ _
        · exact Within.bind (workerStep_leaveTriage rfl _ _ _) (fun _ => Within.bind
            (workerStep_createEscalationRecord (fun _ => rfl) _ _ _ _ _) (fun _ => within_pure _))
      have hkept := hrest.keeps (P := Stored p state.incidentId rows [diag])
        (fun _ _ hspares h => hspares.stored h)
        (fun q hq h => h.worker (hmoves.began hbody₂.began q hq) (Or.inr (by simp))) hadded
      exact hended.2.stored ((hended.1.stored hkept).commit_diagnosis rfl _)

/-! #### The three nodes -/

variable {services : WorkflowServices} {s₀ : IncidentGraphState}
  {visits : List (Visit Db WorkflowNode IncidentGraphState)}

/-- **Where there is a diagnosis**, none is made, and that of the beginning is handed on. -/
theorem comes_policy_skipped
    (h : (incidentWorkflow p actor services).Comes .collectEvidence s₀ visits .evaluatePolicy state)
    (hsome : s₀.currentDiagnosisId ≠ none)
    (hothers : Between (SparesDiagnoses p i) first (visits.flatMap Visit.steps) last)
    (hs : Stored p i rows [] first) :
    Stored p i rows [] last ∧ state.rootCause = s₀.rootCause ∧
      state.confidence = s₀.confidence := by
  have hrefl : ∀ s : Db, SparesDiagnoses p i s s := fun _ => ⟨rfl, fun _ => rfl⟩
  cases comes_path h with
  | past hnode => cases hnode
  | @planned s₁ s₂ _ l₁ l₂ l₃ hcollect hdiagnose hplanned =>
      have hcollects :=
        (returns_executeWithPolicy .collectEvidence returns_collectEvidenceNode).took hcollect
      have hplans := returns_planNode.took hplanned
      have hsome₁ : s₁.currentDiagnosisId ≠ none := by
        rw [hcollects.id]
        exact hsome
      have hkept := (returns_diagnoseNode.took hdiagnose).2 hsome₁
      have hskipped : l₂ = [] := by
        unfold diagnoseNode at hdiagnose
        split at hdiagnose
        · exact (took_pure.mp hdiagnose).1
        · rename_i hnone
          exact absurd hnone hsome₁
      subst hskipped
      have hcut : [(⟨.collectEvidence, s₀, l₁, s₁⟩ : Visit Db WorkflowNode IncidentGraphState),
          ⟨.diagnose, s₁, [], s₂⟩, ⟨.plan, s₂, l₃, state⟩].flatMap Visit.steps = l₁ ++ l₃ := by simp
      rw [hcut] at hothers
      obtain ⟨mid, hcollected, hplanning⟩ := hothers.split hrefl
      refine ⟨?_, ?_, ?_⟩
      · have hmid := hs.began (within_executeWithPolicy .collectEvidence
          (workerStep_collectEvidenceNode (fun _ h => h) permits_all _ trivial)) hcollect.began
          hcollected
        exact hmid.began (workerStep_planNode (fun _ h => h) permits_all _) hplanned.began hplanning
      · rw [hplans.rootCause, hkept.rootCause, hcollects.rootCause]
      · rw [hplans.confidence, hkept.confidence, hcollects.confidence]

/-- **Where there is no diagnosis**, one is made, and it is the newest. -/
theorem comes_policy_made
    (h : (incidentWorkflow p actor services).Comes .collectEvidence s₀ visits .evaluatePolicy state)
    (hnone : s₀.currentDiagnosisId = none) (hi : s₀.incidentId = i)
    (hothers : Between (SparesDiagnoses p i) first (visits.flatMap Visit.steps) last)
    (hs : Stored p i rows [] first) :
    ∃ diag : Diagnosis, Stored p i (diag :: rows) [] last ∧ state.rootCause = some diag.rootCause ∧
      state.confidence = some diag.confidence := by
  have hrefl : ∀ s : Db, SparesDiagnoses p i s s := fun _ => ⟨rfl, fun _ => rfl⟩
  cases comes_path h with
  | past hnode => cases hnode
  | @planned s₁ s₂ _ l₁ l₂ l₃ hcollect hdiagnose hplanned =>
      have hcollects :=
        (returns_executeWithPolicy .collectEvidence returns_collectEvidenceNode).took hcollect
      have hplans := returns_planNode.took hplanned
      have hcut : [(⟨.collectEvidence, s₀, l₁, s₁⟩ : Visit Db WorkflowNode IncidentGraphState),
          ⟨.diagnose, s₁, l₂, s₂⟩, ⟨.plan, s₂, l₃, state⟩].flatMap Visit.steps =
            l₁ ++ (l₂ ++ l₃) := by simp
      rw [hcut] at hothers
      obtain ⟨mid, hcollected, hrest⟩ := hothers.split hrefl
      obtain ⟨mid', hdiagnosed, hplanning⟩ := hrest.split hrefl
      have hmid := hs.began (within_executeWithPolicy .collectEvidence
        (workerStep_collectEvidenceNode (fun _ h => h) permits_all _ trivial)) hcollect.began
        hcollected
      have hi₁ : s₁.incidentId = i := by rw [hcollects.incidentId, hi]
      rw [← hi₁] at hdiagnosed hmid
      obtain ⟨diag, hmade, hcause, hconfidence⟩ :=
        took_diagnoseNode_stores hdiagnose (hcollects.id.trans hnone) hdiagnosed hmid
      rw [hi₁] at hmade
      refine ⟨diag, ?_, hplans.rootCause.trans hcause, hplans.confidence.trans hconfidence⟩
      exact hmade.began (workerStep_planNode (fun _ h => h) permits_all _) hplanned.began hplanning

end Way

/-! ### A context, and the run that has come to it -/

section Context

variable {p i : Nat} {actor : String} {services : WorkflowServices} {expectedVersion : Option Nat}
  {metadata : ResumeMetadata} {arranged : List Diagnosis → List Diagnosis}

/-- A run that has come to the policy, where a context has been made, part by part. -/
structure BuildsContext (p i : Nat) (actor : String) (services : WorkflowServices)
    (expectedVersion : Option Nat) (metadata : ResumeMetadata)
    (arranged : List Diagnosis → List Diagnosis) (saved : Option IncidentGraphState)
    (ctx : EvaluationContext) (steps : List (Db × Db)) : Prop where
  parts : ∃ r token state planId visits inspected acquired verified restored looked,
    steps = inspected ++ (acquired ++ (verified ++ (restored ++
      (visits.flatMap Visit.steps ++ looked)))) ∧
    (inspectIncident p actor i expectedVersion arranged).Took inspected (.ok (some r)) ∧
    (unitOfWork ⟨p, 0⟩ actor (acquireIncidentLease ⟨p, 0⟩ i actor 30 (some r.incident.version))
      (fun _ => [.entered p i actor])).Took acquired (.ok token) ∧
    (unitOfWork ⟨p, 0⟩ actor (verifyIncidentLease ⟨p, 0⟩ i token (some r.incident.version))).Took
      verified (.ok true) ∧
    (Interleaving.Prog.stmt fun w db => some (.ok w.checkpoint, db) :
      Prog (Option IncidentGraphState)).Took restored (.ok saved) ∧
    (incidentWorkflow p actor services).Comes .collectEvidence
      (r.initialState saved metadata) visits
      .evaluatePolicy state ∧
    state.currentPlanId = some planId ∧ (policyContext p actor state planId).Took looked (.ok ctx)

/-- It is a run. -/
theorem BuildsContext.began {saved : Option IncidentGraphState} {ctx : EvaluationContext}
    {steps : List (Db × Db)}
    (h : BuildsContext p i actor services expectedVersion metadata arranged saved ctx steps) :
    (runIncident p actor i services expectedVersion metadata arranged).Began steps := by
  obtain ⟨r, token, state, planId, visits, inspected, acquired, verified, restored, looked, rfl,
    hinspected, hacquired, hverified, hrestored, hcomes, hplan, hlooked⟩ := h.parts
  have hnode : ((incidentWorkflow p actor services).node .evaluatePolicy state).Began looked := by
    show (evaluatePolicyNode p actor state services.evaluate).Began looked
    unfold evaluatePolicyNode
    rw [hplan]
    exact hlooked.began.bind _
  have hlimit : visits.length < recursionLimit := by
    cases comes_path hcomes with
    | planned => simp [recursionLimit]
    | past hnode => cases hnode
  have hgraph : ((incidentWorkflow p actor services).invoke graphRecursionError recursionLimit
      .collectEvidence (r.initialState saved metadata)).Began
        (visits.flatMap Visit.steps ++ looked) := hcomes.began hnode hlimit
  refine hinspected.began_bind (Began.bind
    (hacquired.began_bind (Began.bind (Began.guarded ?_ _) _))
    _)
  exact hverified.began_bind (hrestored.began_bind (hgraph.bind _))

/-- What the run has read of the diagnoses. -/
theorem took_inspectIncident_diagnoses {r : Reconstruction} {l : List (Db × Db)}
    (h : (inspectIncident p actor i expectedVersion arranged).Took l (.ok (some r))) :
    ∃ q ∈ l, r.diagnoses = arranged (q.1.diagnosesOf i).reverse := by
  obtain ⟨q, hq, hr⟩ := (took_inspectIncident h).diagnoses
  refine ⟨q, hq, ?_⟩
  rw [hr, List.filter_reverse]
  rfl

/-- What the graph begins with of a diagnosis. -/
theorem initialState_diagnosis (r : Reconstruction) (saved : Option IncidentGraphState)
    (metadata : ResumeMetadata) :
    (r.initialState saved metadata).currentDiagnosisId = r.latestDiagnosis.map Diagnosis.id ∧
      (r.initialState saved metadata).rootCause = r.latestDiagnosis.map Diagnosis.rootCause ∧
      (r.initialState saved metadata).confidence =
        saved.bind IncidentGraphState.confidence := by
  unfold Reconstruction.initialState
  cases r.latestPlan with
  | none => cases saved with
    | none => exact ⟨rfl, rfl, rfl⟩
    | some state => exact ⟨rfl, rfl, rfl⟩
  | some plan => cases saved with
    | none => exact ⟨rfl, rfl, rfl⟩
    | some state => exact ⟨rfl, rfl, rfl⟩

theorem took_policyContext {state : IncidentGraphState} {planId : Nat} {ctx : EvaluationContext}
    {l : List (Db × Db)} (h : (policyContext p actor state planId).Took l (.ok ctx)) :
    ctx.confidence = state.confidence.getD (90 / 100) ∧
      ctx.rootCause = state.rootCause.getD "CONTAINER_STOPPED" := by
  obtain ⟨⟨plan, control, inc⟩, l₁, l₂, rfl, -, hrest⟩ := took_bind_ok h
  obtain ⟨now, l₃, l₄, rfl, -, hpure⟩ := took_bind_ok hrest
  obtain ⟨-, heq⟩ := took_pure.mp hpure
  rw [Except.ok.inj heq]
  exact ⟨rfl, rfl⟩

/-- The context has the confidence and the cause of the diagnosis. -/
structure EvaluationContext.Sees (ctx : EvaluationContext) (diag : Diagnosis) : Prop where
  confidence : ctx.confidence = diag.confidence
  rootCause : ctx.rootCause = diag.rootCause

/-- If there are diagnoses when a run begins, newest first, the checkpoint has the confidence of the
newest, or has none and it is ninety per cent; and the row that the query returns last has its
cause. -/
def Recalls (arranged : List Diagnosis → List Diagnosis) (saved : Option IncidentGraphState)
    (rows : List Diagnosis) : Prop :=
  ∀ newest, rows.head? = some newest →
    (saved.bind IncidentGraphState.confidence).getD (90 / 100) = newest.confidence ∧
    (arranged rows.reverse).getLast?.map Diagnosis.rootCause = some newest.rootCause

/-- **When the policy sees the stored diagnosis.**  A run that has come to the policy has made its
context with the confidence and the cause of the most recently created diagnosis of the incident if
and only if there was none when it began, or what it began with has them.  Nobody else makes a
diagnosis of the incident meanwhile. -/
theorem policy_sees_diagnosis_iff (p i : Nat) (actor : String) (services : WorkflowServices)
    (expectedVersion : Option Nat) (metadata : ResumeMetadata)
    (arranged : List Diagnosis → List Diagnosis) (saved : Option IncidentGraphState)
    (ctx : EvaluationContext) (steps : List (Db × Db)) (first last : Db)
    (harranged : ∀ rows, (arranged rows).Perm rows)
    (hbuilds : BuildsContext p i actor services expectedVersion metadata arranged saved ctx steps)
    (hothers : Between (SparesDiagnoses p i) first steps last)
    (hfresh : ∀ l, first.added ⟨p, l⟩ = []) :
    (∃ newest, last.newestDiagnosis i = some newest ∧ ctx.Sees newest) ↔
      Recalls arranged saved (first.diagnosesOf i) := by
  have hrefl : ∀ s : Db, SparesDiagnoses p i s s := fun _ => ⟨rfl, fun _ => rfl⟩
  obtain ⟨r, token, state, planId, visits, inspected, acquired, verified, restored, looked, rfl,
    hinspected, hacquired, hverified, hrestored, hcomes, hplan, hlooked⟩ := hbuilds.parts
  obtain ⟨mid₁, hothers₁, hrest₁⟩ := hothers.split hrefl
  obtain ⟨mid₂, hothers₂, hrest₂⟩ := hrest₁.split hrefl
  obtain ⟨mid₃, hothers₃, hrest₃⟩ := hrest₂.split hrefl
  obtain ⟨mid₄, hothers₄, hrest₄⟩ := hrest₃.split hrefl
  obtain ⟨mid₅, hothers₅, hothers₆⟩ := hrest₄.split hrefl
  have hstored : Stored p i (first.diagnosesOf i) [] first :=
    ⟨rfl, by rw [hfresh]; rfl, fun l _ => by rw [hfresh]; rfl⟩
  -- the rows that the run reads at its beginning are those
  have hinspects : Within (Undiagnosing p) (inspectIncident p actor i expectedVersion arranged) :=
    workerStep_inspectIncident permits_all _ _ _ (fun _ _ => trivial)
  have hread : r.diagnoses = arranged (first.diagnosesOf i).reverse := by
    obtain ⟨q, hq, hr⟩ := took_inspectIncident_diagnoses hinspected
    have hat := hothers₁.keeps_at (P := Stored p i (first.diagnosesOf i) [])
      (fun _ _ hspares h => hspares.stored h)
      (fun q hq h => h.worker (hinspects.began hinspected.began q hq) (Or.inl rfl)) hstored q hq
    rw [hr, hat.rows]
  have hi : r.incidentId = i := returns_inspectIncident.took hinspected r rfl
  have hbegun : Stored p i (first.diagnosesOf i) [] mid₄ := by
    have h₁ := hstored.began hinspects hinspected.began hothers₁
    have h₂ := h₁.began (workerStep_unitOfWork trivial
      (workerStep_acquireIncidentLease trivial _ _ _)
      (fun _ _ _ => trivial)) hacquired.began hothers₂
    have h₃ := h₂.began (workerStep_unitOfWork_unseen trivial
      (workerStep_verifyIncidentLease _ _ _))
      hverified.began hothers₃
    exact h₃.began (workerStep_asked (fun w => .ok w.checkpoint)) hrestored.began hothers₄
  obtain ⟨hid, hcause, hconfidence⟩ := initialState_diagnosis r saved metadata
  have hlatest : r.latestDiagnosis = (arranged (first.diagnosesOf i).reverse).getLast? := by
    unfold Reconstruction.latestDiagnosis
    rw [hread]
  have hnewest : ∀ rows, Stored p i rows [] mid₅ → last.newestDiagnosis i = rows.head? := by
    intro rows hrows
    have hlast := hrows.began (workerStep_policyContext permits_all _ _) hlooked.began hothers₆
    unfold Db.newestDiagnosis
    rw [hlast.rows]
  obtain ⟨hctx, hctx'⟩ := took_policyContext hlooked
  cases hrows : first.diagnosesOf i with
  | nil =>
      have hnone : (r.initialState saved metadata).currentDiagnosisId = none := by
        rw [hid, hlatest, hrows, List.reverse_nil, List.perm_nil.mp (harranged [])]
        rfl
      obtain ⟨diag, hmade, hcause', hconfidence'⟩ := comes_policy_made hcomes hnone
        ((initialState_begins r saved metadata).1.trans hi) hothers₅ hbegun
      refine iff_of_true ⟨diag, hnewest _ hmade, ?_, ?_⟩ ?_
      · rw [hctx, hconfidence']
        rfl
      · rw [hctx', hcause']
        rfl
      · intro newest hhead
        cases hhead
  | cons newest rest =>
      have hperm := harranged (first.diagnosesOf i).reverse
      have hne : arranged (first.diagnosesOf i).reverse ≠ [] := by
        intro hnil
        rw [hnil, hrows] at hperm
        simpa using hperm.length_eq
      obtain ⟨latest, hgot⟩ := Option.ne_none_iff_exists'.mp
        (fun h => hne (List.getLast?_eq_none_iff.mp h))
      obtain ⟨hkept, hroot, hconf⟩ := comes_policy_skipped hcomes (by rw [hid, hlatest, hgot]; simp)
        hothers₅ hbegun
      have hhead : last.newestDiagnosis i = some newest := by
        rw [hnewest _ hkept, hrows]
        rfl
      rw [hconf, hconfidence] at hctx
      rw [hroot, hcause, hlatest, hgot] at hctx'
      rw [hrows] at hgot
      unfold Recalls
      rw [hgot]
      constructor
      · rintro ⟨diag, hdiag, hsees⟩
        rw [hhead] at hdiag
        cases hdiag
        intro newest' hnewest'
        cases hnewest'
        exact ⟨hctx.symm.trans hsees.confidence, congrArg some (hctx'.symm.trans hsees.rootCause)⟩
      · intro hrecalls
        obtain ⟨hconf', hroot'⟩ := hrecalls newest rfl
        exact ⟨newest, hhead, hctx.trans hconf', hctx'.trans (Option.some.inj hroot')⟩

end Context

/-! ### Without a checkpoint -/

/-- An incident that was diagnosed with a confidence of sixty per cent, and planned. -/
def doubtfulDemo : Db :=
  { approvedDemo with
    nextId := 10
    incidents := Function.update (fun _ => Cell.empty) 1
      (Cell.ofRow { approvedIncident with state := .planned, approvalRequired := false })
    diagnoses := [⟨9, 1, "CONTAINER_STOPPED", 60 / 100, none⟩]
    approvals := [] }

/-- Run alone on a state, the program ends with `a`. -/
def endsWith {α : Type} (x : Prog α) (ws : List World) (db : Db) (test : α → Db → Bool) : Bool :=
  x.passes ws db fun r s => match r with
    | .ok a => test a s
    | .error _ => false

theorem took_of_endsWith {α : Type} {x : Prog α} {ws : List World} {db : Db} {test : α → Db → Bool}
    (h : endsWith x ws db test = true) :
    ∃ a last steps, x.Took steps (.ok a) ∧ Between (fun s s' => s = s') db steps last ∧
      test a last = true := by
  obtain ⟨r, last, steps, htook, halone, htest⟩ := alone_of_passes h
  cases r with
  | error e => cases htest
  | ok a => exact ⟨a, last, steps, htook, halone, htest⟩

/-- Run alone without a checkpoint, part by part, a run comes to the policy. -/
def buildsAlone (p i : Nat) (actor : String) (ws : List World) (db : Db)
    (test : EvaluationContext → Db → Bool) : Bool :=
  endsWith (inspectIncident p actor i none) ws db fun found s => found.any fun r =>
    endsWith (unitOfWork ⟨p, 0⟩ actor
      (acquireIncidentLease ⟨p, 0⟩ i actor 30 (some r.incident.version))
      (fun _ => [.entered p i actor])) ws s fun token s =>
    endsWith (unitOfWork ⟨p, 0⟩ actor
      (verifyIncidentLease ⟨p, 0⟩ i token (some r.incident.version))) ws s fun held s =>
    held && endsWith (executeWithPolicy .collectEvidence
      (collectEvidenceNode p actor (r.initialState none {}))) ws s fun s₁ s =>
    endsWith (diagnoseNode p actor s₁) ws s fun s₂ s =>
    decide (WorkflowNode.diagnose.next s₂ = some .plan) &&
      endsWith (planNode p actor s₂) ws s fun s₃ s =>
    decide (WorkflowNode.plan.next s₃ = some .evaluatePolicy) && s₃.currentPlanId.any fun planId =>
    endsWith (policyContext p actor s₃ planId) ws s test

theorem buildsContext_of_alone {p i : Nat} {actor : String} {services : WorkflowServices}
    {ws : List World} {db : Db} {test : EvaluationContext → Db → Bool}
    (h : buildsAlone p i actor ws db test = true) :
    ∃ ctx steps last, BuildsContext p i actor services none {} id none ctx steps ∧
      Between (fun s s' => s = s') db steps last ∧ test ctx last = true := by
  have htrans : ∀ s t u : Db, s = t → t = u → s = u := fun _ _ _ h h' => h.trans h'
  obtain ⟨found, db₁, inspected, hinspected, halone₁, h₁⟩ := took_of_endsWith h
  obtain ⟨r, rfl, h₂⟩ := (Option.any_eq_true _ _).mp h₁
  obtain ⟨token, db₂, acquired, hacquired, halone₂, h₃⟩ := took_of_endsWith h₂
  obtain ⟨held, db₃, verified, hverified, halone₃, h₄⟩ := took_of_endsWith h₃
  obtain ⟨rfl, h₅⟩ := Bool.and_eq_true_iff.mp h₄
  obtain ⟨s₁, db₄, l₁, hcollect, halone₄, h₆⟩ := took_of_endsWith h₅
  obtain ⟨s₂, db₅, l₂, hdiagnose, halone₅, h₇⟩ := took_of_endsWith h₆
  obtain ⟨hnext, h₈⟩ := Bool.and_eq_true_iff.mp h₇
  obtain ⟨s₃, db₆, l₃, hplan, halone₆, h₉⟩ := took_of_endsWith h₈
  obtain ⟨hnext', h₁₀⟩ := Bool.and_eq_true_iff.mp h₉
  obtain ⟨planId, hplanId, h₁₁⟩ := (Option.any_eq_true _ _).mp h₁₀
  obtain ⟨ctx, last, looked, hlooked, halone₇, htest⟩ := took_of_endsWith h₁₁
  -- the checkpoint is asked for in between
  have hrestored : (Interleaving.Prog.stmt fun w db => some (.ok w.checkpoint, db) :
      Prog (Option IncidentGraphState)).Took [(db₃, db₃)] (.ok none) :=
    .step _ _ { checkpoint := none } db₃ _ db₃ [] _ rfl (.ret _)
  let G := incidentWorkflow p actor services
  have hcomes₁ : G.Comes .collectEvidence (r.initialState none {}) _ .diagnose s₁ :=
    .visit .start hcollect rfl
  have hcomes₂ : G.Comes .collectEvidence (r.initialState none {}) _ .plan s₂ :=
    .visit hcomes₁ hdiagnose (of_decide_eq_true hnext)
  have hcomes₃ : G.Comes .collectEvidence (r.initialState none {}) _ .evaluatePolicy s₃ :=
    .visit hcomes₂ hplan (of_decide_eq_true hnext')
  refine ⟨ctx, _, last, ⟨r, token, s₃, planId, _, inspected, acquired, verified,
    [(db₃, db₃)], looked,
    rfl, hinspected, hacquired, hverified, hrestored, hcomes₃, hplanId, hlooked⟩, ?_, htest⟩
  simp only [List.nil_append, List.cons_append, List.flatMap_cons, List.flatMap_nil,
    List.append_nil,
    List.append_assoc]
  exact halone₁.append htrans (halone₂.append htrans (halone₃.append htrans ⟨rfl,
    halone₄.append htrans (halone₅.append htrans (halone₆.append htrans halone₇))⟩))

/-- Without a checkpoint the confidence is ninety per cent. -/
theorem buildsContext_doubtful :
    ∃ (ctx : EvaluationContext) (steps : List (Db × Db)) (last : Db),
      BuildsContext 0 1 "worker:a" (defaultServices 0 "worker:a") none {} id none ctx steps ∧
      Between (fun s s' => s = s') doubtfulDemo steps last ∧
      (last.newestDiagnosis 1).map Diagnosis.confidence = some (60 / 100) ∧
      ctx.confidence = 90 / 100 := by
  have hbuilds : buildsAlone 0 1 "worker:a" (List.replicate 20 {}) doubtfulDemo (fun ctx last =>
      decide ((last.newestDiagnosis 1).map Diagnosis.confidence = some (60 / 100) ∧
        ctx.confidence = 90 / 100)) = true := by decide +kernel
  obtain ⟨ctx, steps, last, hctx, halone, htest⟩ := buildsContext_of_alone hbuilds
  exact ⟨ctx, steps, last, hctx, halone, of_decide_eq_true htest⟩

/-- The policy sees another confidence than the one that was stored. -/
theorem policy_sees_diagnosis_iff_doubtful :
    ∃ (ctx : EvaluationContext) (steps : List (Db × Db)) (last : Db),
      BuildsContext 0 1 "worker:a" (defaultServices 0 "worker:a") none {} id none ctx steps ∧
      ((∃ newest, last.newestDiagnosis 1 = some newest ∧ ctx.Sees newest) ↔
        Recalls id none (doubtfulDemo.diagnosesOf 1)) := by
  obtain ⟨ctx, steps, last, hctx, halone, -⟩ := buildsContext_doubtful
  refine ⟨ctx, steps, last, hctx, ?_⟩
  refine policy_sees_diagnosis_iff 0 1 "worker:a" (defaultServices 0 "worker:a") none {} id none ctx
    steps doubtfulDemo last (fun rows => List.Perm.refl rows) hctx (halone.mono ?_) (fun _ => rfl)
  rintro s _ rfl
  exact ⟨rfl, fun _ => rfl⟩

/-- **The confidence is forgotten.**  An incident was diagnosed with a confidence of sixty per cent and
planned, and the worker died.  A run that finds no checkpoint has the policy decide on ninety. -/
theorem confidence_forgotten :
    ∃ (ctx : EvaluationContext) (steps : List (Db × Db)) (last : Db),
      BuildsContext 0 1 "worker:a" (defaultServices 0 "worker:a") none {} id none ctx steps ∧
      (runIncident 0 "worker:a" 1 (defaultServices 0 "worker:a") none {}).Began steps ∧
      Between (fun s s' => s = s') doubtfulDemo steps last ∧
      (last.newestDiagnosis 1).map Diagnosis.confidence = some (60 / 100) ∧
      ctx.confidence = 90 / 100 := by
  obtain ⟨ctx, steps, last, hctx, halone, hstored, hconfidence⟩ := buildsContext_doubtful
  exact ⟨ctx, steps, last, hctx, hctx.began, halone, hstored, hconfidence⟩

end SelfHealing
