/-
What the policy engine decides.

The decision is made from what the ten gates report, by a list of the codes that deny and a last
branch that allows.  That the last branch is reached only if every gate passes rests on gate 10:
it has no code for a refusal but those of the list and the one that asks for an approval
(`approval_code`).  With that, the outcome follows from the results of the gates by their cases
(`outcome_of_codes`), and the engine gives it wherever it gives one (`policy_outcomes`).

More caution never allows more: of the gates, each passes less often as the list of stopped
resources grows, as attempts are made, as the confidence falls or as automation is taken back.
This is shown gate by gate, for contexts without a grant, where gate 10 passes only if nobody has
to approve.

Three results are built on the outcome.  On typed contexts, which the workflow makes, the engine
does what the engine on typed contexts does.  An approval that lets a plan pass is bound to it if
the grant gives what binds it.  And a deferral for the cooldown ends when it says it ends.
-/
import SelfHealing.Proofs.PolicyRaises

namespace SelfHealing

variable {ctx : PolicyInputs} {rules : PolicyRuleSet}

/-! ### The gates

What gate 10 may say is read off its branches once, and everything that is said of the outcome
below is said of ten results of which only this much is known.
-/

theorem evaluate_ok {d : PolicyEvaluation} (h : ctx.evaluate rules = .ok d) :
    ∃ r, ctx.gates rules = .ok r ∧ d.decision = r.outcome.1 ∧ d.waitReason = r.outcome.2 ∧
      d.ruleResults = r.toList ∧
      (d.waitReason = some .waitingForCooldown →
        ctx.cooldownEnd rules = .ok d.deferUntil) := by
  unfold PolicyInputs.evaluate at h
  obtain ⟨r, hr, h⟩ := bind_ok.mp h
  obtain ⟨deferUntil, huntil, h⟩ := bind_ok.mp h
  rw [← Except.ok.inj h]
  refine ⟨r, hr, rfl, rfl, rfl, fun hwait => ?_⟩
  unfold PolicyInputs.deferUntil at huntil
  rwa [if_pos hwait] at huntil

theorem evaluate_completes {r : GateResults} (hr : ctx.gates rules = .ok r) :
    Completes (ctx.evaluate rules) ↔
      (r.outcome.2 = some .waitingForCooldown → Completes (ctx.cooldownEnd rules)) := by
  have huntil : Completes (ctx.deferUntil rules r.outcome.2) ↔
      (r.outcome.2 = some .waitingForCooldown → Completes (ctx.cooldownEnd rules)) :=
    completes_ite.trans (and_iff_left fun _ => completes_pure _)
  rw [← huntil]
  unfold PolicyInputs.evaluate
  rw [completes_bind]
  constructor
  · rintro ⟨r', hr', hrest⟩
    obtain ⟨deferUntil, huntil, -⟩ := completes_bind.mp hrest
    rw [hr] at hr'
    rw [← Except.ok.inj hr'] at huntil
    exact ⟨deferUntil, huntil⟩
  · rintro ⟨deferUntil, huntil⟩
    exact ⟨r, hr, completes_bind.mpr ⟨deferUntil, huntil, completes_pure _⟩⟩

/-- The codes of a grant. -/
theorem grantCode_ok {grant : PyDict} {code : String} (h : ctx.grantCode grant = .ok code) :
    code = "APPROVAL_VALID" ∨ code ∈ deniedApprovals := by
  unfold PolicyInputs.grantCode at h
  obtain ⟨decision, -, h⟩ := bind_ok.mp h
  split_ifs at h with h1 h2 h3 h4
  · obtain ⟨-, -, h⟩ := bind_ok.mp h
    exact Or.inr (by rw [← Except.ok.inj h]; decide)
  · exact Or.inr (by rw [← Except.ok.inj h]; decide)
  · obtain ⟨-, -, h⟩ := bind_ok.mp h
    obtain ⟨-, -, h⟩ := bind_ok.mp h
    exact Or.inr (by rw [← Except.ok.inj h]; decide)
  · exact Or.inr (by rw [← Except.ok.inj h]; decide)
  · obtain ⟨expired, -, h⟩ := bind_ok.mp h
    split_ifs at h with h5
    · exact Or.inr (by rw [← Except.ok.inj h]; decide)
    · obtain ⟨authorized, -, h⟩ := bind_ok.mp h
      split_ifs at h with h6
      · exact Or.inl (Except.ok.inj h).symm
      · obtain ⟨-, -, h⟩ := bind_ok.mp h
        exact Or.inr (by rw [← Except.ok.inj h]; decide)

/-- **Gate 10 refuses only with a code that denies or with the one that asks for an approval.** -/
theorem approval_code {r : RuleEvaluationResult}
    (h : ctx.evaluateApprovalRequirement rules = .ok r) (hfail : r.passed = false) :
    r.reasonCode = "APPROVAL_REQUIRED" ∨ r.reasonCode ∈ deniedApprovals := by
  unfold PolicyInputs.evaluateApprovalRequirement at h
  split_ifs at h with hrequired
  · cases hgrant : ctx.approvalGrant with
    | none =>
        rw [hgrant] at h
        rw [← Except.ok.inj h]
        exact Or.inl rfl
    | some grant =>
        rw [hgrant] at h
        obtain ⟨code, hcode, h⟩ := bind_ok.mp h
        rw [← Except.ok.inj h] at hfail ⊢
        have hinvalid : code ≠ "APPROVAL_VALID" := of_decide_eq_false hfail
        exact Or.inr ((grantCode_ok hcode).resolve_left hinvalid)
  · rw [← Except.ok.inj h] at hfail
    cases hfail

/-! ### The decision

Denied, deferred and passed are predicates on the ten results, and each is matched with the branch
of the engine that it leads to.  The engine decides on the codes of the gates that have failed; a
gate gives few codes, and which of them deny is seen by going through them once.
-/

/-- Some gate denies: one of the first seven, or the approval that is given does not count. -/
def GateResults.Denied (r : GateResults) : Prop :=
  (∃ gate ∈ r.toList.take 7, gate.passed = false) ∨
    r.approval.passed = false ∧ r.approval.reasonCode ≠ "APPROVAL_REQUIRED"

/-- Something has to be waited for. -/
def GateResults.Deferred (r : GateResults) : Prop :=
  r.cooldown.passed = false ∨ r.resourceLock.passed = false

/-- Every gate passes. -/
def GateResults.AllPass (r : GateResults) : Prop := ∀ gate ∈ r.toList, gate.passed = true

theorem hardDeny_iff {r : GateResults}
    (hcode : r.approval.passed = false →
      r.approval.reasonCode = "APPROVAL_REQUIRED" ∨ r.approval.reasonCode ∈ deniedApprovals) :
    r.hardDeny = true ↔ r.Denied := by
  have hnot : "APPROVAL_REQUIRED" ∉ deniedApprovals := by decide
  have happroval : (!r.approval.passed && deniedApprovals.contains r.approval.reasonCode) = true ↔
      r.approval.passed = false ∧ r.approval.reasonCode ≠ "APPROVAL_REQUIRED" := by
    rw [Bool.and_eq_true, Bool.not_eq_true', List.contains_iff_mem]
    constructor
    · rintro ⟨hfail, hmem⟩
      refine ⟨hfail, fun heq => hnot ?_⟩
      rwa [← heq]
    · rintro ⟨hfail, hne⟩
      exact ⟨hfail, (hcode hfail).resolve_left hne⟩
  unfold GateResults.hardDeny GateResults.Denied
  rw [Bool.or_eq_true, happroval]
  refine or_congr_left ?_
  simp only [GateResults.toList, List.take, List.any_cons, List.any_nil, Bool.or_false,
    Bool.or_eq_true, Bool.not_eq_true', List.mem_cons, List.not_mem_nil, or_false,
    exists_eq_or_imp, exists_eq_left, or_assoc]
  -- the list of gates has the confidence before the budget
  rw [or_comm (a := r.attemptBudget.passed = false)]

theorem allPass_iff {r : GateResults} :
    r.AllPass ↔ ¬ r.Denied ∧ ¬ r.Deferred ∧ r.approval.passed = true := by
  have hsplit : r.toList = r.toList.take 7 ++ [r.cooldown, r.resourceLock, r.approval] := rfl
  unfold GateResults.AllPass GateResults.Denied GateResults.Deferred
  constructor
  · intro hall
    have hpass : ∀ gate ∈ r.toList, ¬ gate.passed = false := by
      intro gate hgate
      rw [hall gate hgate]
      simp only [Bool.true_eq_false, not_false_eq_true]
    have hlast : ∀ gate ∈ [r.cooldown, r.resourceLock, r.approval], gate ∈ r.toList := by
      intro gate hgate
      rw [hsplit]
      exact List.mem_append_right _ hgate
    refine ⟨?_, ?_, hall _ (hlast _ (by simp))⟩
    · rintro (⟨gate, hgate, hfail⟩ | ⟨hfail, -⟩)
      · exact hpass gate (List.mem_of_mem_take hgate) hfail
      · exact hpass _ (hlast _ (by simp)) hfail
    · rintro (hfail | hfail)
      · exact hpass _ (hlast _ (by simp)) hfail
      · exact hpass _ (hlast _ (by simp)) hfail
  · rintro ⟨hdenied, hdeferred, happroval⟩ gate hgate
    rw [hsplit] at hgate
    rw [← Bool.not_eq_false]
    intro hfail
    rcases List.mem_append.mp hgate with hgate | hgate
    · exact hdenied (Or.inl ⟨gate, hgate, hfail⟩)
    · simp only [List.mem_cons, List.not_mem_nil, or_false] at hgate
      rcases hgate with rfl | rfl | rfl
      · exact hdeferred (Or.inl hfail)
      · exact hdeferred (Or.inr hfail)
      · rw [happroval] at hfail
        cases hfail

/-- The outcome, where gate 10 keeps to its codes: the last branch allows only what passes. -/
theorem outcome_of_codes {r : GateResults}
    (hcode : r.approval.passed = false →
      r.approval.reasonCode = "APPROVAL_REQUIRED" ∨ r.approval.reasonCode ∈ deniedApprovals) :
    (r.outcome.1 = .allow ↔ r.AllPass) ∧ (r.outcome.1 = .deny ↔ r.Denied) ∧
      (¬ r.Denied → (r.outcome.1 = .defer ↔ r.Deferred)) ∧
      (¬ r.AllPass → ¬ r.Denied → ¬ r.Deferred → r.outcome.1 = .requireApproval) := by
  rw [allPass_iff, ← hardDeny_iff hcode]
  unfold GateResults.outcome GateResults.Deferred
  by_cases hdeny : r.hardDeny = true
  · rw [if_pos hdeny]
    simp [hdeny]
  · rw [if_neg hdeny]
    cases hcooldown : r.cooldown.passed with
    | false => simp [hdeny]
    | true =>
        cases hlock : r.resourceLock.passed with
        | false => simp [hdeny]
        | true =>
            cases happroval : r.approval.passed with
            | true => simp [hdeny]
            | false =>
                have hrequired : r.approval.reasonCode = "APPROVAL_REQUIRED" := by
                  rcases hcode happroval with h | h
                  · exact h
                  · refine absurd ?_ hdeny
                    unfold GateResults.hardDeny
                    rw [happroval, List.contains_iff_mem.mpr h]
                    simp
                simp [hdeny, hrequired]

/-- The gates keep to the codes of gate 10. -/
theorem codes_of_gates {r : GateResults} (hr : ctx.gates rules = .ok r)
    (hfail : r.approval.passed = false) :
    r.approval.reasonCode = "APPROVAL_REQUIRED" ∨ r.approval.reasonCode ∈ deniedApprovals := by
  obtain ⟨confidence, attemptBudget, cooldown, approval, -, -, -, happroval, rfl⟩ := gates_ok.mp hr
  exact approval_code happroval hfail

/-- What is waited for is the end of the cooldown, where nothing denies and gate 8 fails. -/
theorem waits_iff {r : GateResults} (hr : ctx.gates rules = .ok r) :
    r.outcome.2 = some .waitingForCooldown ↔ ¬ r.Denied ∧ r.cooldown.passed = false := by
  rw [← hardDeny_iff (codes_of_gates hr)]
  unfold GateResults.outcome
  by_cases hdeny : r.hardDeny = true
  · rw [if_pos hdeny]
    simp [hdeny]
  · rw [if_neg hdeny]
    cases hcooldown : r.cooldown.passed with
    | false => simp [hdeny]
    | true => split_ifs <;> simp_all

/-- The clock, at the end of the cooldown, shows a time that there is. -/
def PolicyInputs.EndInRange (ctx : PolicyInputs) (rules : PolicyRuleSet) : Prop :=
  ∀ last, ctx.lastExecutionTime = some last → (last.shifted (seconds rules.cooldownSeconds)).InRange

/-- The engine lets the plan be carried out. -/
def PolicyInputs.Allowed (ctx : PolicyInputs) (rules : PolicyRuleSet) : Prop :=
  ∃ d, ctx.evaluate rules = .ok d ∧ d.decision = .allow

theorem allowed_iff_toOption : ctx.Allowed rules ↔
    (ctx.evaluate rules).toOption.map PolicyEvaluation.decision = some .allow := by
  unfold PolicyInputs.Allowed
  cases ctx.evaluate rules with
  | error e => simp [Except.toOption]
  | ok d => simp [Except.toOption]

instance (ctx : PolicyInputs) (rules : PolicyRuleSet) : Decidable (ctx.Allowed rules) :=
  decidable_of_iff _ allowed_iff_toOption.symm

theorem outcome_of_evaluate {d : PolicyEvaluation} (h : ctx.evaluate rules = .ok d) :
    ∃ r, ctx.gates rules = .ok r ∧ d.ruleResults = r.toList ∧
      (d.decision = .allow ↔ r.AllPass) ∧ (d.decision = .deny ↔ r.Denied) ∧
      (¬ r.Denied → (d.decision = .defer ↔ r.Deferred)) ∧
      (¬ r.AllPass → ¬ r.Denied → ¬ r.Deferred → d.decision = .requireApproval) := by
  obtain ⟨r, hr, hdecision, -, hresults, -⟩ := evaluate_ok h
  refine ⟨r, hr, hresults, ?_⟩
  rw [hdecision]
  exact outcome_of_codes (codes_of_gates hr)

theorem allowed_iff : ctx.Allowed rules ↔ ∃ r, ctx.gates rules = .ok r ∧ r.AllPass := by
  constructor
  · rintro ⟨d, hd, hallow⟩
    obtain ⟨r, hr, -, hpass, -⟩ := outcome_of_evaluate hd
    exact ⟨r, hr, hpass.mp hallow⟩
  · rintro ⟨r, hr, hpass⟩
    have hdeferred := (allPass_iff.mp hpass).2.1
    obtain ⟨d, hd⟩ := (evaluate_completes hr).mpr fun hwait =>
      absurd (Or.inl ((waits_iff hr).mp hwait).2) hdeferred
    obtain ⟨r', hr', -, hallow, -⟩ := outcome_of_evaluate hd
    rw [hr] at hr'
    exact ⟨d, hd, hallow.mpr (Except.ok.inj hr' ▸ hpass)⟩

/-! ### More caution -/

/-- The gate reports, and passes. -/
def Passes (gate : Except Err RuleEvaluationResult) : Prop := ∃ r, gate = .ok r ∧ r.passed = true

/-- The first nine gates pass. -/
structure NineGatesPass (ctx : PolicyInputs) (rules : PolicyRuleSet) : Prop where
  killSwitch : (evaluateKillSwitch ctx.facts).passed = true
  emergencyStop : (evaluateEmergencyStop ctx.facts).passed = true
  prohibitedAction : (evaluateProhibitedAction ctx.facts rules).passed = true
  allowlist : (evaluateAllowlist ctx.facts rules).passed = true
  environment : (evaluateEnvironment ctx.facts rules).passed = true
  confidence : Passes (ctx.evaluateConfidenceAndEvidence rules)
  attemptBudget : Passes (ctx.evaluateAttemptBudget rules)
  cooldown : Passes (ctx.evaluateCooldown rules)
  resourceLock : (evaluateResourceLock ctx.facts).passed = true

theorem allowed_iff_nine : ctx.Allowed rules ↔ NineGatesPass ctx rules ∧
    Passes (ctx.evaluateApprovalRequirement rules) := by
  rw [allowed_iff]
  constructor
  · rintro ⟨r, hr, hpass⟩
    obtain ⟨confidence, attemptBudget, cooldown, approval, hconfidence, hattempts, hcooldown,
      happroval, rfl⟩ := gates_ok.mp hr
    simp only [GateResults.AllPass, GateResults.toList, List.forall_mem_cons, List.not_mem_nil,
      false_implies, implies_true, and_true] at hpass
    obtain ⟨h1, h2, h3, h4, h5, h6, h7, h8, h9, h10⟩ := hpass
    exact ⟨⟨h1, h2, h3, h4, h5, ⟨confidence, hconfidence, h6⟩, ⟨attemptBudget, hattempts, h7⟩,
      ⟨cooldown, hcooldown, h8⟩, h9⟩, approval, happroval, h10⟩
  · rintro ⟨⟨h1, h2, h3, h4, h5, ⟨confidence, hconfidence, h6⟩, ⟨attemptBudget, hattempts, h7⟩,
      ⟨cooldown, hcooldown, h8⟩, h9⟩, approval, happroval, h10⟩
    refine ⟨_, gates_ok.mpr ⟨_, _, _, _, hconfidence, hattempts, hcooldown, happroval, rfl⟩, ?_⟩
    simp only [GateResults.AllPass, GateResults.toList, List.forall_mem_cons, List.not_mem_nil,
      false_implies, implies_true, and_true]
    exact ⟨h1, h2, h3, h4, h5, h6, h7, h8, h9, h10⟩

/-- A restart after a clear diagnosis, where automation is free. -/
def restartInputs : PolicyInputs where
  incidentId := 1
  planId := 2
  planVersion := 1
  contentHash := "943cb14dc47e5bea49b1547ac303ef1ec9dc2e76a71b86ca4eb818fc0112a0e1"
  containerId := "0123456789ab"
  bindingGeneration := 1
  serviceName := "demo-api"
  confidence := .number (8106479329266893 / 2 ^ 53)
  rootCause := "CPU_SATURATION"
  automationMode := .automatic
  currentTime := ⟨0, some 0⟩

/-- A time of UTC. -/
def utcTime (instant : Int) : DateTime := ⟨instant, some 0⟩

/-- The dictionary of a grant. -/
def ApprovalGrant.dict (grant : ApprovalGrant) : PyDict :=
  [("decision", .text grant.decision),
   ("plan_version", (grant.planVersion.map fun n : Nat => PyValue.int n).getD .pyNone),
   ("content_hash", (grant.contentHash.map PyValue.text).getD .pyNone),
   ("expires_at", (grant.expiresAt.map fun t => PyValue.datetime (utcTime t)).getD .pyNone),
   ("approver_role", .text grant.approverRole)]

/-- A typed context as the engine is given it. -/
def EvaluationContext.inputs (ctx : EvaluationContext) : PolicyInputs where
  incidentId := ctx.incidentId
  planId := ctx.planId
  planVersion := ctx.planVersion
  contentHash := ctx.contentHash
  containerId := ctx.containerId
  bindingGeneration := ctx.bindingGeneration
  serviceName := ctx.serviceName
  environment := ctx.environment
  action := ctx.action
  risk := ctx.risk
  confidence := .number ctx.confidence
  rootCause := ctx.rootCause
  evidenceSummary :=
    (ctx.evidenceAgeSeconds.map fun age =>
      [("evidence_age_seconds", PyValue.float (.number age))]).getD []
  attempts := ctx.attempts
  retryLimit := ctx.retryLimit
  lastExecutionTime := ctx.lastExecutionTime.map utcTime
  isResourceLocked := ctx.isResourceLocked
  approvalGrant := ctx.approvalGrant.map ApprovalGrant.dict
  automationMode := ctx.automationMode
  emergencyStoppedResources := ctx.emergencyStoppedResources
  currentTime := utcTime ctx.currentTime

/-- No number is too great, and the end of the cooldown is a time that there is. -/
structure EvaluationContext.InReach (ctx : EvaluationContext) (rules : PolicyRuleSet) : Prop where
  limit : Printable rules.evidenceFreshnessLimitSeconds
  attempts : Printable ctx.attempts
  budget : Printable (1 + rules.retryLimit)
  cooldown : FitsFloat rules.cooldownSeconds
  planVersion : Printable ctx.planVersion
  grantVersion : ∀ grant ∈ ctx.approvalGrant, ∀ version : Nat, grant.planVersion = some version →
    Printable version
  cooldownEnd : ctx.inputs.EndInRange rules

theorem writeInt_of_printable {n : Int} (h : Printable n) : writeInt n = .ok () := if_pos h

theorem makeFloat_of_fits {n : Int} (h : FitsFloat n) : makeFloat n = .ok () := if_pos h

section Typed

variable {ctx : EvaluationContext} {rules : PolicyRuleSet}

theorem inputs_confidenceResult (ctx : EvaluationContext) (rules : PolicyRuleSet) :
    ctx.inputs.confidenceResult rules =
    (if (FloatValue.number ctx.confidence).less rules.minApprovalConfidenceThreshold then
      ⟨"diagnosis_confidence", false, "CONFIDENCE_TOO_LOW"⟩
    else if (FloatValue.number ctx.confidence).less rules.autoApprovalConfidenceThreshold then
      ⟨"diagnosis_confidence", true, "APPROVAL_REQUIRED_LOW_CONFIDENCE"⟩
    else ⟨"diagnosis_confidence", true, "HIGH_CONFIDENCE_ELIGIBLE"⟩) := rfl

theorem inputs_confidence (h : Printable rules.evidenceFreshnessLimitSeconds) :
    ctx.inputs.evaluateConfidenceAndEvidence rules =
    .ok (evaluateConfidenceAndEvidence ctx rules) := by
  unfold PolicyInputs.evaluateConfidenceAndEvidence SelfHealing.evaluateConfidenceAndEvidence
  rw [inputs_confidenceResult]
  have hroot : ctx.inputs.rootCause = ctx.rootCause := rfl
  have hevidence : ctx.inputs.evidenceSummary = (ctx.evidenceAgeSeconds.map fun age =>
      [("evidence_age_seconds", PyValue.float (.number age))]).getD [] := rfl
  rw [hroot, hevidence]
  by_cases hcause : unsupportedCauses.contains ctx.rootCause = true
  · rw [if_pos hcause, if_pos hcause]
    rfl
  · rw [if_neg hcause, if_neg hcause]
    cases hage : ctx.evidenceAgeSeconds with
    | none => simp [pure, Except.pure]
    | some age =>
        by_cases hstale : (rules.evidenceFreshnessLimitSeconds : Rat) < age
        · simp [hstale, PyValue.magnitude, PyValue.writeFixed, FloatValue.less,
            writeInt_of_printable h, bind, Except.bind, pure, Except.pure]
        · simp [hstale, PyValue.magnitude, FloatValue.less, bind, Except.bind, pure, Except.pure]

theorem inputs_attemptBudget (hattempts : Printable ctx.attempts)
    (hbudget : Printable (1 + rules.retryLimit)) :
    ctx.inputs.evaluateAttemptBudget rules = .ok (evaluateAttemptBudget ctx rules) := by
  unfold PolicyInputs.evaluateAttemptBudget
  have hattempts : writeInt ctx.inputs.attempts = .ok () := writeInt_of_printable hattempts
  rw [hattempts, writeInt_of_printable hbudget]
  rfl

theorem inputs_cooldown (h : FitsFloat rules.cooldownSeconds) :
    ctx.inputs.evaluateCooldown rules = .ok (evaluateCooldown ctx rules) := by
  unfold PolicyInputs.evaluateCooldown SelfHealing.evaluateCooldown PolicyInputs.lastTime
    PolicyInputs.alignedTime
  rw [makeFloat_of_fits h, writeInt_of_printable h.printable]
  cases hlast : ctx.lastExecutionTime with
  | none => simp [EvaluationContext.inputs, hlast, pure, Except.pure]
  | some last =>
      by_cases hshort : ctx.currentTime - last < seconds rules.cooldownSeconds
      · have hnot : ¬ seconds rules.cooldownSeconds ≤ ctx.currentTime - last := by omega
        simp [EvaluationContext.inputs, hlast, utcTime, DateTime.alignedTo, DateTime.instant,
          hshort, hnot, ruleResult, bind, Except.bind, pure, Except.pure]
      · have hlong : seconds rules.cooldownSeconds ≤ ctx.currentTime - last := by omega
        simp [EvaluationContext.inputs, hlast, utcTime, DateTime.alignedTo, DateTime.instant,
          hshort, hlong, ruleResult, bind, Except.bind, pure, Except.pure]

theorem inputs_alignedTime (ctx : EvaluationContext) :
    ctx.inputs.alignedTime = utcTime ctx.currentTime := by
  have hlast : ctx.inputs.lastExecutionTime = ctx.lastExecutionTime.map utcTime := rfl
  unfold PolicyInputs.alignedTime
  rw [hlast]
  cases ctx.lastExecutionTime with
  | none => rfl
  | some last => rfl

theorem dict_planVersion (ctx : EvaluationContext) (grant : ApprovalGrant) :
    (grant.dict.get "plan_version").number = some (ctx.inputs.planVersion : Rat) ↔
      grant.planVersion = some ctx.planVersion := by
  show ((grant.planVersion.map fun n : Nat => PyValue.int n).getD .pyNone).number =
    some (((ctx.planVersion : Int)) : Rat) ↔ _
  cases grant.planVersion with
  | none => simp [PyValue.number]
  | some n =>
      simp only [Option.map_some, Option.getD_some, PyValue.number, Option.some.injEq,
        Rat.intCast_inj, Int.natCast_inj]

theorem dict_contentHash (ctx : EvaluationContext) (grant : ApprovalGrant) :
    ((grant.dict.get "content_hash").truthy = true ∧
        grant.dict.get "content_hash" ≠ .text ctx.inputs.contentHash) ↔
      (grant.contentHash.any fun hash => hash ≠ "" ∧ hash ≠ ctx.contentHash) = true := by
  show (((grant.contentHash.map PyValue.text).getD .pyNone).truthy = true ∧
    (grant.contentHash.map PyValue.text).getD .pyNone ≠ .text ctx.contentHash) ↔ _
  cases grant.contentHash with
  | none => simp [PyValue.truthy]
  | some hash => simp [PyValue.truthy]

theorem dict_expiresAt (ctx : EvaluationContext) (grant : ApprovalGrant) :
    grantExpired ctx.inputs.alignedTime (grant.dict.get "expires_at") =
      .ok (grant.expiresAt.any fun expiry => expiry ≤ ctx.currentTime) := by
  rw [inputs_alignedTime]
  show grantExpired _ ((grant.expiresAt.map fun t => PyValue.datetime (utcTime t)).getD .pyNone) = _
  cases grant.expiresAt with
  | none => rfl
  | some expiry =>
      simp [grantExpired, PyValue.truthy, utcTime, DateTime.alignedTo, DateTime.instant, pure,
        Except.pure]

theorem contains_roles (role : String) : ["approver", "admin"].contains role = true ↔
    ¬ (role ≠ "approver" ∧ role ≠ "admin") := by
  simp only [List.contains_eq_mem, List.mem_cons, List.not_mem_nil, or_false, decide_eq_true_eq]
  tauto

/-- The version of a grant can be written, if it is not too great. -/
theorem dict_version_write {grant : ApprovalGrant}
    (h : ∀ version : Nat, grant.planVersion = some version → Printable version) :
    (grant.dict.get "plan_version").write = .ok () := by
  show ((grant.planVersion.map fun n : Nat => PyValue.int n).getD .pyNone).write = _
  cases hversion : grant.planVersion with
  | none => rfl
  | some version => exact writeInt_of_printable (h version hversion)

theorem inputs_grant (hplan : Printable ctx.planVersion) {grant : ApprovalGrant}
    (hgrant : ∀ version : Nat, grant.planVersion = some version → Printable version) :
    ctx.inputs.grantCode grant.dict = .ok (approvalGrantCode ctx (some grant)) := by
  have hreason : (grant.dict.get "rejection_reason" (.text "No reason provided")).write =
      .ok () := rfl
  have hwritten : (grant.dict.get "approver_role" (.text "")).write = .ok () := rfl
  have hplan : writeInt ctx.inputs.planVersion = .ok () := writeInt_of_printable hplan
  have hdecision : (grant.dict.get "decision" (.text "")).upper =
      .ok (textUpper grant.decision) := rfl
  have hrole : (grant.dict.get "approver_role" (.text "")).among ["approver", "admin"] =
      .ok (["approver", "admin"].contains grant.approverRole) := rfl
  have hversion := dict_planVersion ctx grant
  have hhash := dict_contentHash ctx grant
  unfold PolicyInputs.grantCode approvalGrantCode
  simp only [hdecision, dict_expiresAt, hrole, hreason, hwritten, hplan,
    dict_version_write hgrant, bind, Except.bind, pure, Except.pure]
  simp only [hversion, hhash, contains_roles, ite_not]
  split_ifs <;> rfl

theorem inputs_approval (h : ctx.InReach rules) : ctx.inputs.evaluateApprovalRequirement rules =
    .ok (evaluateApprovalRequirement ctx rules) := by
  have hrequired : ctx.inputs.requiresApproval rules = ctx.requiresApproval rules := rfl
  have hgrant : ctx.inputs.approvalGrant = ctx.approvalGrant.map ApprovalGrant.dict := rfl
  unfold PolicyInputs.evaluateApprovalRequirement SelfHealing.evaluateApprovalRequirement
  rw [hrequired, hgrant]
  by_cases hneeded : ctx.requiresApproval rules = true
  · rw [if_pos hneeded, if_pos hneeded]
    cases hgrant : ctx.approvalGrant with
    | none => rfl
    | some grant =>
        simp only [Option.map_some, inputs_grant h.planVersion (h.grantVersion grant hgrant), bind,
          Except.bind]
        rfl
  · rw [if_neg hneeded, if_neg hneeded]
    rfl

/-- What the ten gates report on a typed context. -/
def EvaluationContext.results (ctx : EvaluationContext) (rules : PolicyRuleSet) :
    GateResults where
  killSwitch := evaluateKillSwitch ctx
  emergencyStop := evaluateEmergencyStop ctx
  prohibitedAction := evaluateProhibitedAction ctx rules
  allowlist := evaluateAllowlist ctx rules
  environment := evaluateEnvironment ctx rules
  confidence := evaluateConfidenceAndEvidence ctx rules
  attemptBudget := evaluateAttemptBudget ctx rules
  cooldown := evaluateCooldown ctx rules
  resourceLock := evaluateResourceLock ctx
  approval := evaluateApprovalRequirement ctx rules

theorem inputs_gates (h : ctx.InReach rules) :
    ctx.inputs.gates rules = .ok (ctx.results rules) :=
  gates_ok.mpr ⟨_, _, _, _, inputs_confidence h.limit, inputs_attemptBudget h.attempts h.budget,
    inputs_cooldown h.cooldown, inputs_approval h, rfl⟩

theorem results_outcome (ctx : EvaluationContext) (rules : PolicyRuleSet) :
    (ctx.results rules).outcome =
    ((policyOutcome ctx rules).1, (policyOutcome ctx rules).2.2) := by
  have hdeny : (ctx.results rules).hardDeny = hardDeny ctx rules := by
    simp only [GateResults.hardDeny, EvaluationContext.results, hardDeny, hardDenials,
      List.any_cons, List.any_nil, Bool.or_false, Bool.or_assoc]
  have hcooldown : (ctx.results rules).cooldown = evaluateCooldown ctx rules := rfl
  have hlock : (ctx.results rules).resourceLock = evaluateResourceLock ctx := rfl
  have happroval : (ctx.results rules).approval = evaluateApprovalRequirement ctx rules := rfl
  unfold GateResults.outcome policyOutcome
  rw [hdeny, hcooldown, hlock, happroval]
  dsimp only
  split_ifs <;> rfl

theorem policyOutcome_deferUntil (ctx : EvaluationContext) (rules : PolicyRuleSet) :
    (policyOutcome ctx rules).2.1 =
    if (policyOutcome ctx rules).2.2 = some .waitingForCooldown then
      ctx.lastExecutionTime.map (· + seconds rules.cooldownSeconds)
    else none := by
  unfold policyOutcome
  simp only []
  split_ifs <;> simp_all

/-- The end of the cooldown is what the engine on typed contexts takes for it. -/
theorem inputs_cooldownEnd (h : ctx.inputs.EndInRange rules) :
    ctx.inputs.cooldownEnd rules =
      .ok ((ctx.lastExecutionTime.map (· + seconds rules.cooldownSeconds)).map utcTime) := by
  have hlast : ctx.inputs.lastExecutionTime = ctx.lastExecutionTime.map utcTime := rfl
  unfold PolicyInputs.EndInRange at h
  unfold PolicyInputs.cooldownEnd
  rw [inputs_alignedTime]
  rw [hlast] at h ⊢
  cases hsome : ctx.lastExecutionTime with
  | none => rfl
  | some last =>
      have hrange : ((utcTime last).shifted (seconds rules.cooldownSeconds)).InRange :=
        h _ (by rw [hsome]; rfl)
      have hplus : ((utcTime last).alignedTo (utcTime ctx.currentTime)).plus
          (seconds rules.cooldownSeconds) =
          .ok ((utcTime last).shifted (seconds rules.cooldownSeconds)) := if_pos hrange
      simp only [Option.map_some, hplus]
      rfl

/-- **On a typed context the engine does what the engine on typed contexts does.** -/
theorem inputs_evaluate (h : ctx.InReach rules) : ctx.inputs.evaluate rules =
    .ok
      { decision := (evaluatePolicy ctx rules).decision
        policyName := (evaluatePolicy ctx rules).policyName
        policyVersion := (evaluatePolicy ctx rules).policyVersion
        ruleResults := (evaluatePolicy ctx rules).ruleResults
        reasonCodes := (evaluatePolicy ctx rules).reasonCodes
        deferUntil := (evaluatePolicy ctx rules).deferUntil.map utcTime
        waitReason := (evaluatePolicy ctx rules).waitReason } := by
  have huntil : ctx.inputs.deferUntil rules (policyOutcome ctx rules).2.2 =
      .ok ((policyOutcome ctx rules).2.1.map utcTime) := by
    unfold PolicyInputs.deferUntil
    rw [inputs_cooldownEnd h.cooldownEnd, policyOutcome_deferUntil]
    split_ifs <;> rfl
  unfold PolicyInputs.evaluate
  rw [inputs_gates h]
  simp only [bind, Except.bind, pure, Except.pure, results_outcome, huntil]
  rfl

end Typed

/-! ### Approvals and what they are bound to -/

/-- The grant says, by somebody who may, that this version of the plan is approved; and the hash
and the expiry, if it gives them, let it count. -/
structure Approves (ctx : PolicyInputs) (grant : PyDict) : Prop where
  decision : ∃ s, grant.get "decision" (.text "") = .text s ∧ textUpper s = "APPROVE"
  planVersion : (grant.get "plan_version").number = some (ctx.planVersion : Rat)
  contentHash : (grant.get "content_hash").truthy = true →
    grant.get "content_hash" = .text ctx.contentHash
  expiresAt : (grant.get "expires_at").truthy = true →
    ∃ expiry, grant.get "expires_at" = .datetime expiry ∧ ctx.alignedTime.Before expiry
  approverRole : ∃ role ∈ ["approver", "admin"],
    grant.get "approver_role" (.text "") = .text role

/-- **A grant counts exactly if it approves the plan.** -/
theorem grantCode_valid {grant : PyDict} :
    ctx.grantCode grant = .ok "APPROVAL_VALID" ↔ Approves ctx grant := by
  unfold PolicyInputs.grantCode
  constructor
  · intro h
    obtain ⟨decision, hdecision, h⟩ := bind_ok.mp h
    split_ifs at h with hreject happrove hversion hhash
    · obtain ⟨-, -, h⟩ := bind_ok.mp h
      exact absurd (Except.ok.inj h) (by decide)
    · exact absurd (Except.ok.inj h) (by decide)
    · obtain ⟨-, -, h⟩ := bind_ok.mp h
      obtain ⟨-, -, h⟩ := bind_ok.mp h
      exact absurd (Except.ok.inj h) (by decide)
    · exact absurd (Except.ok.inj h) (by decide)
    · obtain ⟨expired, hexpired, h⟩ := bind_ok.mp h
      split_ifs at h with hpast
      · exact absurd (Except.ok.inj h) (by decide)
      · obtain ⟨authorized, hauthorized, h⟩ := bind_ok.mp h
        split_ifs at h with hrole
        · rw [Bool.not_eq_true] at hpast
          rw [hpast] at hexpired
          rw [hrole] at hauthorized
          refine ⟨?_, not_not.mp hversion, ?_, grantExpired_ok.mp hexpired,
            among_ok.mp hauthorized⟩
          · rw [not_not.mp happrove] at hdecision
            exact upper_ok.mp hdecision
          · intro htruthy
            by_contra hne
            exact hhash ⟨htruthy, hne⟩
        · obtain ⟨-, -, h⟩ := bind_ok.mp h
          exact absurd (Except.ok.inj h) (by decide)
  · rintro ⟨hdecision, hversion, hhash, hexpires, hrole⟩
    refine bind_ok.mpr ⟨"APPROVE", upper_ok.mpr hdecision, ?_⟩
    rw [if_neg (by decide), if_neg (not_not.mpr rfl), if_neg (not_not.mpr hversion),
      if_neg (fun h => h.2 (hhash h.1))]
    refine bind_ok.mpr ⟨false, grantExpired_ok.mpr hexpires, ?_⟩
    rw [if_neg Bool.false_ne_true]
    refine bind_ok.mpr ⟨true, among_ok.mpr hrole, ?_⟩
    rw [if_pos rfl]
    rfl

theorem approval_passes (hrequired : ctx.requiresApproval rules = true) :
    Passes (ctx.evaluateApprovalRequirement rules) ↔
      ∃ grant, ctx.approvalGrant = some grant ∧ Approves ctx grant := by
  unfold Passes PolicyInputs.evaluateApprovalRequirement
  rw [if_pos hrequired]
  cases hgrant : ctx.approvalGrant with
  | none =>
      constructor
      · rintro ⟨r, hr, hpass⟩
        rw [← Except.ok.inj hr] at hpass
        cases hpass
      · rintro ⟨grant, hsome, -⟩
        cases hsome
  | some grant =>
      simp only [bind_ok, Option.some.injEq, exists_eq_left']
      rw [← grantCode_valid]
      constructor
      · rintro ⟨r, ⟨code, hcode, hr⟩, hpass⟩
        rw [← Except.ok.inj hr] at hpass
        have hvalid : code = "APPROVAL_VALID" := of_decide_eq_true hpass
        rwa [hvalid] at hcode
      · intro hcode
        exact ⟨_, ⟨_, hcode, rfl⟩, rfl⟩

/-- The plan is approved as it stands and for the time being: the grant is there, approves it by
somebody who may, and is bound to its version and hash and to an expiry to come. -/
structure BoundApproval (ctx : PolicyInputs) (grant : PyDict) : Prop where
  given : ctx.approvalGrant = some grant
  decision : ∃ s, grant.get "decision" (.text "") = .text s ∧ textUpper s = "APPROVE"
  approverRole : ∃ role ∈ ["approver", "admin"],
    grant.get "approver_role" (.text "") = .text role
  planVersion : (grant.get "plan_version").number = some (ctx.planVersion : Rat)
  contentHash : grant.get "content_hash" = .text ctx.contentHash
  expiresAt : ∃ expiry, grant.get "expires_at" = .datetime expiry ∧
    ctx.alignedTime.Before expiry

/-- The grant gives the hash and the expiry: neither is missing, `None` or empty, but for the hash
of a plan whose own hash is empty. -/
def GivesBinding (ctx : PolicyInputs) (grant : PyDict) : Prop :=
  ((grant.get "content_hash").truthy = true ∨ grant.get "content_hash" = .text ctx.contentHash) ∧
    (grant.get "expires_at").truthy = true

/-- **An approval that lets a plan pass is bound to it exactly where the grant gives the hash and
the expiry**, or something else stands in the way. -/
theorem approval_bound_iff (ctx : PolicyInputs) (rules : PolicyRuleSet) :
    (ctx.requiresApproval rules = true → ctx.Allowed rules → ∃ grant, BoundApproval ctx grant) ↔
      (ctx.requiresApproval rules = true → NineGatesPass ctx rules →
        ∀ grant, ctx.approvalGrant = some grant → Approves ctx grant → GivesBinding ctx grant) := by
  constructor
  · intro h hrequired hnine grant hgrant happroves
    have hallowed : ctx.Allowed rules :=
      allowed_iff_nine.mpr ⟨hnine, (approval_passes hrequired).mpr ⟨grant, hgrant, happroves⟩⟩
    obtain ⟨grant', hbound⟩ := h hrequired hallowed
    obtain ⟨expiry, hexpiry, -⟩ := hbound.expiresAt
    have hsame : grant = grant' := Option.some.inj (hgrant.symm.trans hbound.given)
    refine ⟨Or.inr (hsame ▸ hbound.contentHash), ?_⟩
    rw [hsame, hexpiry]
    rfl
  · intro h hrequired hallowed
    obtain ⟨hnine, hpass⟩ := allowed_iff_nine.mp hallowed
    obtain ⟨grant, hgrant, happroves⟩ := (approval_passes hrequired).mp hpass
    obtain ⟨hhash, hexpiry⟩ := h hrequired hnine grant hgrant happroves
    refine ⟨grant, hgrant, happroves.decision, happroves.approverRole, happroves.planVersion,
      ?_, happroves.expiresAt hexpiry⟩
    rcases hhash with hhash | hhash
    · exact happroves.contentHash hhash
    · exact hhash

/-- An approval without hash and expiry, where automation is not free. -/
def unboundInputs : PolicyInputs :=
  { restartInputs with
    automationMode := .approvalRequired
    approvalGrant := some
      [("decision", .text "APPROVE"), ("plan_version", .int 1),
       ("approver_role", .text "approver")] }

theorem unboundInputs_allowed :
    unboundInputs.requiresApproval {} = true ∧ unboundInputs.Allowed {} ∧
      ¬ ∃ grant, BoundApproval unboundInputs grant := by
  refine ⟨by decide, by decide +kernel, ?_⟩
  rintro ⟨grant, hbound⟩
  have hgrant := Option.some.inj hbound.given
  have hhash := hbound.contentHash
  rw [← hgrant] at hhash
  cases hhash

/-! ### Cooldowns and their end -/

/-- One time is not before the other. -/
def DateTime.NotBefore (t other : DateTime) : Prop :=
  (other.alignedTo t).instant ≤ (t.alignedTo other).instant

/-- The zone of the later time is not behind the zone of the current time, if both have one and
the last execution was noted without. -/
def ZonesAgree (ctx : PolicyInputs) (later : DateTime) : Prop :=
  ∀ last offset offset', ctx.lastExecutionTime = some last → last.utcOffset = none →
    ctx.currentTime.utcOffset = some offset → later.utcOffset = some offset' → offset ≤ offset'

/-- Gate 8 fails where some of the cooldown remains, which is then a float. -/
theorem cooldown_fails {r : RuleEvaluationResult} (hr : ctx.evaluateCooldown rules = .ok r)
    (hfail : r.passed = false) :
    FitsFloat rules.cooldownSeconds ∧ ∃ last, ctx.lastExecutionTime = some last ∧
      (ctx.currentTime.alignedTo last).instant - (last.alignedTo ctx.currentTime).instant <
        seconds rules.cooldownSeconds := by
  have hwritable := cooldown_completes.mp ⟨r, hr⟩
  unfold PolicyInputs.CooldownWritable PolicyInputs.InCooldown PolicyInputs.alignedTime
    at hwritable
  unfold PolicyInputs.evaluateCooldown PolicyInputs.lastTime PolicyInputs.alignedTime at hr
  cases hlast : ctx.lastExecutionTime with
  | none =>
      rw [hlast] at hr
      rw [← Except.ok.inj hr] at hfail
      cases hfail
  | some last =>
      rw [hlast] at hr hwritable
      simp only [Option.map_some] at hr
      split_ifs at hr with hshort
      · exact ⟨(hwritable last rfl).2 hshort, last, rfl, hshort⟩
      · obtain ⟨-, -, hr⟩ := bind_ok.mp hr
        rw [← Except.ok.inj hr] at hfail
        cases hfail

/-- It passes where nothing remains, if the cooldown can be written. -/
theorem cooldown_passes (hprintable : Printable rules.cooldownSeconds)
    (hlong : ∀ last, ctx.lastExecutionTime = some last →
      seconds rules.cooldownSeconds ≤
        (ctx.currentTime.alignedTo last).instant - (last.alignedTo ctx.currentTime).instant) :
    Passes (ctx.evaluateCooldown rules) := by
  unfold PolicyInputs.evaluateCooldown PolicyInputs.lastTime PolicyInputs.alignedTime
  cases hlast : ctx.lastExecutionTime with
  | none => exact ⟨_, rfl, rfl⟩
  | some last =>
      have hnot : ¬ (ctx.currentTime.alignedTo last).instant -
          (last.alignedTo ctx.currentTime).instant < seconds rules.cooldownSeconds :=
        Int.not_lt.mpr (hlong last hlast)
      simp only [Option.map_some]
      rw [if_neg hnot]
      obtain ⟨u, hu⟩ := writeInt_completes.mpr hprintable
      exact ⟨_, bind_ok.mpr ⟨u, hu, rfl⟩, rfl⟩

/-- The instant of an aligned time: the offset is its own, or that of the other time. -/
theorem alignedTo_instant (t other : DateTime) :
    (t.alignedTo other).instant = t.wall - (t.utcOffset.or other.utcOffset).getD 0 := by
  obtain ⟨wall, utcOffset⟩ := t
  obtain ⟨wall', utcOffset'⟩ := other
  cases utcOffset <;> cases utcOffset' <;> rfl

/-- What is shown at the end of the cooldown, and in which zone. -/
theorem until_eq (last now : DateTime) (elapsed : Int) :
    (last.alignedTo (now.alignedTo last)).shifted elapsed =
      ⟨last.wall + elapsed, last.utcOffset.or now.utcOffset⟩ := by
  obtain ⟨wall, utcOffset⟩ := last
  obtain ⟨wall', utcOffset'⟩ := now
  cases utcOffset <;> cases utcOffset' <;> rfl

theorem outcome_cooldown {r : GateResults} (h : r.outcome.2 = some .waitingForCooldown) :
    r.cooldown.passed = false := by
  unfold GateResults.outcome at h
  split_ifs at h with hdeny hcooldown hlock hrequired
  · rwa [Bool.not_eq_true'] at hcooldown
  · cases h
  · cases h

/-- The end of the cooldown, where there is such a time. -/
theorem cooldownEnd_eq {last : DateTime} {deferUntil : Option DateTime}
    (hlast : ctx.lastExecutionTime = some last)
    (h : ctx.cooldownEnd rules = .ok deferUntil) :
    deferUntil = some ⟨last.wall + seconds rules.cooldownSeconds,
      last.utcOffset.or ctx.currentTime.utcOffset⟩ := by
  unfold PolicyInputs.cooldownEnd PolicyInputs.alignedTime at h
  rw [hlast] at h
  obtain ⟨later, hlater, h⟩ := bind_ok.mp h
  unfold DateTime.plus at hlater
  split_ifs at hlater
  rw [← Except.ok.inj h, ← Except.ok.inj hlater, until_eq]

/-- **A deferral ends.**  It ends later than now, and from then on gate 8 passes; where the last
execution was noted without a zone, at times of zones that are not behind. -/
theorem cooldown_deferral (ctx : PolicyInputs) (rules : PolicyRuleSet) (d : PolicyEvaluation)
    (h : ctx.evaluate rules = .ok d) (hwait : d.waitReason = some .waitingForCooldown) :
    ∃ deferUntil, d.deferUntil = some deferUntil ∧ ctx.currentTime.Before deferUntil ∧
      Passes ({ ctx with currentTime := deferUntil }.evaluateCooldown rules) ∧
      ∀ later, later.NotBefore deferUntil → ZonesAgree ctx later →
        Passes ({ ctx with currentTime := later }.evaluateCooldown rules) := by
  obtain ⟨r, hr, -, hreason, -, huntil⟩ := evaluate_ok h
  obtain ⟨confidence, attemptBudget, cooldown, approval, -, -, hcooldown, -, rfl⟩ :=
    gates_ok.mp hr
  obtain ⟨hfits, last, hlast, hshort⟩ :=
    cooldown_fails hcooldown (outcome_cooldown (hreason ▸ hwait))
  have huntil := cooldownEnd_eq hlast (huntil hwait)
  rw [alignedTo_instant, alignedTo_instant] at hshort
  refine ⟨_, huntil, ?_, ?_, ?_⟩
  · unfold DateTime.Before
    rw [alignedTo_instant, alignedTo_instant]
    cases hl : last.utcOffset <;> cases hc : ctx.currentTime.utcOffset <;>
      simp only [hl, hc, Option.or_none, Option.none_or, Option.some_or, Option.getD_some,
        Option.getD_none] at hshort ⊢ <;>
      omega
  · refine cooldown_passes hfits.printable ?_
    intro last' hlast'
    rw [← Option.some.inj (hlast.symm.trans hlast'), alignedTo_instant, alignedTo_instant]
    cases last.utcOffset <;> cases ctx.currentTime.utcOffset <;>
      simp only [Option.or_none, Option.none_or, Option.some_or, Option.getD_some,
        Option.getD_none] <;>
      omega
  · intro later hlater hzones
    refine cooldown_passes hfits.printable ?_
    intro last' hlast'
    unfold DateTime.NotBefore at hlater
    rw [alignedTo_instant, alignedTo_instant] at hlater
    rw [← Option.some.inj (hlast.symm.trans hlast'), alignedTo_instant, alignedTo_instant]
    cases hl : last.utcOffset with
    | some offset =>
        cases ht : later.utcOffset <;>
          simp only [hl, ht, Option.none_or, Option.some_or, Option.getD_some] at hlater ⊢ <;>
          omega
    | none =>
        cases hc : ctx.currentTime.utcOffset with
        | none =>
            cases ht : later.utcOffset <;>
              simp only [hl, hc, ht, Option.none_or, Option.or_none, Option.getD_some,
                Option.getD_none] at hlater ⊢ <;>
              omega
        | some offset =>
            cases ht : later.utcOffset with
            | none =>
                simp only [hl, hc, ht, Option.none_or, Option.or_none, Option.getD_some,
                  Option.getD_none] at hlater ⊢
                omega
            | some offset' =>
                -- The last execution moves into the zone of the later time.
                have hle := hzones last offset offset' hlast hl hc ht
                simp only [hl, hc, ht, Option.none_or, Option.some_or,
                  Option.getD_some] at hlater ⊢
                omega

/-- A restart with free automation, the last one noted without a zone, at the same time in a zone
two hours ahead. -/
def waitingInputs : PolicyInputs :=
  { restartInputs with
    lastExecutionTime := some ⟨0, none⟩
    currentTime := ⟨0, some (seconds 7200)⟩ }

/-- What the engine makes of it: it waits for ten minutes. -/
theorem waitingInputs_evaluate : ∃ d, waitingInputs.evaluate {} = .ok d ∧
    d.waitReason = some .waitingForCooldown ∧
    d.deferUntil = some ⟨seconds 600, some (seconds 7200)⟩ := by
  have h : (waitingInputs.evaluate {}).toOption.any (fun d =>
      d.waitReason = some .waitingForCooldown ∧
        d.deferUntil = some ⟨seconds 600, some (seconds 7200)⟩) = true := by
    decide +kernel
  cases hd : waitingInputs.evaluate {} with
  | error e =>
      rw [hd] at h
      cases h
  | ok d =>
      rw [hd] at h
      exact ⟨d, rfl, of_decide_eq_true h⟩

/-- At the end of the ten minutes gate 8 passes. -/
theorem waitingInputs_deferral :
    Passes ({ waitingInputs with
      currentTime := ⟨seconds 600, some (seconds 7200)⟩ }.evaluateCooldown {}) := by
  obtain ⟨d, hd, hwait, huntil⟩ := waitingInputs_evaluate
  obtain ⟨deferUntil, hsame, -, hpass, -⟩ := cooldown_deferral waitingInputs {} d hd hwait
  rw [← Option.some.inj (hsame.symm.trans huntil)]
  exact hpass

/-- A gate that is seen to report has a report. -/
theorem exists_report {gate : Except Err RuleEvaluationResult} {passed : Bool}
    (h : gate.toOption.map RuleEvaluationResult.passed = some passed) :
    ∃ r, gate = .ok r ∧ r.passed = passed := by
  cases gate with
  | error e => cases h
  | ok r => exact ⟨r, rfl, Option.some.inj h⟩

/-- A second later, by a clock of UTC, it does not. -/
theorem waitingInputs_waits :
    ∃ d deferUntil later, waitingInputs.evaluate {} = .ok d ∧
      d.waitReason = some .waitingForCooldown ∧ d.deferUntil = some deferUntil ∧
      deferUntil.Before later ∧
      ∃ r, { waitingInputs with currentTime := later }.evaluateCooldown {} = .ok r ∧
        r.passed = false := by
  obtain ⟨d, hd, hwait, huntil⟩ := waitingInputs_evaluate
  exact ⟨d, _, ⟨seconds (-6599), some 0⟩, hd, hwait, huntil, by decide,
    exists_report (by decide +kernel)⟩

end SelfHealing
