/-
What an accepted plan looks like.

The validator finds nothing wrong with a plan exactly when its target is in order, its steps stand
at different positions and are each in order, and the one that changes the workload, if there is
one, is a restart between looking and waiting.  None of this depends on the order in which the
steps are given, and so neither does the hash, which is looked at last.

What is looked at of a step is its resource, and the container and the service among its
parameters.  The resource and the generation among its parameters are not compared with the
target.
-/
import SelfHealing.Proofs.PlanHash

namespace SelfHealing

open Canonical

variable {py : Libraries} {registry : ActionRegistry} {target : TargetBinding}
  {steps : List RemediationStepSchema}

/-! ### Without an error

Each check adds its errors to a list, and a list is empty if and only if all of its parts are.  So
acceptance is a conjunction, with one clause for each check, and the checks of the steps are the
same for each step; a result takes the clauses that it needs.
-/

@[simp] theorem errorIf_nil {condition : Prop} [Decidable condition] {text : String} :
    errorIf condition text = [] ↔ ¬ condition := by
  unfold errorIf
  by_cases h : condition
  · rw [if_pos h]
    simp only [reduceCtorEq, h, not_true]
  · rw [if_neg h]
    simp only [h, not_false_eq_true]

/-- The loop finds nothing if no position comes twice and each step is in order. -/
theorem allStepErrors_nil : ∀ {steps : List RemediationStepSchema} {seen : List Nat},
    allStepErrors py registry target seen steps = [] ↔
      (∀ step ∈ steps, step.position ∉ seen) ∧
        (steps.map RemediationStepSchema.position).Nodup ∧
        ∀ step ∈ steps, stepErrors py registry target step = [] := by
  intro steps
  induction steps with
  | nil =>
      intro seen
      simp only [allStepErrors, List.not_mem_nil, false_implies, implies_true, List.map_nil,
        List.nodup_nil, and_self]
  | cons step rest ih =>
      intro seen
      simp only [allStepErrors, List.append_eq_nil_iff, errorIf_nil, ih, List.forall_mem_cons]
      simp only [List.map_cons, List.nodup_cons, List.mem_map, List.mem_cons, not_exists, not_and,
        not_or]
      constructor
      · rintro ⟨⟨hnew, hstep⟩, hrest, hnodup, hall⟩
        exact ⟨⟨hnew, fun s hs => (hrest s hs).2⟩, ⟨fun s hs => (hrest s hs).1, hnodup⟩,
          hstep, hall⟩
      · rintro ⟨⟨hnew, hrest⟩, ⟨hapart, hnodup⟩, hstep, hall⟩
        exact ⟨⟨hnew, hstep⟩, fun s hs => ⟨hapart s hs, hrest s hs⟩, hnodup, hall⟩

/-- The steps before and after a restart. -/
structure Sequenced (steps : List RemediationStepSchema) (restart : RemediationStepSchema) :
    Prop where
  inspected : ∃ step ∈ steps, step.action = "inspect_container"
  before : ∀ step ∈ steps, step.action = "inspect_container" → step.position < restart.position
  awaited : ∃ step ∈ steps, step.action = "wait_for_stabilization"
  after : ∀ step ∈ steps, step.action = "wait_for_stabilization" →
    restart.position < step.position

theorem sequenceErrors_nil {restart : RemediationStepSchema}
    {rest : List RemediationStepSchema} (h : mutatingSteps registry steps = restart :: rest) :
    sequenceErrors registry steps = [] ↔ Sequenced steps restart := by
  unfold sequenceErrors
  rw [h]
  simp only [List.append_eq_nil_iff, errorIf_nil, not_or, List.filter_eq_nil_iff, not_forall,
    decide_eq_true_eq, not_not, List.any_eq_true, List.mem_filter, not_exists, not_and, not_le,
    exists_prop, and_imp]
  constructor
  · rintro ⟨⟨hinspect, hbefore⟩, hwait, hafter⟩
    exact ⟨hinspect, hbefore, hwait, hafter⟩
  · rintro ⟨hinspect, hbefore, hwait, hafter⟩
    exact ⟨⟨hinspect, hbefore⟩, hwait, hafter⟩

/-- The steps of a plan are in order: each by itself, and all of them together. -/
structure Checked (py : Libraries) (registry : ActionRegistry) (target : TargetBinding)
    (steps : List RemediationStepSchema) : Prop where
  positions : (steps.map RemediationStepSchema.position).Nodup
  each : ∀ step ∈ steps, stepErrors py registry target step = []
  mutation : mutatingSteps registry steps = [] ∨
    ∃ restart, mutatingSteps registry steps = [restart] ∧ restart.action = "restart_container" ∧
      Sequenced steps restart

theorem checked_iff :
    allStepErrors py registry target [] steps = [] ∧ mutationErrors registry steps = [] ∧
      sequenceErrors registry steps = [] ↔ Checked py registry target steps := by
  constructor
  · rintro ⟨hloop, hmutation, hsequence⟩
    obtain ⟨-, hpositions, heach⟩ := allStepErrors_nil.mp hloop
    refine ⟨hpositions, heach, ?_⟩
    simp only [mutationErrors, List.append_eq_nil_iff, errorIf_nil, List.flatMap_eq_nil_iff,
      not_not, not_lt] at hmutation
    obtain ⟨hone, hrestart⟩ := hmutation
    cases h : mutatingSteps registry steps with
    | nil => exact Or.inl rfl
    | cons restart rest =>
        rw [h] at hone hrestart
        have hnil : rest = [] := by
          rw [List.length_cons] at hone
          exact List.eq_nil_of_length_eq_zero (by omega)
        refine Or.inr ⟨restart, by rw [hnil], hrestart restart List.mem_cons_self, ?_⟩
        exact (sequenceErrors_nil h).mp hsequence
  · rintro ⟨hpositions, heach, hmutation⟩
    refine ⟨allStepErrors_nil.mpr ⟨fun _ _ => List.not_mem_nil, hpositions, heach⟩, ?_⟩
    rcases hmutation with hnone | ⟨restart, hone, haction, hseq⟩
    · simp only [mutationErrors, sequenceErrors, hnone, List.length_nil, List.flatMap_nil,
        List.append_nil, errorIf_nil]
      exact ⟨by omega, trivial⟩
    · refine ⟨?_, (sequenceErrors_nil hone).mpr hseq⟩
      simp only [mutationErrors, hone, List.length_singleton, List.flatMap_singleton,
        List.append_eq_nil_iff, errorIf_nil, not_not]
      exact ⟨by omega, haction⟩

/-- **What the validator accepts.** -/
theorem validatePlan_nil {sha256 : ByteArray → String} {plan : RemediationPlanSchema}
    {expected : Option TargetBinding} {verify : Bool} :
    validatePlan py registry sha256 plan expected verify = [] ↔
      targetErrors plan.targetBinding expected = [] ∧
        Checked py registry plan.targetBinding plan.steps ∧
        (verify = true → computePlanContentHash sha256 plan = plan.contentHash) := by
  rw [← checked_iff]
  unfold validatePlan
  simp only []
  by_cases h : verify = true ∧ (targetErrors plan.targetBinding expected ++
      allStepErrors py registry plan.targetBinding [] plan.steps ++
      mutationErrors registry plan.steps ++ sequenceErrors registry plan.steps) = []
  · rw [if_pos h]
    obtain ⟨hverify, hnil⟩ := h
    simp only [List.append_eq_nil_iff] at hnil
    obtain ⟨⟨⟨htarget, hloop⟩, hmutation⟩, hsequence⟩ := hnil
    simp only [errorIf_nil, not_not, htarget, hloop, hmutation, hsequence, hverify, and_self,
      true_and, true_implies]
  · rw [if_neg h]
    simp only [List.append_eq_nil_iff] at h ⊢
    constructor
    · rintro ⟨⟨⟨htarget, hloop⟩, hmutation⟩, hsequence⟩
      refine ⟨htarget, ⟨hloop, hmutation, hsequence⟩, fun hverify => absurd ?_ h⟩
      exact ⟨hverify, ⟨⟨htarget, hloop⟩, hmutation⟩, hsequence⟩
    · rintro ⟨htarget, ⟨hloop, hmutation, hsequence⟩, -⟩
      exact ⟨⟨⟨htarget, hloop⟩, hmutation⟩, hsequence⟩

/-! ### The order of the steps -/

theorem Sequenced.perm {steps' : List RemediationStepSchema} {restart : RemediationStepSchema}
    (h : Sequenced steps restart) (hperm : steps.Perm steps') : Sequenced steps' restart := by
  obtain ⟨⟨i, hi, hiaction⟩, hbefore, ⟨w, hw, hwaction⟩, hafter⟩ := h
  exact ⟨⟨i, hperm.mem_iff.mp hi, hiaction⟩,
    fun step hstep => hbefore step (hperm.mem_iff.mpr hstep),
    ⟨w, hperm.mem_iff.mp hw, hwaction⟩,
    fun step hstep => hafter step (hperm.mem_iff.mpr hstep)⟩

theorem Checked.perm {steps' : List RemediationStepSchema}
    (h : Checked py registry target steps) (hperm : steps.Perm steps') :
    Checked py registry target steps' := by
  have hmutating : (mutatingSteps registry steps).Perm (mutatingSteps registry steps') :=
    hperm.filter _
  refine ⟨(hperm.map _).nodup_iff.mp h.positions,
    fun step hstep => h.each step (hperm.mem_iff.mpr hstep), ?_⟩
  rcases h.mutation with hnone | ⟨restart, hone, haction, hseq⟩
  · rw [hnone] at hmutating
    exact Or.inl hmutating.symm.eq_nil
  · rw [hone] at hmutating
    exact Or.inr ⟨restart, List.perm_singleton.mp hmutating.symm, haction, hseq.perm hperm⟩

/-- The hash of a plan whose steps are given in another order. -/
theorem hash_perm {sha256 : ByteArray → String} {plan : RemediationPlanSchema}
    {steps' : List RemediationStepSchema} (hpos : plan.DistinctPositions)
    (hperm : plan.steps.Perm steps') :
    computePlanContentHash sha256 { plan with steps := steps' } =
      computePlanContentHash sha256 plan := by
  have hsteps : sortedSteps steps' = sortedSteps plan.steps :=
    (sortedSteps_congr hpos hperm).symm
  simp only [computePlanContentHash, RemediationPlanSchema.encoded,
    RemediationPlanSchema.canonical, hsteps]

theorem validatePlan_of_perm {sha256 : ByteArray → String} {plan : RemediationPlanSchema}
    {expected : Option TargetBinding} {verify : Bool} {steps' : List RemediationStepSchema}
    (hperm : plan.steps.Perm steps')
    (h : validatePlan py registry sha256 plan expected verify = []) :
    validatePlan py registry sha256 { plan with steps := steps' } expected verify = [] := by
  obtain ⟨htarget, hchecked, hhash⟩ := validatePlan_nil.mp h
  refine validatePlan_nil.mpr ⟨htarget, hchecked.perm hperm, fun hverify => ?_⟩
  rw [hash_perm hchecked.positions hperm]
  exact hhash hverify

/-! ### The plans of the planner -/

/-- An identifier in its usual form. -/
def readUuid (s : String) : Option Nat :=
  let digits := s.toList.filter (· ≠ '-')
  if digits.length = 32 then some (hexNumber digits) else none

/-- The libraries on ASCII text, as far as plans of the planner go. -/
def asciiLibraries : Libraries where
  int
    | .atom (.int n) => some n
    | .atom (.bool b) => some (if b then 1 else 0)
    | _ => none
  uuid
    | .atom (.text s) => readUuid s
    | _ => none
  message := fun _ _ => "validation error"
  wordChar := fun c => c.isAlphanum || decide (c = '_')
  letter := Char.toLower

/-- Numbers and identifiers are read as they are written, and ASCII text as such. -/
structure Libraries.Usual (py : Libraries) : Prop where
  int : ∀ n, py.int (jsonInt n) = some n
  uuid : ∀ id < 2 ^ 128, py.uuid (jsonStr (uuidText id)) = some id
  wordChar : ∀ c : Char, c.toNat < 128 → py.wordChar c = asciiLibraries.wordChar c
  letter : ∀ c : Char, c.toNat < 128 → py.letter c = asciiLibraries.letter c

theorem textWords_congr {py' : Libraries} : ∀ (text word : List Char),
    (∀ c ∈ text, py.wordChar c = py'.wordChar c) →
      textWords py word text = textWords py' word text := by
  intro text
  induction text with
  | nil => exact fun word _ => rfl
  | cons c rest ih =>
      intro word h
      have hrest := fun c hc => h c (List.mem_cons_of_mem _ hc)
      unfold textWords
      rw [h c List.mem_cons_self, ih (c :: word) hrest, ih [] hrest]

/-- Words are made of the text. -/
theorem mem_textWords : ∀ {text word : List Char} {w : String}, w ∈ textWords py word text →
    ∀ c ∈ w.toList, c ∈ word ∨ c ∈ text := by
  intro text
  induction text with
  | nil =>
      intro word w hw c hc
      rw [List.mem_singleton.mp hw, String.toList_ofList, List.mem_reverse] at hc
      exact Or.inl hc
  | cons d rest ih =>
      intro word w hw c hc
      unfold textWords at hw
      by_cases hd : py.wordChar d = true
      · rw [if_pos hd] at hw
        rcases ih hw c hc with h | h
        · rcases List.mem_cons.mp h with rfl | h
          · exact Or.inr List.mem_cons_self
          · exact Or.inl h
        · exact Or.inr (List.mem_cons_of_mem _ h)
      · rw [if_neg hd] at hw
        rcases List.mem_cons.mp hw with rfl | hw
        · rw [String.toList_ofList, List.mem_reverse] at hc
          exact Or.inl hc
        · rcases ih hw c hc with h | h
          · cases h
          · exact Or.inr (List.mem_cons_of_mem _ h)

/-- The pattern on ASCII text. -/
theorem shellInjection_usual (h : py.Usual) {s : String}
    (hs : s.toList.all (fun c => decide (c.toNat < 128)) = true) :
    shellInjection py s = shellInjection asciiLibraries s := by
  simp only [List.all_eq_true, decide_eq_true_eq] at hs
  unfold shellInjection
  rw [textWords_congr s.toList [] fun c hc => h.wordChar c (hs c hc)]
  simp only []
  congr 1
  rw [Bool.eq_iff_iff, List.any_eq_true, List.any_eq_true]
  refine exists_congr fun w => and_congr_right fun hw => ?_
  have hletters : w.toList.map py.letter = w.toList.map asciiLibraries.letter := by
    refine List.map_congr_left fun c hc => h.letter c (hs c ?_)
    rcases mem_textWords hw c hc with hmem | hmem
    · cases hmem
    · exact hmem
  rw [hletters]

theorem targetErrors_self (hservice : target.serviceName = "demo-api") :
    targetErrors target (some target) = [] := by
  simp only [targetErrors, List.append_eq_nil_iff, errorIf_nil, ne_eq, not_true_eq_false,
    not_false_eq_true, and_self, hservice]

/-- A parameter that is what the target has. -/
theorem strayParameter_same {step : RemediationStepSchema} {key expected : String}
    {text : String → String}
    (h : ∀ value, step.parameters.get? key = some value → value = jsonStr expected) :
    strayParameter step key expected text = [] := by
  unfold strayParameter
  cases hvalue : step.parameters.get? key with
  | none => rfl
  | some value =>
      simp only [h value hvalue, errorIf_nil, not_and]
      intro _ hstray
      exact hstray (by simp only [jsonStr, acceptsText, decide_true])

/-- A step that is in order. -/
theorem stepErrors_same {step : RemediationStepSchema} {action : BaseAction}
    (haction : registry.get? step.action = some action)
    (haccepts : acceptsParameters action.parametersSchema step.parameters = true)
    (hresource : step.resourceId = target.resourceId)
    (hcontainer : ∀ value, step.parameters.get? "container_id" = some value →
      value = jsonStr target.containerId)
    (hservice : ∀ value, step.parameters.get? "service_name" = some value →
      value = jsonStr target.serviceName) : stepErrors py registry target step = [] := by
  unfold stepErrors
  rw [haction]
  simp only [actionErrors, List.append_eq_nil_iff, errorIf_nil, not_not, ne_eq]
  exact ⟨⟨⟨haccepts, hresource⟩, strayParameter_same hcontainer⟩, strayParameter_same hservice⟩

/-- The steps of a restart are each in order. -/
theorem restartPlanSteps_each (h : py.Usual) (hid : target.resourceId < 2 ^ 128)
    (htarget : containerIdPattern target.containerId = true)
    (hservice : target.serviceName = "demo-api") (hgeneration : 1 ≤ target.bindingGeneration) :
    ∀ step ∈ restartPlanSteps target,
      stepErrors py (defaultRegistry py) target step = [] := by
  have hshell : shellInjection py "demo-api" = false := by
    rw [shellInjection_usual h (by decide)]
    decide +kernel
  have hprofile : shellInjection py "m1_default_restart_profile" = false := by
    rw [shellInjection_usual h (by decide)]
    decide +kernel
  have huuid := h.uuid target.resourceId hid
  have hcontainer : acceptsText containerIdPattern (jsonStr target.containerId) = true := htarget
  have hname : acceptsText (fun s => !shellInjection py s && decide (s = "demo-api"))
      (jsonStr "demo-api") = true := by
    simp only [jsonStr, acceptsText, hshell, Bool.not_false, decide_true, Bool.and_self]
  have hwait : acceptsText (safeText py 0 64) (jsonStr "m1_default_restart_profile") = true := by
    simp only [jsonStr, acceptsText, safeText, hprofile]
    decide
  have hint : ∀ {n least : Int} {most : Option Int}, least ≤ n → (∀ m ∈ most, n ≤ m) →
      acceptsInt py least most (jsonInt n) = true := by
    intro n least most hleast hmost
    unfold acceptsInt
    rw [h.int]
    cases most with
    | none => simpa using hleast
    | some m => simpa using ⟨hleast, hmost m rfl⟩
  have hgiven : (bindingGenerationField py).accepts (jsonInt target.bindingGeneration) = true :=
    hint hgeneration (by simp)
  have hfield : (bindingGenerationField py).name = "binding_generation" := rfl
  have hoptional : (bindingGenerationField py).required = false := rfl
  simp only [restartPlanSteps, List.forall_mem_cons, List.not_mem_nil, false_implies,
    implies_true, and_true]
  refine ⟨stepErrors_same rfl ?_ rfl ?_ ?_, stepErrors_same rfl ?_ rfl ?_ ?_,
    stepErrors_same rfl ?_ rfl ?_ ?_⟩
  · simp [acceptsParameters, inspectContainerParams, containerIdField, uuidField, huuid,
      hcontainer, hgiven, hfield, hoptional]
  · simp [JsonDict.get?]
  · simp [JsonDict.get?, List.lookup_cons]
  · simp [acceptsParameters, restartContainerParams, containerIdField, uuidField, huuid,
      hcontainer, hgiven, hfield, hoptional, hint, hservice, hname]
  · simp [JsonDict.get?]
  · simp [JsonDict.get?, List.lookup_cons]
  · simp [acceptsParameters, waitForStabilizationParams, uuidField, huuid, hint, hwait]
  · simp [JsonDict.get?, List.lookup_cons]
  · simp [JsonDict.get?, List.lookup_cons]

/-- **What the planner writes for a restart is accepted.** -/
theorem plannedPlan_accepted (h : py.Usual) {sha256 : ByteArray → String}
    {incidentId diagnosisId version : Nat} {causeStr : String}
    (hcause : causeStr ∈ supportedRestartCauses) (hid : target.resourceId < 2 ^ 128)
    (htarget : containerIdPattern target.containerId = true)
    (hservice : target.serviceName = "demo-api") (hgeneration : 1 ≤ target.bindingGeneration) :
    validatePlan py (defaultRegistry py) sha256
      (plannedPlan sha256 incidentId diagnosisId causeStr target version) (some target) true =
        [] := by
  refine validatePlan_nil.mpr ⟨targetErrors_self hservice, ?_, fun _ => rfl⟩
  rw [plannedPlan_steps hcause]
  refine ⟨by simp [restartPlanSteps], restartPlanSteps_each h hid htarget hservice hgeneration,
    Or.inr ⟨_, rfl, rfl, ?_⟩⟩
  constructor <;> simp [restartPlanSteps]

/-- No digit of an identifier is a dash. -/
theorem uuidDigits_dash (id : Nat) : ∀ c ∈ uuidDigits id, c ≠ '-' := by
  have hdigit : ∀ n < 16, n.digitChar ≠ '-' := by decide
  have hdigits : ∀ n, ∀ c ∈ Nat.toDigits 16 n, c ≠ '-' := by
    intro n
    induction n using Nat.strong_induction_on with
    | _ n ih =>
        intro c hc
        by_cases hn : n < 16
        · rw [Nat.toDigits_of_lt_base hn] at hc
          rw [List.mem_singleton.mp hc]
          exact hdigit n hn
        · rw [toDigits_sixteen_succ (by omega)] at hc
          rcases List.mem_append.mp hc with hc | hc
          · exact ih (n / 16) (by omega) c hc
          · rw [List.mem_singleton.mp hc]
            exact hdigit _ (Nat.mod_lt n (by decide))
  intro c hc
  rcases List.mem_append.mp hc with hc | hc
  · rw [(List.mem_replicate.mp hc).2]
    decide
  · exact hdigits id c hc

theorem readUuid_uuidText {id : Nat} (hid : id < 2 ^ 128) : readUuid (uuidText id) = some id := by
  have hlen := length_uuidDigits hid
  have hpart : ∀ k n, (((uuidDigits id).drop k).take n).filter (· ≠ '-') =
      ((uuidDigits id).drop k).take n := by
    intro k n
    refine List.filter_eq_self.mpr fun c hc => decide_eq_true (uuidDigits_dash id c ?_)
    exact List.mem_of_mem_drop (List.mem_of_mem_take hc)
  have hfilter : (uuidText id).toList.filter (· ≠ '-') = uuidDigits id := by
    have hfirst := hpart 0 8
    rw [List.drop_zero] at hfirst
    have hdash : decide ('-' ≠ '-') = false := by decide
    rw [uuidText_toList]
    simp only [List.filter_append, List.filter_cons, hpart, hfirst, hdash, Bool.false_eq_true,
      if_false]
    exact (uuidDigits_parts hlen).symm
  unfold readUuid
  rw [hfilter]
  simp only []
  rw [if_pos hlen]
  simp only [uuidDigits, hexNumber_replicate, hexNumber_toDigits]

theorem asciiLibraries_uuid (s : String) : asciiLibraries.uuid (jsonStr s) = readUuid s := rfl

theorem asciiLibraries_usual : asciiLibraries.Usual where
  int := fun _ => rfl
  uuid := by
    intro id hid
    rw [asciiLibraries_uuid]
    exact readUuid_uuidText hid
  wordChar := fun _ _ => rfl
  letter := fun _ _ => rfl

/-- A restart that the planner has planned, with its digest. -/
def restartPlan : RemediationPlanSchema :=
  plannedPlan (fun _ => "943cb14dc47e5bea49b1547ac303ef1ec9dc2e76a71b86ca4eb818fc0112a0e1")
    1 2 "CPU_SATURATION" ⟨3, "0123456789ab", "demo-api", 1⟩ 1

theorem restartPlan_accepted :
    validatePlan asciiLibraries (defaultRegistry asciiLibraries)
      (fun _ => "943cb14dc47e5bea49b1547ac303ef1ec9dc2e76a71b86ca4eb818fc0112a0e1")
      restartPlan (some ⟨3, "0123456789ab", "demo-api", 1⟩) true = [] :=
  plannedPlan_accepted asciiLibraries_usual (by decide) (by decide) (by decide) rfl (by decide)

/-! ### Restarts -/

/-- A plan that looks, restarts once and waits: the steps stand at different positions, the
restart is the only one and nothing else changes the workload. -/
structure SafeRestart (registry : ActionRegistry) (steps : List RemediationStepSchema)
    (restart : RemediationStepSchema) : Prop where
  positions : (steps.map RemediationStepSchema.position).Nodup
  member : restart ∈ steps
  action : restart.action = "restart_container"
  only : ∀ step ∈ steps, step.action = "restart_container" ∨ step.mutates registry = true →
    step = restart
  sequenced : Sequenced steps restart

theorem restart_mutates {step : RemediationStepSchema} (h : step.action = "restart_container") :
    step.mutates (defaultRegistry py) = true := by
  unfold RemediationStepSchema.mutates
  rw [h]
  rfl

/-- **Accepted restarts are safe, and the order in which steps are given does not matter.**  An
accepted plan that changes the workload restarts once, after all looking and before all waiting;
and a plan is accepted with its steps in any order or in none. -/
theorem validatePlan_shape (py : Libraries) (sha256 : ByteArray → String)
    (plan : RemediationPlanSchema) (expected : Option TargetBinding) (verify : Bool) :
    (validatePlan py (defaultRegistry py) sha256 plan expected verify = [] →
      (∃ step ∈ plan.steps, step.mutates (defaultRegistry py) = true) →
        ∃ restart, SafeRestart (defaultRegistry py) plan.steps restart) ∧
    ∀ registry steps, plan.steps.Perm steps →
      (validatePlan py registry sha256 { plan with steps := steps } expected verify = [] ↔
        validatePlan py registry sha256 plan expected verify = []) := by
  constructor
  · rintro h ⟨step, hstep, hmutates⟩
    obtain ⟨-, hchecked, -⟩ := validatePlan_nil.mp h
    have hmem : ∀ {s}, s ∈ plan.steps → s.mutates (defaultRegistry py) = true →
        s ∈ mutatingSteps (defaultRegistry py) plan.steps :=
      fun hs hm => List.mem_filter.mpr ⟨hs, hm⟩
    rcases hchecked.mutation with hnone | ⟨restart, hone, haction, hseq⟩
    · have hin := hmem hstep hmutates
      rw [hnone] at hin
      cases hin
    · have hrestart : restart ∈ mutatingSteps (defaultRegistry py) plan.steps := by
        rw [hone]
        exact List.mem_singleton_self restart
      refine ⟨restart, hchecked.positions, (List.mem_filter.mp hrestart).1, haction, ?_, hseq⟩
      intro s hs hcase
      have hin : s ∈ mutatingSteps (defaultRegistry py) plan.steps := by
        rcases hcase with hs' | hs'
        · exact hmem hs (restart_mutates hs')
        · exact hmem hs hs'
      rw [hone] at hin
      exact List.mem_singleton.mp hin
  · intro registry steps hperm
    constructor
    · intro h
      have hback := validatePlan_of_perm hperm.symm h
      exact hback
    · exact validatePlan_of_perm hperm

theorem restartPlan_shape :
    ∃ restart, SafeRestart (defaultRegistry asciiLibraries) restartPlan.steps restart :=
  (validatePlan_shape asciiLibraries _ restartPlan _ true).1 restartPlan_accepted
    ⟨_, List.mem_cons_of_mem _ List.mem_cons_self, rfl⟩

/-! ### What is compared of a step

A container or a service that is not empty is compared with the target, and the catalog accepts no
empty one.
-/

/-- What the catalog accepts as a container or a service is not empty. -/
theorem truthy_of_accepts {action : BaseAction} (ha : action ∈ defaultRegistry py)
    {field : ParamField} (hf : field ∈ action.parametersSchema)
    (hname : field.name = "container_id" ∨ field.name = "service_name") {value : JsonValue}
    (h : field.accepts value = true) : pyBool value = true := by
  have htext : ∀ test : String → Bool, test "" = false → acceptsText test value = true →
      pyBool value = true := by
    intro test hempty haccepts
    match value, haccepts with
    | .atom (.text s), haccepts =>
        refine decide_eq_true fun hs => ?_
        have haccepts : test s = true := haccepts
        rw [hs, hempty] at haccepts
        cases haccepts
  have hcontainer : containerIdPattern "" = false := by decide
  have hservice : (!shellInjection py "" && decide ("" = "demo-api")) = false := by
    have hne : decide ("" = "demo-api") = false := by decide
    rw [hne, Bool.and_false]
  simp only [defaultRegistry, List.mem_cons, List.not_mem_nil, or_false] at ha
  rcases ha with rfl | rfl | rfl | rfl | rfl
  · simp only [inspectContainerParams, List.mem_cons, List.not_mem_nil, or_false] at hf
    rcases hf with rfl | rfl | rfl
    · exact htext _ hcontainer h
    · simp [uuidField] at hname
    · simp [bindingGenerationField] at hname
  · simp only [restartContainerParams, List.mem_cons, List.not_mem_nil, or_false] at hf
    rcases hf with rfl | rfl | rfl | rfl | rfl
    · exact htext _ hcontainer h
    · simp [uuidField] at hname
    · exact htext _ hservice h
    · simp at hname
    · simp [bindingGenerationField] at hname
  · simp only [waitForStabilizationParams, List.mem_cons, List.not_mem_nil, or_false] at hf
    rcases hf with rfl | rfl | rfl <;> simp [uuidField] at hname
  · simp only [notifyOperatorParams, List.mem_cons, List.not_mem_nil, or_false] at hf
    rcases hf with rfl | rfl | rfl | rfl <;> simp [uuidField] at hname
  · simp only [openIncidentTicketParams, List.mem_cons, List.not_mem_nil, or_false] at hf
    rcases hf with rfl | rfl | rfl | rfl | rfl <;> simp [uuidField] at hname

/-- A container or a service that is accepted and not stray is that of the target. -/
theorem same_of_strayParameter {action : BaseAction} (ha : action ∈ defaultRegistry py)
    {step : RemediationStepSchema}
    (haccepts : acceptsParameters action.parametersSchema step.parameters = true)
    {key expected : String} (hkey : key = "container_id" ∨ key = "service_name")
    {text : String → String} (hstray : strayParameter step key expected text = []) :
    ∀ value, step.parameters.get? key = some value → value = jsonStr expected := by
  intro value hvalue
  have hmem : (key, value) ∈ step.parameters := by
    obtain ⟨before, after, hsplit, -⟩ := List.lookup_eq_some_iff.mp hvalue
    rw [hsplit]
    exact List.mem_append_right before List.mem_cons_self
  simp only [acceptsParameters, Bool.and_eq_true, List.all_eq_true, List.any_eq_true,
    decide_eq_true_eq] at haccepts
  obtain ⟨field, hfield, hname, hvalid⟩ := haccepts.1 _ hmem
  have htrue : pyBool value = true := by
    refine truthy_of_accepts ha hfield ?_ hvalid
    rw [hname]
    exact hkey
  unfold strayParameter at hstray
  rw [hvalue] at hstray
  simp only [errorIf_nil, htrue, true_and, not_not] at hstray
  match value, hstray with
  | .atom (.text s), hstray =>
      have hsame : s = expected := of_decide_eq_true hstray
      rw [hsame]
      rfl

/-- What the validator looks at of an accepted step. -/
theorem bound_of_stepErrors {step : RemediationStepSchema}
    (h : stepErrors py (defaultRegistry py) target step = []) :
    step.resourceId = target.resourceId ∧
      (∀ value, step.parameters.get? "container_id" = some value →
        value = jsonStr target.containerId) ∧
      ∀ value, step.parameters.get? "service_name" = some value →
        value = jsonStr target.serviceName := by
  unfold stepErrors at h
  cases haction : (defaultRegistry py).get? step.action with
  | none =>
      rw [haction] at h
      cases h
  | some action =>
      rw [haction] at h
      simp only [actionErrors, List.append_eq_nil_iff, errorIf_nil, not_not, ne_eq] at h
      obtain ⟨⟨⟨haccepts, hresource⟩, hcontainer⟩, hservice⟩ := h
      have ha : action ∈ defaultRegistry py := List.mem_of_find?_eq_some haction
      exact ⟨hresource, same_of_strayParameter ha haccepts (Or.inl rfl) hcontainer,
        same_of_strayParameter ha haccepts (Or.inr rfl) hservice⟩

end SelfHealing
