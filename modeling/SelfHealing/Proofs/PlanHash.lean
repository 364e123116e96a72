/-
What the hash of a plan stands for.

The bytes that are hashed are the text of one JSON value, with the steps by their positions and
the keys of every dictionary in order.  So they do not depend on the order in which steps and keys
are given.  And as a text can be read in one way only, and an identifier be told from its digits,
two plans with the same bytes have the same contents, step by step.

The digest is a parameter.  What is shown is that plans have the same bytes if and only if they have
the same contents, so that an equality of hashes is one of contents as far as the digest tells
apart what it is given.
-/
import SelfHealing.Plans
import SelfHealing.Proofs.JsonTexts

namespace SelfHealing

open Canonical

variable {X Y : Type}

/-! ### Identifiers -/

/-- The digits of an identifier. -/
def uuidDigits (id : Nat) : List Char :=
  let digits := Nat.toDigits 16 id
  List.replicate (32 - digits.length) '0' ++ digits

theorem length_uuidDigits {id : Nat} (h : id < 2 ^ 128) : (uuidDigits id).length = 32 := by
  have hlen := length_toDigits_le (k := 32) (by decide) (show id < 16 ^ 32 by omega)
  simp only [uuidDigits, List.length_append, List.length_replicate]
  omega

theorem uuidDigits_injective {id id' : Nat} (h : uuidDigits id = uuidDigits id') : id = id' := by
  have hnumber := congrArg hexNumber h
  simpa only [uuidDigits, hexNumber_replicate, hexNumber_toDigits] using hnumber

/-- The digits in the groups in which they are written. -/
theorem uuidDigits_parts {digits : List Char} (hlen : digits.length = 32) :
    digits = digits.take 8 ++ ((digits.drop 8).take 4 ++ ((digits.drop 12).take 4 ++
      ((digits.drop 16).take 4 ++ (digits.drop 20).take 12))) := by
  have hlast : (digits.drop 20).take 12 = digits.drop 20 :=
    List.take_of_length_le (by rw [List.length_drop]; omega)
  have hmerge : ∀ k n, (digits.drop k).take n ++ digits.drop (k + n) = digits.drop k := by
    intro k n
    rw [← List.drop_drop, List.take_append_drop]
  rw [hlast, hmerge 16 4, hmerge 12 4, hmerge 8 4, List.take_append_drop]

/-- Texts with a dash after as many characters. -/
theorem dash_inj {part part' : List Char} {rest rest' : List Char}
    (hlen : part.length = part'.length) (h : part ++ '-' :: rest = part' ++ '-' :: rest') :
    part = part' ∧ rest = rest' := by
  obtain ⟨hpart, hrest⟩ := List.append_inj h hlen
  exact ⟨hpart, (List.cons.inj hrest).2⟩

theorem uuidText_toList (id : Nat) :
    (uuidText id).toList =
      (uuidDigits id).take 8 ++ '-' :: (((uuidDigits id).drop 8).take 4 ++
        '-' :: (((uuidDigits id).drop 12).take 4 ++ '-' :: (((uuidDigits id).drop 16).take 4 ++
          '-' :: ((uuidDigits id).drop 20).take 12))) := by
  have hdash : "-".toList = ['-'] := rfl
  simp only [uuidText, String.toList_append, String.toList_ofList, hdash, List.append_assoc,
    List.singleton_append]
  rfl

/-- Identifiers of 128 bits have different texts. -/
theorem uuidText_injective {id id' : Nat} (h : id < 2 ^ 128) (h' : id' < 2 ^ 128)
    (htext : uuidText id = uuidText id') : id = id' := by
  have hlen := length_uuidDigits h
  have hlen' := length_uuidDigits h'
  have hchars := congrArg String.toList htext
  rw [uuidText_toList, uuidText_toList] at hchars
  have hpart : ∀ k n, k + n ≤ 32 → (((uuidDigits id).drop k).take n).length =
      (((uuidDigits id').drop k).take n).length := by
    intro k n hkn
    simp only [List.length_take, List.length_drop, hlen, hlen']
  obtain ⟨h1, hchars⟩ := dash_inj (hpart 0 8 (by omega)) hchars
  obtain ⟨h2, hchars⟩ := dash_inj (hpart 8 4 (by omega)) hchars
  obtain ⟨h3, hchars⟩ := dash_inj (hpart 12 4 (by omega)) hchars
  obtain ⟨h4, h5⟩ := dash_inj (hpart 16 4 (by omega)) hchars
  refine uuidDigits_injective ?_
  rw [uuidDigits_parts hlen, uuidDigits_parts hlen', h2, h3, h4, h5]
  congr 1

/-! ### Plans alike -/

/-- What a dump of a plan is: identifiers of 128 bits, and dictionaries with each key once. -/
structure RemediationPlanSchema.Dumped (plan : RemediationPlanSchema) : Prop where
  incidentId : plan.incidentId < 2 ^ 128
  diagnosisId : plan.diagnosisId < 2 ^ 128
  targetId : plan.targetBinding.resourceId < 2 ^ 128
  stepIds : ∀ step ∈ plan.steps, step.resourceId < 2 ^ 128
  parameters : ∀ step ∈ plan.steps, Distinct (.map step.parameters)
  verification : ∀ step ∈ plan.steps, Distinct (.map step.verification)

/-- No dictionary of a step has a key twice. -/
def RemediationPlanSchema.DistinctKeys (plan : RemediationPlanSchema) : Prop :=
  ∀ step ∈ plan.steps, Distinct (.map step.parameters) ∧ Distinct (.map step.verification)

theorem RemediationPlanSchema.Dumped.distinctKeys {plan : RemediationPlanSchema}
    (h : plan.Dumped) : plan.DistinctKeys :=
  fun step hstep => ⟨h.parameters step hstep, h.verification step hstep⟩

/-- No two steps of the plan have one position. -/
def RemediationPlanSchema.DistinctPositions (plan : RemediationPlanSchema) : Prop :=
  (plan.steps.map RemediationStepSchema.position).Nodup

/-- Steps that differ at most in the order of the keys of their dictionaries. -/
structure SameStep (step step' : RemediationStepSchema) : Prop where
  position : step.position = step'.position
  action : step.action = step'.action
  resourceId : step.resourceId = step'.resourceId
  version : step.actionSchemaVersion = step'.actionSchemaVersion
  parameters : Reordered (.map step.parameters) (.map step'.parameters)
  verification : Reordered (.map step.verification) (.map step'.verification)

/-- Plans with the same contents but for their steps; an empty profile counts as none. -/
structure SameHead (plan plan' : RemediationPlanSchema) : Prop where
  incidentId : plan.incidentId = plan'.incidentId
  diagnosisId : plan.diagnosisId = plan'.diagnosisId
  version : plan.version = plan'.version
  risk : plan.risk = plan'.risk
  targetBinding : plan.targetBinding = plan'.targetBinding
  profile : plan.verificationProfile.filter (· ≠ "") = plan'.verificationProfile.filter (· ≠ "")

theorem sameStep_refl (step : RemediationStepSchema) : SameStep step step :=
  ⟨rfl, rfl, rfl, rfl, .refl _, .refl _⟩

/-! ### From contents to bytes -/

/-- A dictionary with known keys and values is in order if its values are. -/
theorem distinct_step {step : RemediationStepSchema} (hp : Distinct (.map step.parameters))
    (hv : Distinct (.map step.verification)) : Distinct step.canonical := by
  refine .map (by simp only [List.map_cons, List.map_nil]; decide) fun e he => ?_
  simp only [List.mem_cons, List.not_mem_nil, or_false] at he
  rcases he with rfl | rfl | rfl | rfl | rfl | rfl
  · exact .atom _
  · exact .atom _
  · exact .atom _
  · exact .atom _
  · exact hp
  · exact hv

theorem distinct_target (target : TargetBinding) : Distinct target.canonical := by
  refine .map (by simp only [List.map_cons, List.map_nil]; decide) fun e he => ?_
  simp only [List.mem_cons, List.not_mem_nil, or_false] at he
  rcases he with rfl | rfl | rfl | rfl <;> exact .atom _

theorem sortedSteps_perm (steps : List RemediationStepSchema) : (sortedSteps steps).Perm steps :=
  List.perm_insertionSort _ steps

theorem distinct_plan {plan : RemediationPlanSchema} (h : plan.DistinctKeys) :
    Distinct plan.canonical := by
  refine .map (by simp only [List.map_cons, List.map_nil]; decide) fun e he => ?_
  simp only [List.mem_cons, List.not_mem_nil, or_false] at he
  rcases he with rfl | rfl | rfl | rfl | rfl | rfl | rfl
  · exact .atom _
  · exact .atom _
  · exact .atom _
  · exact .atom _
  · exact distinct_target _
  · refine .seq fun t ht => ?_
    obtain ⟨step, hstep, rfl⟩ := List.mem_map.mp ht
    have hmem := (sortedSteps_perm plan.steps).mem_iff.mp hstep
    exact distinct_step (h step hmem).1 (h step hmem).2
  · simp only
    cases plan.verificationProfile.filter (· ≠ "") with
    | none => exact .atom _
    | some profile => exact .atom _

theorem encoded_eq_iff {plan plan' : RemediationPlanSchema} (h : plan.DistinctKeys) :
    plan.encoded = plan'.encoded ↔ Reordered plan.canonical plan'.canonical := by
  unfold RemediationPlanSchema.encoded
  simp only [String.toUTF8_eq_toByteArray, String.toByteArray_inj]
  exact jsonDumps_eq_iff (distinct_plan h)

/-- **The order in which the steps are given does not matter.** -/
theorem sortedSteps_congr {steps steps' : List RemediationStepSchema}
    (hpos : (steps.map RemediationStepSchema.position).Nodup) (h : steps.Perm steps') :
    sortedSteps steps = sortedSteps steps' := by
  have htotal : Std.Total fun s s' : RemediationStepSchema => s.position ≤ s'.position :=
    ⟨fun s s' => le_total s.position s'.position⟩
  have htrans : IsTrans RemediationStepSchema fun s s' => s.position ≤ s'.position :=
    ⟨fun _ _ _ h h' => le_trans h h'⟩
  have hperm : (sortedSteps steps).Perm (sortedSteps steps') :=
    (sortedSteps_perm steps).trans (h.trans (sortedSteps_perm steps').symm)
  refine hperm.eq_of_pairwise ?_ (List.pairwise_insertionSort _ steps)
    (List.pairwise_insertionSort _ steps')
  intro s s' hs hs' hle hle'
  have hmem : s ∈ steps := (sortedSteps_perm steps).mem_iff.mp hs
  have hmem' : s' ∈ steps := h.mem_iff.mpr ((sortedSteps_perm steps').mem_iff.mp hs')
  exact List.inj_on_of_nodup_map hpos hmem hmem' (le_antisymm hle hle')

/-- Steps that are alike are sorted alike. -/
theorem sortedSteps_same {steps steps' : List RemediationStepSchema}
    (h : List.Forall₂ SameStep steps steps') :
    List.Forall₂ SameStep (sortedSteps steps) (sortedSteps steps') := by
  have hinsert : ∀ {s s'} {l l' : List RemediationStepSchema}, SameStep s s' →
      List.Forall₂ SameStep l l' →
      List.Forall₂ SameStep (l.orderedInsert (fun s s' => s.position ≤ s'.position) s)
        (l'.orderedInsert (fun s s' => s.position ≤ s'.position) s') := by
    intro s s' l l' hs hl
    induction hl with
    | nil => exact .cons hs .nil
    | @cons u u' l l' hu hl ih =>
        simp only [List.orderedInsert_cons]
        rw [hs.position, hu.position]
        by_cases hle : s'.position ≤ u'.position
        · rw [if_pos hle, if_pos hle]
          exact .cons hs (.cons hu hl)
        · rw [if_neg hle, if_neg hle]
          exact .cons hu ih
  induction h with
  | nil => exact .nil
  | cons hs _ ih => exact hinsert hs ih

theorem reordered_step {step step' : RemediationStepSchema} (h : SameStep step step') :
    Reordered step.canonical step'.canonical := by
  unfold RemediationStepSchema.canonical
  rw [h.position, h.action, h.resourceId, h.version]
  refine reordered_map ?_ []
  exact .cons ⟨rfl, .refl _⟩ (.cons ⟨rfl, .refl _⟩ (.cons ⟨rfl, .refl _⟩ (.cons ⟨rfl, .refl _⟩
    (.cons ⟨rfl, h.parameters⟩ (.cons ⟨rfl, h.verification⟩ .nil)))))

/-- Plans that differ in the order of keys only have the same bytes. -/
theorem encoded_congr {plan plan' : RemediationPlanSchema} (hd : plan.DistinctKeys)
    (hhead : SameHead plan plan')
    (hsteps : List.Forall₂ SameStep (sortedSteps plan.steps) (sortedSteps plan'.steps)) :
    plan.encoded = plan'.encoded := by
  rw [encoded_eq_iff hd]
  have hseq : Reordered (.seq ((sortedSteps plan.steps).map RemediationStepSchema.canonical))
      (.seq ((sortedSteps plan'.steps).map RemediationStepSchema.canonical)) := by
    refine reordered_seq ?_ []
    rw [List.forall₂_map_left_iff, List.forall₂_map_right_iff]
    exact hsteps.imp fun _ _ hs => reordered_step hs
  unfold RemediationPlanSchema.canonical
  rw [hhead.incidentId, hhead.diagnosisId, hhead.version, hhead.risk, hhead.targetBinding,
    hhead.profile]
  refine reordered_map ?_ []
  exact .cons ⟨rfl, .refl _⟩ (.cons ⟨rfl, .refl _⟩ (.cons ⟨rfl, .refl _⟩ (.cons ⟨rfl, .refl _⟩
    (.cons ⟨rfl, .refl _⟩ (.cons ⟨rfl, hseq⟩ (.cons ⟨rfl, .refl _⟩ .nil))))))

/-! ### From bytes to contents

A text gives back its value, as the printer is injective, and the value gives back the parts that
it was built of: each part stands under a key of its own.  Sorting has taken out the order of the
keys, so what is given back are the dictionaries as finite maps.
-/

/-- What is written of a field tells the field. -/
theorem jsonStr_sortKeys {s s' : String}
    (h : (jsonStr s).sortKeys = (jsonStr s').sortKeys) : s = s' := by
  simp only [jsonStr, sortKeys_atom, Tree.atom.injEq, JsonAtom.text.injEq] at h
  exact h

theorem jsonInt_sortKeys {n n' : Int} (h : (jsonInt n).sortKeys = (jsonInt n').sortKeys) :
    n = n' := by
  simp only [jsonInt, sortKeys_atom, Tree.atom.injEq, JsonAtom.int.injEq] at h
  exact h

theorem value_injective : ∀ risk risk' : RiskLevel, risk.value = risk'.value → risk = risk' := by
  intro risk risk'
  cases risk <;> cases risk' <;> decide

/-- Dictionaries that are sorted alike have the same entries. -/
theorem sortKeys_reordered {t t' : JsonValue} (h : t.sortKeys = t'.sortKeys) : Reordered t t' := by
  refine (reordered_sortKeys t).trans ?_
  rw [h]
  exact (reordered_sortKeys t').symm

theorem target_of_sortKeys {target target' : TargetBinding} (hid : target.resourceId < 2 ^ 128)
    (hid' : target'.resourceId < 2 ^ 128)
    (h : target.canonical.sortKeys = target'.canonical.sortKeys) : target = target' := by
  unfold TargetBinding.canonical at h
  have hvalues := sortKeys_values h (by simp only [List.map_cons, List.map_nil])
    (by simp only [List.map_cons, List.map_nil]; decide)
  simp only [List.forall₂_cons, List.Forall₂.nil, and_true] at hvalues
  obtain ⟨hresource, hcontainer, hservice, hgeneration⟩ := hvalues
  have hresource := uuidText_injective hid hid' (jsonStr_sortKeys hresource)
  have hcontainer := jsonStr_sortKeys hcontainer
  have hservice := jsonStr_sortKeys hservice
  have hgeneration := jsonInt_sortKeys hgeneration
  cases target
  cases target'
  simp only at hresource hcontainer hservice hgeneration
  rw [hresource, hcontainer, hservice, hgeneration]

theorem step_of_sortKeys {step step' : RemediationStepSchema} (hid : step.resourceId < 2 ^ 128)
    (hid' : step'.resourceId < 2 ^ 128)
    (h : step.canonical.sortKeys = step'.canonical.sortKeys) : SameStep step step' := by
  unfold RemediationStepSchema.canonical at h
  have hvalues := sortKeys_values h (by simp only [List.map_cons, List.map_nil])
    (by simp only [List.map_cons, List.map_nil]; decide)
  simp only [List.forall₂_cons, List.Forall₂.nil, and_true] at hvalues
  obtain ⟨hposition, haction, hresource, hversion, hparameters, hverification⟩ := hvalues
  refine ⟨?_, jsonStr_sortKeys haction, uuidText_injective hid hid' (jsonStr_sortKeys hresource),
    jsonStr_sortKeys hversion, sortKeys_reordered hparameters, sortKeys_reordered hverification⟩
  exact Int.ofNat.inj (jsonInt_sortKeys hposition)

/-- What is written of the profile tells it. -/
theorem profile_of_sortKeys {profile profile' : Option String}
    (h : (match profile with
        | some profile => jsonStr profile
        | none => jsonNull).sortKeys =
      (match profile' with
        | some profile => jsonStr profile
        | none => jsonNull).sortKeys) : profile = profile' := by
  cases profile with
  | none =>
      cases profile' with
      | none => rfl
      | some s' =>
          simp only [jsonStr, jsonNull, sortKeys_atom, Tree.atom.injEq, reduceCtorEq] at h
  | some s =>
      cases profile' with
      | none => simp only [jsonStr, jsonNull, sortKeys_atom, Tree.atom.injEq, reduceCtorEq] at h
      | some s' => exact congrArg some (jsonStr_sortKeys h)

/-- Plans with the same bytes have the same contents, one step by position with the other. -/
theorem contents_of_encoded {plan plan' : RemediationPlanSchema} (hd : plan.Dumped)
    (hd' : plan'.Dumped) (h : plan.encoded = plan'.encoded) :
    SameHead plan plan' ∧
      List.Forall₂ SameStep (sortedSteps plan.steps) (sortedSteps plan'.steps) := by
  have hkeys := hd.distinctKeys
  have hsort := ((encoded_eq_iff hkeys).mp h).sortKeys.2 (distinct_plan hkeys)
  unfold RemediationPlanSchema.canonical at hsort
  have hvalues := sortKeys_values hsort (by simp only [List.map_cons, List.map_nil])
    (by simp only [List.map_cons, List.map_nil]; decide)
  simp only [List.forall₂_cons, List.Forall₂.nil, and_true] at hvalues
  obtain ⟨hincident, hdiagnosis, hversion, hrisk, htarget, hsteps, hprofile⟩ := hvalues
  have hincident := uuidText_injective hd.incidentId hd'.incidentId (jsonStr_sortKeys hincident)
  have hdiagnosis :=
    uuidText_injective hd.diagnosisId hd'.diagnosisId (jsonStr_sortKeys hdiagnosis)
  refine ⟨⟨hincident, hdiagnosis, Int.ofNat.inj (jsonInt_sortKeys hversion),
    value_injective _ _ (jsonStr_sortKeys hrisk),
    target_of_sortKeys hd.targetId hd'.targetId htarget, profile_of_sortKeys hprofile⟩, ?_⟩
  simp only [sortKeys_seq, Tree.seq.injEq, List.map_map] at hsteps
  have hall : List.Forall₂ (fun s s' => s.canonical.sortKeys = s'.canonical.sortKeys)
      (sortedSteps plan.steps) (sortedSteps plan'.steps) := by
    have heq := List.forall₂_eq_eq_eq ▸ hsteps
    rwa [List.forall₂_map_left_iff, List.forall₂_map_right_iff] at heq
  refine List.forall₂_iff_zip.mpr ⟨hall.length_eq, fun {s s'} hmem => ?_⟩
  obtain ⟨hs, hs'⟩ := List.of_mem_zip hmem
  exact step_of_sortKeys (hd.stepIds s ((sortedSteps_perm _).mem_iff.mp hs))
    (hd'.stepIds s' ((sortedSteps_perm _).mem_iff.mp hs'))
    ((List.forall₂_iff_zip.mp hall).2 hmem)

/-! ### The hash of a plan

Two plans with different positions in each are what the statement is about; with equal positions the
steps are in the order in which they were given.
-/

/-- The partner of an element. -/
theorem partner {R : X → Y → Prop} {xs : List X} {ys : List Y} (h : List.Forall₂ R xs ys) :
    ∀ x ∈ xs, ∃ y ∈ ys, R x y := by
  induction h with
  | nil =>
      intro x hx
      cases hx
  | cons hxy _ ih =>
      intro x hx
      rcases List.mem_cons.mp hx with rfl | hx
      · exact ⟨_, List.mem_cons_self, hxy⟩
      · obtain ⟨y, hy, h⟩ := ih x hx
        exact ⟨y, List.mem_cons_of_mem _ hy, h⟩

/-- **The hash of a plan is canonical and binding.**  The bytes that are hashed do not change with
the order of the steps, nor with that of the keys of a dictionary; and two plans have the same
bytes only if they have the same contents, and the steps with the same position are the same. -/
theorem encoded_canonical (plan : RemediationPlanSchema) (hd : plan.Dumped)
    (hpos : plan.DistinctPositions) :
    (∀ steps, plan.steps.Perm steps → { plan with steps := steps }.encoded = plan.encoded) ∧
    (∀ plan', SameHead plan plan' → List.Forall₂ SameStep plan.steps plan'.steps →
      plan'.encoded = plan.encoded) ∧
    ∀ plan' : RemediationPlanSchema, plan'.Dumped → plan'.encoded = plan.encoded →
      SameHead plan plan' ∧
        (∀ step ∈ plan.steps, ∃ step' ∈ plan'.steps, SameStep step step') ∧
        ∀ step' ∈ plan'.steps, ∃ step ∈ plan.steps, SameStep step step' := by
  refine ⟨?_, ?_, ?_⟩
  · intro steps hperm
    have hhead : SameHead plan { plan with steps := steps } := ⟨rfl, rfl, rfl, rfl, rfl, rfl⟩
    have hsteps : List.Forall₂ SameStep (sortedSteps plan.steps) (sortedSteps steps) := by
      rw [sortedSteps_congr hpos hperm, List.forall₂_same]
      exact fun step _ => sameStep_refl step
    exact (encoded_congr hd.distinctKeys hhead hsteps).symm
  · intro plan' hhead hsteps
    exact (encoded_congr hd.distinctKeys hhead (sortedSteps_same hsteps)).symm
  · intro plan' hd' h
    obtain ⟨hhead, hall⟩ := contents_of_encoded hd hd' h.symm
    refine ⟨hhead, ?_, ?_⟩
    · intro step hstep
      obtain ⟨step', hstep', hsame⟩ :=
        partner hall step ((sortedSteps_perm _).mem_iff.mpr hstep)
      exact ⟨step', (sortedSteps_perm _).mem_iff.mp hstep', hsame⟩
    · intro step' hstep'
      obtain ⟨step, hstep, hsame⟩ :=
        partner hall.flip step' ((sortedSteps_perm _).mem_iff.mpr hstep')
      exact ⟨step, (sortedSteps_perm _).mem_iff.mp hstep, hsame⟩

/-! ### The plans of the planner -/

theorem plannedPlan_steps {sha256 : ByteArray → String} {incidentId diagnosisId version : Nat}
    {causeStr : String} {target : TargetBinding} (hcause : causeStr ∈ supportedRestartCauses) :
    (plannedPlan sha256 incidentId diagnosisId causeStr target version).steps =
      restartPlanSteps target :=
  if_pos (by rwa [List.contains_iff_mem])

/-- The dictionaries that the planner writes for a restart hold texts and numbers. -/
theorem restartPlanSteps_flat (target : TargetBinding) :
    ∀ step ∈ restartPlanSteps target, Flat step.parameters ∧ Flat step.verification := by
  simp only [restartPlanSteps, List.forall_mem_cons, List.not_mem_nil, false_implies,
    implies_true, and_true]
  refine ⟨⟨⟨?_, ?_⟩, ⟨?_, ?_⟩⟩, ⟨⟨?_, ?_⟩, ⟨?_, ?_⟩⟩, ⟨⟨?_, ?_⟩, ⟨?_, ?_⟩⟩⟩ <;>
    simp [jsonStr, jsonInt]

/-- The steps that the planner writes for a restart are a dump. -/
theorem plannedPlan_dumped {sha256 : ByteArray → String} {incidentId diagnosisId version : Nat}
    {causeStr : String} {target : TargetBinding} (hincident : incidentId < 2 ^ 128)
    (hdiagnosis : diagnosisId < 2 ^ 128) (htarget : target.resourceId < 2 ^ 128)
    (hcause : causeStr ∈ supportedRestartCauses) :
    (plannedPlan sha256 incidentId diagnosisId causeStr target version).Dumped := by
  have hflat := restartPlanSteps_flat target
  refine ⟨hincident, hdiagnosis, htarget, ?_, ?_, ?_⟩
  · rw [plannedPlan_steps hcause]
    simp only [restartPlanSteps, List.forall_mem_cons, List.not_mem_nil, false_implies,
      implies_true, and_true]
    exact ⟨htarget, htarget, htarget⟩
  · rw [plannedPlan_steps hcause]
    exact fun step hstep => (hflat step hstep).1.distinct
  · rw [plannedPlan_steps hcause]
    exact fun step hstep => (hflat step hstep).2.distinct

/-- A plan of a restart, with its steps the other way round. -/
theorem encoded_canonical_reversed :
    let plan := plannedPlan (fun _ => "") 1 2 "CPU_SATURATION"
      ⟨3, "0123456789ab", "demo-api", 1⟩ 1
    { plan with steps := plan.steps.reverse }.encoded = plan.encoded :=
  (encoded_canonical _
    (plannedPlan_dumped (by decide) (by decide) (by decide) (by decide))
    (by unfold RemediationPlanSchema.DistinctPositions; decide)).1 _ (List.reverse_perm _).symm

end SelfHealing
