/-
When a recovery is put down to the agent.

A verdict is the agent's unless the fault is known to have expired or to have been cleared.  A
verifier that requires the status of the fault takes an exception of the provider for that, but
not that there is no provider, no scenario to ask about, or no dictionary in the answer.

A session depends on its clock by durations only (`verificationLoop_later`), so that one that
passes can be put before any expiry, and the attribution alone decides.

The two are told apart by what the registry of faults answers.  What it may answer is anything, a
dictionary or not, and the conditions are on the answer as it comes.
-/
import SelfHealing.Proofs.StabilisationTime
import SelfHealing.Workflow.Outcomes

namespace SelfHealing

open Canonical

/-! ### Sessions at other times -/

/-- The same clock, `d` later. -/
def SessionClock.later {profile : VerificationProfile} (clock : SessionClock profile) (d : Int) :
    SessionClock profile where
  start := clock.start + d
  head := fun n => clock.head n + d
  sampled := fun n => clock.sampled n + d
  ended := fun n => clock.ended n + d
  start_le := Int.add_le_add_right clock.start_le d
  head_le := fun n => Int.add_le_add_right (clock.head_le n) d
  slept := by
    intro n
    have hslept := clock.slept n
    omega
  head_ended := fun n => Int.add_le_add_right (clock.head_ended n) d
  sampled_ended := fun n => Int.add_le_add_right (clock.sampled_ended n) d

section Later

variable {profile : VerificationProfile} {clock : SessionClock profile}
  {evaluateSample : Nat → Nat → Nat → EvaluationSample} (d : Int)

theorem timedOut_later (n : Nat) :
    (clock.later d).timedOut profile n ↔ clock.timedOut profile n := by
  show seconds _ ≤ clock.head n + d - (clock.start + d) ↔ seconds _ ≤ clock.head n - clock.start
  rw [Int.add_sub_add_right]

theorem verificationLoop_later (n : Nat) (s : VerificationSession) :
    verificationLoop profile (clock.later d) evaluateSample n s =
      verificationLoop profile clock evaluateSample n s := by
  have hsince : ∀ n, (clock.later d).sampled n - (clock.later d).start =
      clock.sampled n - clock.start := fun n => Int.add_sub_add_right _ _ _
  induction n, s using verificationLoop.induct profile clock evaluateSample with
  | case1 n s hout =>
      rw [verificationLoop, verificationLoop, if_pos hout, if_pos ((timedOut_later d n).mpr hout)]
  | case2 n s hgo sample s' hbreak =>
      rw [verificationLoop.eq_def profile (clock.later d), verificationLoop.eq_def profile clock,
        if_neg hgo, if_neg (mt (timedOut_later d n).mp hgo)]
      simp only [hsince]
      rw [if_pos hbreak, if_pos hbreak]
  | case3 n s hgo sample s' hbreak ih =>
      rw [verificationLoop.eq_def profile (clock.later d), verificationLoop.eq_def profile clock,
        if_neg hgo, if_neg (mt (timedOut_later d n).mp hgo)]
      simp only [hsince]
      rw [if_neg hbreak, if_neg hbreak]
      exact ih

end Later

/-! ### The attribution

The answer of the registry is read entry by entry, and each entry that is missing has a default.  A
default speaks for the agent: what is not known to have been cleared was not.  The conditions are
therefore on what is in the answer, and on whether there is one.
-/

/-- The provider was asked about the scenario, and has answered with a dictionary of which the
status is neither of the two. -/
def FaultAttribution.Confirmed (fault : FaultAttribution) : Prop :=
  ∃ provider scenarioId res, fault.provider = some provider ∧ fault.scenarioId = some scenarioId ∧
    provider scenarioId = .returned (.map res) ∧ faultStatus res ≠ dataText "expired" ∧
    faultStatus res ≠ dataText "cleared"

/-- Whatever the session, a verdict that passes for the agent is confirmed. -/
def FaultAttribution.FailsClosed (fault : FaultAttribution) : Prop :=
  ∀ (profile : VerificationProfile) (clock : SessionClock profile)
    (evaluateSample : Nat → Nat → Nat → EvaluationSample),
    (runVerification profile clock evaluateSample fault).passed = true →
      (runVerification profile clock evaluateSample fault).attribution = .agentHealed →
        fault.Confirmed

variable {fault : FaultAttribution} {answer : FaultStatusAnswer} {windowEnd : Int}

/-- What is required clears a failed lookup. -/
theorem lookupFailed_required : lookupFailed true ≠ none := Option.some_ne_none _

/-- A dictionary that clears nothing has another status. -/
theorem dictClearance_eq_none {res : DataDict}
    (h : dictClearance true res = none) :
    faultStatus res ≠ dataText "expired" ∧ faultStatus res ≠ dataText "cleared" := by
  have hnot : ∀ st : String, st = "expired" ∨ st = "cleared" → faultStatus res ≠ dataText st := by
    intro st hst heq
    have hclearance : dictClearance true res = some (clearedText res st) := by
      unfold dictClearance
      rw [heq]
      exact if_pos hst
    rw [hclearance] at h
    cases h
  exact ⟨hnot _ (Or.inl rfl), hnot _ (Or.inr rfl)⟩

/-- What the provider says, if there is one and something to ask it about. -/
def FaultAttribution.said (fault : FaultAttribution) : Option String := do
  let provider ← fault.provider
  let scenarioId ← fault.scenarioId.filter (· ≠ "")
  (provider scenarioId).clearance fault.required

/-- An expiry that is past is found before anyone is asked. -/
theorem said_of_unexpired (h : checkExternalClearance fault windowEnd = none) :
    fault.said = none := by
  unfold checkExternalClearance at h
  simp only at h
  split at h
  · cases h
  · exact h

/-- The expiry does not matter as long as it is to come. -/
theorem checkExternalClearance_of_early
    (h : windowEnd < fault.injectedAt.getD 0 + fault.ttl.getD 0) :
    checkExternalClearance fault windowEnd = fault.said := by
  unfold checkExternalClearance
  simp only
  cases hinjected : fault.injectedAt with
  | none => rfl
  | some injectedAt =>
      cases httl : fault.ttl with
      | none => rfl
      | some ttl =>
          rw [hinjected, httl, Option.getD_some, Option.getD_some] at h
          simp only [bind, Option.bind_some]
          rw [if_neg (by omega)]
          rfl

/-- A profile under which there is time for the samples that are needed. -/
def restartProfile : VerificationProfile where
  profileId := "m1_default_restart_profile"

/-- Some session is stable, and is over before a given time. -/
theorem exists_stable_session (limit : Int) :
    ∃ clock : SessionClock restartProfile,
      let s := verificationLoop restartProfile clock (fun _ _ _ => restartProfile.passing) 0 {}
      s.stabilized restartProfile = true ∧ clock.ended s.samples.length < limit := by
  obtain ⟨hstable, -, -⟩ := exact_session restartProfile (by decide) rfl
  let exact := SessionClock.exact restartProfile
  let s := verificationLoop restartProfile exact (fun _ _ _ => restartProfile.passing) 0 {}
  refine ⟨exact.later (limit - 1 - exact.ended s.samples.length), ?_⟩
  rw [verificationLoop_later]
  refine ⟨hstable, ?_⟩
  show exact.ended s.samples.length + (limit - 1 - exact.ended s.samples.length) < limit
  omega

/-- If nothing is said, some session passes for the agent. -/
theorem exists_passed_of_unsaid (h : fault.said = none) :
    ∃ clock : SessionClock restartProfile,
      let verdict := runVerification restartProfile clock
        (fun _ _ _ => restartProfile.passing) fault
      verdict.passed = true ∧ verdict.attribution = .agentHealed := by
  obtain ⟨clock, hstable, hearly⟩ :=
    exists_stable_session (fault.injectedAt.getD 0 + fault.ttl.getD 0)
  have hclear := (checkExternalClearance_of_early hearly).trans h
  refine ⟨clock, ?_, ?_⟩
  · rw [runVerification_passed, hclear, hstable]
    rfl
  · unfold runVerification
    simp only
    rw [hclear]
    rfl

/-- The scenario that `verify_node` derives is one of the three. -/
theorem verifiedScenario_ne_empty {state : IncidentGraphState} {scenarioId : String}
    (h : verifiedScenario state = some scenarioId) : scenarioId ≠ "" := by
  have hvalid : scenarioId ∈ causeToScenario.map Prod.snd := by
    unfold verifiedScenario at h
    simp only at h
    split at h
    · rename_i candidate hcandidate
      cases h
      obtain ⟨-, hcontains⟩ := Option.filter_eq_some_iff.mp hcandidate
      exact List.contains_iff_mem.mp hcontains
    · obtain ⟨rc, hrc, h⟩ := Option.bind_eq_some_iff.mp h
      cases hlookup : causeToScenario.lookup rc with
      | some found =>
          rw [hlookup, Option.some_or, Option.some.injEq] at h
          rw [← h]
          obtain ⟨before, after, heq, -⟩ := List.lookup_eq_some_iff.mp hlookup
          rw [heq]
          simp
      | none =>
          rw [hlookup, Option.none_or] at h
          split at h
          · rename_i hcontains
            cases h
            exact List.contains_iff_mem.mp hcontains
          · cases h
  rintro rfl
  revert hvalid
  decide

/-- **An attribution that is required fails closed when there is someone to ask, and something to
ask about.**  For a verifier that requires the status of the fault, and the scenario that
`verify_node` derives, no session passes for the agent without a confirmation exactly if there is a
provider and a scenario, and the provider returns a dictionary or raises. -/
theorem attribution_fails_closed_iff (state : IncidentGraphState)
    (provider : Option (String → FaultStatusAnswer)) (injectedAt ttl : Option Int) :
    FaultAttribution.FailsClosed
        { scenarioId := verifiedScenario state, injectedAt := injectedAt, ttl := ttl,
          provider := provider, required := true } ↔
      ∃ provide scenarioId, provider = some provide ∧ verifiedScenario state = some scenarioId ∧
        ∀ value, provide scenarioId = .returned value → ∃ res, value = .map res := by
  constructor
  · intro hclosed
    by_cases hsaid : FaultAttribution.said
        { scenarioId := verifiedScenario state, injectedAt := injectedAt, ttl := ttl,
          provider := provider, required := true } = none
    · obtain ⟨clock, hpassed, hhealed⟩ := exists_passed_of_unsaid hsaid
      obtain ⟨provide, scenarioId, res, hprovider, hscenario, hanswer, -, -⟩ :=
        hclosed restartProfile clock _ hpassed hhealed
      refine ⟨provide, scenarioId, hprovider, hscenario, fun value hvalue => ⟨res, ?_⟩⟩
      rw [hanswer, FaultStatusAnswer.returned.injEq] at hvalue
      exact hvalue.symm
    · obtain ⟨text, htext⟩ := Option.ne_none_iff_exists'.mp hsaid
      obtain ⟨provide, hprovider, htext⟩ := Option.bind_eq_some_iff.mp htext
      obtain ⟨scenarioId, hscenario, htext⟩ := Option.bind_eq_some_iff.mp htext
      refine ⟨provide, scenarioId, hprovider, (Option.filter_eq_some_iff.mp hscenario).1, ?_⟩
      intro value hvalue
      rw [hvalue] at htext
      cases value with
      | map res => exact ⟨res, rfl⟩
      | seq items => cases htext
      | atom a => cases htext
  · rintro ⟨provide, scenarioId, hprovider, hscenario, hdict⟩ profile clock evaluateSample hpassed -
    rw [runVerification_passed, Bool.and_eq_true, Option.isNone_iff_eq_none] at hpassed
    have hsaid := said_of_unexpired hpassed.2
    have hne := verifiedScenario_ne_empty hscenario
    have hclear : (provide scenarioId).clearance true = none := by
      subst hprovider
      simpa only [FaultAttribution.said, hscenario, bind, Option.bind_some, Option.filter_some, hne,
        ne_eq, not_false_eq_true, decide_true, if_true] using hsaid
    cases hanswer : provide scenarioId with
    | raised text =>
        rw [hanswer] at hclear
        exact absurd hclear lookupFailed_required
    | returned value =>
        obtain ⟨res, rfl⟩ := hdict value hanswer
        rw [hanswer] at hclear
        obtain ⟨hexpired, hcleared⟩ := dictClearance_eq_none hclear
        exact ⟨provide, scenarioId, res, hprovider, hscenario, hanswer, hexpired, hcleared⟩

/-- A state that names only a general profile, and no root cause. -/
def unnamedState : IncidentGraphState where
  incidentId := 1
  resourceId := 1
  verificationProfile := some "m1_default_restart_profile"

/-- A verifier that cannot ask, since no scenario is derived. -/
def unaskedFault : FaultAttribution where
  scenarioId := verifiedScenario unnamedState
  provider := some fun _ => .raised "unreachable"
  required := true

/-- A verifier that is answered with a list. -/
def listedFault : FaultAttribution where
  scenarioId := some "SCN-001"
  provider := some fun _ => .returned (.seq [])
  required := true

/-- Both put a recovery down to the agent, of which nobody has told them anything. -/
theorem unanswered_attribution : ¬ unaskedFault.FailsClosed ∧ ¬ listedFault.FailsClosed := by
  constructor
  · intro hclosed
    have hunsaid : unaskedFault.said = none := rfl
    obtain ⟨clock, hpassed, hhealed⟩ := exists_passed_of_unsaid hunsaid
    obtain ⟨provide, scenarioId, res, -, hscenario, -⟩ := hclosed _ clock _ hpassed hhealed
    cases hscenario
  · intro hclosed
    have hunsaid : listedFault.said = none := rfl
    obtain ⟨clock, hpassed, hhealed⟩ := exists_passed_of_unsaid hunsaid
    obtain ⟨provide, scenarioId, res, hprovide, -, hanswer, -⟩ :=
      hclosed _ clock _ hpassed hhealed
    cases hprovide
    cases hanswer

end SelfHealing
