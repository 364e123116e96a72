/-
A verification that has failed.

The node that handles it asks whether a retry is left, without saying when the workflow began, so
that the deadline of the workflow is never looked at.  If one is left, the incident goes back in
one transaction and the wake-up is left in another, which is committed while the first is still
open.

What the node writes is read off its steps one by one.  The deadline is a parameter of the question
that is asked, and it is left at its default, which is none.
-/
import SelfHealing.Proofs.StrandedIncidents
import SelfHealing.Proofs.WorkerSteps

namespace SelfHealing

open Interleaving Interleaving.Prog ReadCommitted

/-! ### The deadline of the workflow -/

/-- A retry after `cooldown` seconds could not be over in time. -/
def PastDeadline (startedAt cooldown now : Int) : Prop :=
  seconds defaultWorkflowTimeoutSeconds < (now - startedAt) + seconds cooldown + seconds 90

/-- The helper refuses such a retry, if it is told when the workflow began. -/
theorem isRetryEligibleWithin_past {startedAt cooldown now : Int}
    (h : PastDeadline startedAt cooldown now) (attempts retryLimit : Nat) :
    (isRetryEligibleWithin attempts retryLimit (some startedAt) cooldown
      defaultWorkflowTimeoutSeconds now).1 = false := by
  unfold isRetryEligibleWithin
  split
  · rfl
  · exact congrArg Prod.fst (if_pos h)

theorem isRetryEligible_iff (attempts retryLimit : Nat) :
    (isRetryEligible attempts retryLimit).1 = true ↔ attempts < retryLimit := by
  unfold isRetryEligible
  split
  · simpa using by omega
  · simpa using by omega

/-- The fault went away by itself, or nobody knows. -/
def VerdictAnswer.external (verdict : VerdictAnswer) : Prop :=
  verdict.attribution = .externallyRecovered ∨ verdict.attribution = .inconclusive

section Deadline

variable {p l : Nat} {K : WorkerKind → Prop} {E : Event → Prop} {R : NewRow → Prop} {actor : String}
  {state : IncidentGraphState}

/-- The first part of `verify_node`: what the verifier says. -/
def askVerdict (p : Nat) (actor : String) (state : IncidentGraphState) : Prog VerdictAnswer := do
  if (state.executionId.or state.currentExecutionId).isNone then
    unitOfWork ⟨p, 0⟩ actor (select fun _ => ())
  service World.verify

/-- A call of the node, by what the verifier says in it. -/
theorem took_verifyNode {verdict : VerdictAnswer} {cooldown : Int} {l l' : List (Db × Db)}
    {r : Except Err IncidentGraphState} (hasked : (askVerdict p actor state).Took l (.ok verdict))
    (hsettled : (settleVerdict p actor state verdict cooldown).Took l' r) :
    (verifyNode p actor state cooldown).Took (l ++ l') r := by
  unfold askVerdict at hasked
  unfold verifyNode
  by_cases hlook : (state.executionId.or state.currentExecutionId).isNone = true
  · rw [if_pos hlook] at hasked ⊢
    obtain ⟨u, l₁, l₂, rfl, hlooked, hasked⟩ := took_bind_ok hasked
    rw [List.append_assoc]
    exact Took.bind hlooked (Took.bind hasked hsettled)
  · rw [if_neg hlook] at hasked ⊢
    exact Took.bind hasked hsettled

theorem askVerdict_steps (hK : K .transaction) : Within (WorkerStep p K E R)
    (askVerdict p actor state) := by
  have hservice : Within (WorkerStep p K E R) (service World.verify) :=
    workerStep_service (fun _ _ he => absurd he List.not_mem_nil)
  unfold askVerdict
  split
  · exact Within.bind (workerStep_unitOfWork_unseen hK (workerStep_select _)) (fun _ => hservice)
  · exact hservice

/-! #### What the incident is moved to -/

/-- The write is the last step of leaving the verification. -/
theorem took_leaveVerification {inc : Incident} {target : IncidentState} {moved : Option Incident}
    {steps : List (Db × Db)} (htarget : target ≠ .approved) (hstate : inc.state = .verifying)
    (h : (leaveVerification actor state ⟨p, 0⟩ (some inc) target).Took steps (.ok moved)) :
    ∃ before s row, steps = before ++ [(s, s.setIncident state.incidentId
      ((s.incidents state.incidentId).write ⟨p, 0⟩ (some row)))] ∧ row.state = target := by
  unfold leaveVerification at h
  rw [Option.filter_some, if_pos (by simp [hstate])] at h
  obtain ⟨row, l, l', rfl, hmove, hrest⟩ := took_bind_ok h
  obtain ⟨rfl, -⟩ := took_pure.mp hrest
  obtain ⟨before, s, rfl, hrow⟩ := took_transition htarget hmove
  exact ⟨before, s, row, by simp, hrow⟩

/-- The kinds of what an escalation does after the incident was moved: none. -/
abbrev Records (p : Nat) : Db → Db → Prop :=
  WorkerStep p (fun _ => False) (fun _ => True) (fun _ => True)

/-- An escalation: the move, and then records. -/
theorem took_escalation {inc : Incident} {found : Option Incident} {title summary cause : String}
    {reason : Option String} {steps : List (Db × Db)}
    (h : (do
      let inc ← leaveVerification actor state ⟨p, 0⟩ (some inc) .escalated
      createEscalationRecord ⟨p, 0⟩ state.incidentId title summary cause reason
      createAttentionItem ⟨p, 0⟩
      pure inc : Prog (Option Incident)).Took steps (.ok found)) :
    ∃ moved after, steps = moved ++ after ∧
      (∃ found, (leaveVerification actor state ⟨p, 0⟩ (some inc) .escalated).Took moved
        (.ok found)) ∧ ∀ q ∈ after, Records p q.1 q.2 := by
  obtain ⟨found, moved, after, rfl, hmove, hrest⟩ := took_bind_ok h
  have hrecords : Within (Records p) (do
      createEscalationRecord ⟨p, 0⟩ state.incidentId title summary cause reason
      createAttentionItem ⟨p, 0⟩
      pure found : Prog (Option Incident)) :=
    Within.bind (workerStep_createEscalationRecord (fun _ => trivial) _ _ _ _ _) (fun _ =>
      Within.bind workerStep_createAttentionItem (fun _ => within_pure _))
  exact ⟨moved, after, rfl, ⟨found, hmove⟩, hrecords.began hrest.began⟩

/-- The node has escalated: it says so, the incident is `ESCALATED` if it was being verified, and no
wake-up was scheduled. -/
structure Escalation (i : Nat) (inc : Incident) (final : IncidentGraphState)
    (steps : List (Db × Db)) (last : Db) : Prop where
  status : final.status = .escalated ∨ final.status = .verificationEscalated
  moved : inc.state = .verifying → ∃ row, last.incident i = some row ∧ row.state = .escalated
  unscheduled : ∀ q ∈ steps, q.2.scheduleIds = q.1.scheduleIds

/-- What is made of a failed verification of `inc`, in steps `l`. -/
inductive Handled (p : Nat) (actor : String) (state : IncidentGraphState) (verdict : VerdictAnswer)
    (cooldown : Int) (inc : Incident) (l : List (Db × Db)) (final : IncidentGraphState) : Prop
  | cleared (found : Option Incident) (reason : String) (hverdict : verdict.external)
      (hl : (escalateExternal actor state ⟨p, 0⟩ (some inc) reason).Took l (.ok found))
      (hfinal : final.status = .escalated)
  | exhausted (found : Option Incident) (reason : String) (hverdict : ¬ verdict.external)
      (hspent : inc.retryLimit ≤ inc.attempts)
      (hl : (escalateExhausted actor state ⟨p, 0⟩ (some inc) reason).Took l (.ok found))
      (hfinal : final.status = .verificationEscalated)
  | retried (found : Option Incident) (hverdict : ¬ verdict.external)
      (hleft : inc.attempts < inc.retryLimit)
      (hl : (scheduleRetry p actor state (some inc) cooldown).Took l (.ok found))
      (hfinal : final.status = .cooldownScheduled)

/-- **The three ways of handling a failed verification.** -/
theorem took_settleVerdict {verdict : VerdictAnswer} {cooldown : Int} {inc : Incident}
    {steps : List (Db × Db)} {final : IncidentGraphState} {first last : Db}
    (h : (settleVerdict p actor state verdict cooldown).Took steps (.ok final))
    (hothers : Between (SameRow state.incidentId) first steps last)
    (hrow : first.incident state.incidentId = some inc)
    (hfree : (first.incidents state.incidentId).pending = none)
    (hfailed : ¬ (verdict.passed = true ∧ verdict.attribution = .agentHealed)) :
    ∃ before l s, steps = before ++ l ++ [(s, (s.commit ⟨p, 0⟩).record [])] ∧
      (∀ q ∈ before, q.2.scheduleIds = q.1.scheduleIds) ∧
      Handled p actor state verdict cooldown inc l final := by
  rcases took_unitOfWork_block h with ⟨-, e, hbad⟩ | hblock
  · simp at hbad
  cases hblock with
  | committed _ s s' l hbody =>
      obtain ⟨found, l₁, l₂, rfl, hread, hfrom⟩ := took_bind_ok hbody
      obtain ⟨r, rfl, rfl⟩ := took_select_ok hread
      -- nobody has written the row before it is read
      have hfound : (r.incidents state.incidentId).visible ⟨p, 0⟩ = some inc := by
        have hsame : r.incidents state.incidentId = first.incidents state.incidentId := by
          rw [hothers.2.1, ← hothers.1]
          rfl
        have hown : (r.incidents state.incidentId).own ⟨p, 0⟩ = [] := by
          simp [Cell.own, hsame, hfree]
        rw [Cell.visible_eq_committed hown, hsame]
        exact hrow
      rw [hfound] at hfrom
      obtain ⟨u, l₃, l₄, rfl, hinsert, hrest⟩ := took_bind_ok hfrom
      obtain ⟨v, v', rfl, hv⟩ := took_sql hinsert
      have hsame : v' = v := by
        rcases hv with ⟨-, rfl⟩ | hv
        · rfl
        · simp only [Option.some.injEq, Prod.mk.injEq] at hv
          exact hv.2.symm
      subst hsame
      rw [if_neg hfailed] at hrest
      have hcut : ∀ l : List (Db × Db), (s, s.started ⟨p, 0⟩) :: ([(r, r)] ++ ([(v', v')] ++ l)) =
          [(s, s.started ⟨p, 0⟩), (r, r), (v', v')] ++ l := fun _ => rfl
      rw [hcut]
      refine ⟨_, l₄, s', rfl, ?_, ?_⟩
      · intro q hq
        simp only [List.mem_cons, List.not_mem_nil, or_false] at hq
        rcases hq with rfl | rfl | rfl
        · rfl
        · rfl
        · rfl
      by_cases hverdict : verdict.attribution = .externallyRecovered ∨
          verdict.attribution = .inconclusive
      · rw [if_pos hverdict] at hrest
        obtain ⟨moved, l₅, l₆, rfl, hmove, hpure⟩ := took_bind_ok hrest
        obtain ⟨rfl, heq⟩ := took_pure.mp hpure
        simp only [Except.ok.injEq] at heq
        rw [List.append_nil]
        exact .cleared moved _ hverdict hmove (by rw [heq])
      rw [if_neg hverdict] at hrest
      simp only [Option.map_some, Option.getD_some] at hrest
      by_cases hleft : inc.attempts < inc.retryLimit
      · rw [if_pos ((isRetryEligible_iff _ _).mpr hleft)] at hrest
        obtain ⟨moved, l₅, l₆, rfl, hmove, hpure⟩ := took_bind_ok hrest
        obtain ⟨rfl, heq⟩ := took_pure.mp hpure
        simp only [Except.ok.injEq] at heq
        rw [List.append_nil]
        exact .retried moved hverdict hleft hmove (by rw [heq])
      · rw [if_neg (fun h => hleft ((isRetryEligible_iff _ _).mp h))] at hrest
        obtain ⟨moved, l₅, l₆, rfl, hmove, hpure⟩ := took_bind_ok hrest
        obtain ⟨rfl, heq⟩ := took_pure.mp hpure
        simp only [Except.ok.injEq] at heq
        rw [List.append_nil]
        exact .exhausted moved _ hverdict (not_lt.mp hleft) hmove (by rw [heq])

/-- What was escalated is committed as such. -/
theorem escalation_committed {inc : Incident} {before l : List (Db × Db)} {s : Db}
    {first last : Db} {found : Option Incident} {title summary cause : String}
    {reason : Option String}
    (hothers : Between (SameRow state.incidentId) first
      (before ++ l ++ [(s, (s.commit ⟨p, 0⟩).record [])]) last)
    (hl : (do
      let inc ← leaveVerification actor state ⟨p, 0⟩ (some inc) .escalated
      createEscalationRecord ⟨p, 0⟩ state.incidentId title summary cause reason
      createAttentionItem ⟨p, 0⟩
      pure inc : Prog (Option Incident)).Took l (.ok found)) :
    (inc.state = .verifying →
      ∃ row, last.incident state.incidentId = some row ∧ row.state = .escalated) ∧
    ∀ q ∈ l, q.2.scheduleIds = q.1.scheduleIds := by
  obtain ⟨moved, after, rfl, ⟨found, hmove⟩, hafter⟩ := took_escalation hl
  constructor
  · intro hstate
    obtain ⟨pre, u, row, rfl, hrow⟩ := took_leaveVerification (by decide) hstate hmove
    have hcut : before ++ (pre ++ [(u, u.setIncident state.incidentId
          ((u.incidents state.incidentId).write ⟨p, 0⟩ (some row)))] ++ after) ++
            [(s, (s.commit ⟨p, 0⟩).record [])] =
        (before ++ pre) ++ (u, u.setIncident state.incidentId
          ((u.incidents state.incidentId).write ⟨p, 0⟩ (some row))) :: after ++
            [(s, (s.commit ⟨p, 0⟩).record [])] := by simp
    rw [hcut] at hothers
    obtain ⟨hcommitted, -⟩ := written_committed hothers (fun q hq =>
      congrFun ((hafter q hq).row id id) _)
    exact ⟨row, hcommitted, hrow⟩
  · intro q hq
    rcases List.mem_append.mp hq with hq | hq
    · have hmoves : Within (WorkerStep p (fun k => .incident = k) (fun _ => False)
          (fun _ => False)) (leaveVerification actor state ⟨p, 0⟩ (some inc) .escalated) :=
        workerStep_leaveVerification rfl _ _ _
      exact (hmoves.began hmove.began q hq).scheduleIds (by simp)
    · exact (hafter q hq).scheduleIds (fun _ => id)

/-- Beginning and ending the transaction schedules nothing. -/
theorem unscheduled_block {before l : List (Db × Db)} {s : Db}
    (hbefore : ∀ q ∈ before, q.2.scheduleIds = q.1.scheduleIds)
    (hl : ∀ q ∈ l, q.2.scheduleIds = q.1.scheduleIds) :
    ∀ q ∈ before ++ l ++ [(s, (s.commit ⟨p, 0⟩).record [])], q.2.scheduleIds = q.1.scheduleIds := by
  intro q hq
  rcases List.mem_append.mp hq with hq | hq
  · rcases List.mem_append.mp hq with hq | hq
    · exact hbefore q hq
    · exact hl q hq
  · rw [List.mem_singleton.mp hq]
    rfl

/-- **A failed verification is escalated when no retry is left**, or when the recovery was not the
agent's; the time does not matter. -/
theorem escalation_iff {verdict : VerdictAnswer} {cooldown : Int} {inc : Incident}
    {steps : List (Db × Db)} {final : IncidentGraphState} {first last : Db}
    (h : (settleVerdict p actor state verdict cooldown).Took steps (.ok final))
    (hothers : Between (SameRow state.incidentId) first steps last)
    (hrow : first.incident state.incidentId = some inc)
    (hfree : (first.incidents state.incidentId).pending = none)
    (hfailed : ¬ (verdict.passed = true ∧ verdict.attribution = .agentHealed)) :
    Escalation state.incidentId inc final steps last ↔
      verdict.external ∨ inc.retryLimit ≤ inc.attempts := by
  obtain ⟨before, l, s, rfl, hbefore, hhandled⟩ := took_settleVerdict h hothers hrow hfree hfailed
  cases hhandled with
  | cleared found reason hverdict hl hfinal =>
      obtain ⟨hmoved, hunscheduled⟩ := escalation_committed hothers hl
      exact iff_of_true ⟨Or.inl hfinal, hmoved, unscheduled_block hbefore hunscheduled⟩
        (Or.inl hverdict)
  | exhausted found reason hverdict hspent hl hfinal =>
      obtain ⟨hmoved, hunscheduled⟩ := escalation_committed hothers hl
      exact iff_of_true ⟨Or.inr hfinal, hmoved, unscheduled_block hbefore hunscheduled⟩
        (Or.inr hspent)
  | retried found hverdict hleft hl hfinal =>
      refine iff_of_false (fun hesc => ?_) ?_
      · rcases hesc.status with hstatus | hstatus
        · rw [hfinal] at hstatus
          cases hstatus
        · rw [hfinal] at hstatus
          cases hstatus
      · rintro (hbad | hbad)
        · exact hverdict hbad
        · exact absurd hleft (not_lt.mpr hbad)

/-- **The deadline of the workflow is not looked at.**  A call of the node in which a verification
has failed escalates and schedules nothing, if a retry would be over too late, only where it would
do so in any case: where no retry is left, or the recovery was not the agent's.  The helper, told
when the workflow began, would refuse each of these retries. -/
theorem deadline_kept_iff (p : Nat) (actor : String) (state : IncidentGraphState)
    (verdict : VerdictAnswer) (cooldown createdAt : Int) (inc : Incident)
    (asked settled : List (Db × Db)) (final : IncidentGraphState) (first last : Db)
    (hasked : (askVerdict p actor state).Took asked (.ok verdict))
    (hsettled : (settleVerdict p actor state verdict cooldown).Took settled (.ok final))
    (hothers : Between (SameRow state.incidentId) first (asked ++ settled) last)
    (hrow : first.incident state.incidentId = some inc)
    (hfree : (first.incidents state.incidentId).pending = none)
    (hfailed : ¬ (verdict.passed = true ∧ verdict.attribution = .agentHealed)) :
    (verifyNode p actor state cooldown).Took (asked ++ settled) (.ok final) ∧
    (((∀ q ∈ settled, PastDeadline createdAt cooldown q.1.now) →
        Escalation state.incidentId inc final (asked ++ settled) last) ↔
      ¬ (∀ q ∈ settled, PastDeadline createdAt cooldown q.1.now) ∨
        verdict.external ∨ inc.retryLimit ≤ inc.attempts) ∧
    ∀ q ∈ settled, PastDeadline createdAt cooldown q.1.now →
      (isRetryEligibleWithin inc.attempts inc.retryLimit (some createdAt) cooldown
        defaultWorkflowTimeoutSeconds q.1.now).1 = false := by
  refine ⟨took_verifyNode hasked hsettled, ?_,
    fun q _ hpast => isRetryEligibleWithin_past hpast _ _⟩
  have hasks := (askVerdict_steps (K := fun k => .transaction = k) (E := fun _ => False)
    (R := fun _ => False) rfl).began hasked.began
  have hrefl : ∀ s : Db, SameRow state.incidentId s s := fun _ => rfl
  -- asking the verifier leaves the row as it is
  obtain ⟨mid, hbefore, hafter⟩ := hothers.split hrefl
  have hmid : mid.incidents state.incidentId = first.incidents state.incidentId := by
    refine hbefore.keeps (P := fun s => s.incidents state.incidentId =
      first.incidents state.incidentId) ?_ ?_ rfl
    · intro s s' hsame hs
      rw [hsame, hs]
    · intro q hq hs
      rw [(hasks q hq).unlocked_row (by simp) (by rw [hs, hfree]), hs]
  have hrow' : mid.incident state.incidentId = some inc := by
    unfold Db.incident
    rw [hmid]
    exact hrow
  have hiff := escalation_iff hsettled hafter hrow' (by rw [hmid, hfree]) hfailed
  have hwhole : Escalation state.incidentId inc final (asked ++ settled) last ↔
      Escalation state.incidentId inc final settled last := by
    constructor
    · intro h
      exact ⟨h.status, h.moved, fun q hq => h.unscheduled q (List.mem_append_right _ hq)⟩
    · intro h
      refine ⟨h.status, h.moved, fun q hq => ?_⟩
      rcases List.mem_append.mp hq with hq | hq
      · exact (hasks q hq).scheduleIds (by simp)
      · exact h.unscheduled q hq
  rw [hwhole, hiff, imp_iff_not_or]

end Deadline

/-- An incident that is being verified, for the first time. -/
def overdueIncident : Incident where
  id := 1
  resourceId := 7
  correlationKey := "demo"
  state := .verifying
  version := 7
  updatedAt := seconds 2900

/-- Fifty minutes after it was created. -/
def overdueDb : Db :=
  { Db.init (seconds 3000) with
    nextId := 5
    incidents := Function.update (fun _ => Cell.empty) 1 (Cell.ofRow overdueIncident) }

def overdueState : IncidentGraphState :=
  { incidentId := 1, resourceId := 7, version := 7, executionId := some 4 }

/-- The verifier has seen no recovery. -/
def unhealthyVerdict : VerdictAnswer :=
  { passed := false, failureReason := some "container not running" }

/-- The wake-up for another attempt at it. -/
def overdueWakeup : WorkflowSchedule where
  id := 5
  incidentId := 1
  incidentVersion := 8
  nextRunAt := seconds 3600
  waitReason := .cooldown
  resumeMetadata := { nextEligibleAt := some (seconds 3600) }

/-- The node, run alone: it returns, and a wake-up after the cooldown has been scheduled. -/
theorem verifyNode_overdue :
    ∃ final last, (verifyNode 0 "worker:a" overdueState).Ends overdueDb (.ok final) last ∧
      final.status = .cooldownScheduled ∧
      last.schedulesOf 1 = [overdueWakeup] := by
  have hpasses : (verifyNode 0 "worker:a" overdueState).passes
      (List.replicate 16 { verify := .answered unhealthyVerdict }) overdueDb
      (fun r db => match r with
        | .ok final => decide (final.status = .cooldownScheduled ∧
            db.schedulesOf 1 = [overdueWakeup])
        | .error _ => false) = true := by decide +kernel
  obtain ⟨r, last, hends, htest⟩ := ends_of_passes hpasses
  split at htest
  · rename_i final
    exact ⟨final, last, hends, of_decide_eq_true htest⟩
  · cases htest

/-- Fifty minutes after the incident was created, another attempt is scheduled. -/
theorem deadline_ignored :
    ∃ final last, (verifyNode 0 "worker:a" overdueState).Ends overdueDb (.ok final) last ∧
      PastDeadline 0 defaultResourceCooldownSeconds overdueDb.now ∧
      final.status = .cooldownScheduled ∧ last.schedulesOf 1 = [overdueWakeup] := by
  obtain ⟨final, last, hends, hstatus, hwakeup⟩ := verifyNode_overdue
  exact ⟨final, last, hends, by unfold PastDeadline; decide, hstatus, hwakeup⟩

/-- The two parts of this run. -/
theorem deadline_kept_iff_overdue :
    ∃ asked settled, ∃ final : IncidentGraphState, ∃ last : Db,
      (verifyNode 0 "worker:a" overdueState).Took (asked ++ settled) (.ok final) ∧
      (((∀ q ∈ settled, PastDeadline 0 defaultResourceCooldownSeconds q.1.now) →
          Escalation 1 overdueIncident final (asked ++ settled) last) ↔
        ¬ (∀ q ∈ settled, PastDeadline 0 defaultResourceCooldownSeconds q.1.now) ∨
          unhealthyVerdict.external ∨ overdueIncident.retryLimit ≤ overdueIncident.attempts) := by
  have hpasses : (askVerdict 0 "worker:a" overdueState).passes
      (List.replicate 2 { verify := .answered unhealthyVerdict }) overdueDb
      (fun r s => match r with
        | .ok verdict => decide (verdict = unhealthyVerdict) &&
            (settleVerdict 0 "worker:a" overdueState unhealthyVerdict).passes
              (List.replicate 16 {}) s (fun r _ => match r with
                | .ok final => decide (final.status = .cooldownScheduled)
                | .error _ => false)
        | .error _ => false) = true := by decide +kernel
  obtain ⟨r, mid, asked, hasked, hbefore, hrest⟩ := alone_of_passes hpasses
  split at hrest
  swap
  · cases hrest
  rename_i verdict
  obtain ⟨hverdict, hsettles⟩ := Bool.and_eq_true_iff.mp hrest
  rw [of_decide_eq_true hverdict] at hasked
  obtain ⟨r, last, settled, hsettled, hafter, hreturned⟩ := alone_of_passes hsettles
  split at hreturned
  swap
  · cases hreturned
  rename_i final
  have halone : Between (fun s s' : Db => s = s') overdueDb (asked ++ settled) last :=
    hbefore.append (fun _ _ _ h h' => h.trans h') hafter
  obtain ⟨htook, hiff, -⟩ := deadline_kept_iff 0 "worker:a" overdueState unhealthyVerdict
    defaultResourceCooldownSeconds 0 overdueIncident asked settled final overdueDb last
      hasked hsettled
    (halone.mono (fun s s' heq => by rw [heq]; rfl)) rfl rfl (by decide)
  exact ⟨asked, settled, final, last, htook, hiff⟩

end SelfHealing
