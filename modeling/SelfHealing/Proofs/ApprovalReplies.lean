/-
What a request for approval is told.

A request that comes too late says that it has escalated the incident, and raises in the transaction
in which it did so.  A request that finds a decision like its own tells of that decision, but names
itself as the approver.  Here both answers are held against what is stored.

The first is about one request at a time, in any state of the database; the second is about requests
side by side, and is kept by an invariant of the rows of decisions.
-/
import SelfHealing.Lib.Interference
import SelfHealing.Proofs.SingleDecision

namespace SelfHealing

open Interleaving Interleaving.Prog ReadCommitted

/-! ### A request that comes too late

The escalation is written and the exception is raised in one transaction.  So the answer tells of
what is undone when it is given.
-/

/-- The incident has been handed over to people: it is escalated, and there is a record of it. -/
def Db.handedOver (db : Db) (i : Nat) : Bool :=
  decide ((db.incident i).map Incident.state = some .escalated) &&
    db.escalations.any (fun record => decide (record.incidentId = i))

/-- **An incident whose approval has expired is not escalated.**  The request that finds the time
over is answered that the incident has been escalated, and leaves the incident as it was; no record
of an escalation is committed. -/
theorem expired_request_undone (p : Nat) (req : ApprovalRequest) (message : String)
    (steps : List (Db × Db)) (first last : Db) (inc : Incident)
    (h : (submitApproval p req).Took steps (.error ⟨.httpException 410, message⟩))
    (hothers : Between (fun s s' => s'.incident req.incidentId = s.incident req.incidentId)
      first steps last)
    (hinc : first.incident req.incidentId = some inc) (hwait : inc.state = .pendingApproval) :
    last.handedOver req.incidentId = false ∧ last.incident req.incidentId = some inc ∧
      ∀ q ∈ steps, q.2.escalations = q.1.escalations := by
  have hundone := submitApproval_undone h
  have hlast : last.incident req.incidentId = some inc := by
    refine hothers.keeps (P := fun s => s.incident req.incidentId = some inc) ?_ ?_ hinc
    · intro s s' hsame hs
      rw [hsame, hs]
    · intro q hq hs
      rw [(hundone q hq).incident, hs]
  refine ⟨?_, hlast, fun q hq => (hundone q hq).escalations⟩
  unfold Db.handedOver
  rw [hlast, Option.map_some, hwait]
  rfl

/-- A request of a user to approve the plan of `pendingDb`. -/
def approvalOf (username : String) : ApprovalRequest :=
  { username := username, incidentId := 1, decision := .approve, expectedIncidentVersion := 5,
    planVersion := 1 }

/-- `pendingDb`, a minute after the half hour. -/
def lateDb : Db := { pendingDb with now := seconds (31 * 60) }

/-- The answer to a request that comes too late. -/
def Except.isExpired : Except Err ApprovalResponse → Bool
  | .error ⟨.httpException 410, _⟩ => true
  | _ => false

theorem Except.expired {r : Except Err ApprovalResponse} (h : Except.isExpired r = true) :
    ∃ message, r = .error ⟨.httpException 410, message⟩ := by
  unfold Except.isExpired at h
  split at h
  · exact ⟨_, rfl⟩
  · cases h

theorem expired_request_undone_late :
    ∃ steps message, ∃ last : Db,
      (submitApproval 0 (approvalOf "alice")).Took steps (.error ⟨.httpException 410, message⟩) ∧
      last.handedOver 1 = false ∧ ∀ q ∈ steps, q.2.escalations = q.1.escalations := by
  have hpasses : (submitApproval 0 (approvalOf "alice")).passes (List.replicate 20 {}) lateDb
      (fun r _ => Except.isExpired r) = true := by decide +kernel
  obtain ⟨r, last, steps, htook, hbetween, htest⟩ := alone_of_passes hpasses
  obtain ⟨message, rfl⟩ := Except.expired htest
  obtain ⟨hkept, -, hnone⟩ := expired_request_undone 0 (approvalOf "alice") message steps lateDb
    last _ htook (hbetween.mono (fun s s' heq => by rw [heq])) rfl rfl
  exact ⟨steps, message, last, htook, hkept, hnone⟩

/-- The request is answered that the incident has been escalated, and the incident still waits. -/
theorem expired_request_waits :
    ∃ message, ∃ last : Db, (submitApproval 0 (approvalOf "alice")).Ends lateDb
        (.error ⟨.httpException 410, message⟩) last ∧
      (last.incident 1).map Incident.state = some .pendingApproval ∧ last.escalations = [] ∧
      last.handedOver 1 = false := by
  have hpasses : (submitApproval 0 (approvalOf "alice")).passes (List.replicate 20 {}) lateDb
      (fun r db => Except.isExpired r &&
        (decide ((db.incident 1).map Incident.state = some .pendingApproval) &&
          (db.escalations.isEmpty && !db.handedOver 1))) = true := by decide +kernel
  obtain ⟨r, last, hends, htest⟩ := ends_of_passes hpasses
  simp only [Bool.and_eq_true, decide_eq_true_eq, List.isEmpty_iff, Bool.not_eq_true'] at htest
  obtain ⟨message, rfl⟩ := Except.expired htest.1
  exact ⟨message, last, hends, htest.2.1, htest.2.2.1, htest.2.2.2⟩

/-! ### A request that comes again

The reply is made of the row that was found, and so it tells of the decision that is stored, but
for the name: that is the one of the request.  It is right if and only if whoever asks again is the
one who has decided, and nothing else of the request matters.
-/

/-- A request, whole, among others. -/
theorem submitApproval_within (p : Nat) (req : ApprovalRequest) :
    Within (WorkerStep p (fun _ => True) (fun _ => False) (fun _ => True))
      (submitApproval p req) := by
  rcases submitApproval_block p req with ⟨e, heq⟩ | ⟨body, hbody, heq⟩
  · rw [heq]
    exact within_throw e
  · rw [heq]
    refine workerStep_unitOfWork_unseen trivial (hbody.mono (fun s s' h => ?_))
    exact h.mono (fun _ _ => trivial) (fun _ he => he) (fun _ hrow => hrow)

/-- What others do: they leave the transaction of `p` alone and take no decision back. -/
def LeavesRows (p : Nat) (s s' : Db) : Prop :=
  s'.added ⟨p, 0⟩ = s.added ⟨p, 0⟩ ∧ s.approvals ⊆ s'.approvals

theorem approvalEnv_leavesRows {p : Nat} {e : ApprovalEnv} {s s' : Db}
    (h : e.apply s = some s') : LeavesRows p s s' := by
  rcases approvalEnv_cases h with ⟨elapsed, rfl⟩ | ⟨i, row, row', hmoved⟩ | ⟨plan, -, rfl⟩
  · exact ⟨rfl, List.Subset.refl _⟩
  · rw [hmoved.result]
    exact ⟨rfl, List.Subset.refl _⟩
  · exact ⟨rfl, List.Subset.refl _⟩

theorem beside_approval (p : Nat) :
    Beside approvalMachine p (LeavesRows p) (fun s s' => s.approvals ⊆ s'.approvals) where
  refl := fun s => ⟨rfl, List.Subset.refl _⟩
  trans := fun s t u h h' => ⟨h'.1.trans h.1, List.Subset.trans h.2 h'.2⟩
  others := by
    intro q req hq
    refine Proc.Within.bind ((submitApproval_within q req).run.mono ?_) (fun _ => trivial)
    exact fun s s' h => ⟨h.added_other (fun heq => hq heq.symm), h.approvals⟩
  crash := by
    intro q s hq
    refine ⟨?_, List.Subset.refl _⟩
    show Function.update (Function.update s.added ⟨q, 0⟩ []) ⟨q, 1⟩ [] ⟨p, 0⟩ = s.added ⟨p, 0⟩
    have hne : ∀ l, (⟨p, 0⟩ : TxId) ≠ ⟨q, l⟩ := by
      intro l heq
      simp only [TxId.mk.injEq] at heq
      exact hq heq.1.symm
    rw [Function.update_of_ne (hne 1), Function.update_of_ne (hne 0)]
  env := fun e s s' h => approvalEnv_leavesRows h
  later := fun s s' h => h.2
  later_trans := fun s t u h h' => List.Subset.trans h h'
  own := fun req => Proc.Within.bind ((submitApproval_within p req).run.mono
    (fun s s' h => h.approvals)) (fun _ => trivial)
  own_crash := fun s => List.Subset.refl _

/-- Where an answer comes from. -/
inductive Replies (p : Nat) (req : ApprovalRequest) (a : Approval) (steps : List (Db × Db)) : Prop
  /-- The request has found the decision. -/
  | found (s : Db) (hread : (s, s) ∈ steps) (hmem : a ∈ s.approvals)
  /-- It has decided itself. -/
  | decided (s s' : Db) (before l : List (Db × Db)) (hown : a.approver = req.username)
      (hl : ∀ q ∈ l, RequestStep p q.1 q.2)
      (hsteps : steps = before ++ (s, s.add ⟨p, 0⟩ (.approval a)) :: l ++
        [(s', (s'.commit ⟨p, 0⟩).record [])])

theorem expireRequest_raises (p : Nat) (req : ApprovalRequest) (r : Incident) :
    Returns (fun _ => False) (expireRequest p req r) := by
  unfold expireRequest
  by_cases hwait : r.state = .pendingApproval
  · simp only [if_pos hwait]
    exact returns_bind (fun _ => returns_bind (fun _ => returns_throw _))
  · simp only [if_neg hwait]
    exact returns_throw _

/-- A decision that the request records. -/
theorem decideRequest_replies {p : Nat} {req : ApprovalRequest} {r : Incident}
    {plan : RemediationPlan} {now : Int} {steps : List (Db × Db)} {response : ApprovalResponse}
    (h : (decideRequest p req r plan now).Took steps (.ok response)) :
    ∃ a incident s before l, a.approver = req.username ∧
      a.isFor plan.id plan.version = true ∧ response = a.response req plan incident ∧
      (∀ q ∈ l, RequestStep p q.1 q.2) ∧
      steps = before ++ (s, s.add ⟨p, 0⟩ (.approval a)) :: l := by
  have hsteps := (decideRequest_within p req r plan now).began (Took.began h)
  obtain ⟨a, l₁, l₂, rfl, hrecord, hrest⟩ := took_bind_ok h
  obtain ⟨id, l₃, l₄, rfl, -, hrecord⟩ := took_bind_ok hrecord
  obtain ⟨u, l₅, l₆, rfl, hinsert, hpure⟩ := took_bind_ok hrecord
  obtain ⟨rfl, heq⟩ := took_pure.mp hpure
  simp only [Except.ok.injEq] at heq
  obtain ⟨s, s', rfl, ⟨hbad, -⟩ | hf⟩ := took_sql hinsert
  · cases hbad
  simp only [Option.some.injEq, Prod.mk.injEq, true_and] at hf
  have hresponse : ∃ incident, response = a.response req plan incident := by
    cases hdecision : req.decision with
    | approve =>
        simp only [hdecision] at hrest
        obtain ⟨-, l₇, l₈, -, -, hrest⟩ := took_bind_ok hrest
        obtain ⟨updated, l₉, l₀, -, -, hpure⟩ := took_bind_ok hrest
        exact ⟨updated, Except.ok.inj (took_pure.mp hpure).2⟩
    | reject =>
        simp only [hdecision] at hrest
        obtain ⟨updated, l₇, l₈, -, -, hrest⟩ := took_bind_ok hrest
        obtain ⟨-, l₉, l₀, -, -, hpure⟩ := took_bind_ok hrest
        exact ⟨updated, Except.ok.inj (took_pure.mp hpure).2⟩
  obtain ⟨incident, hresponse⟩ := hresponse
  refine ⟨a, incident, s, l₃, l₂, ?_, ?_, hresponse, fun q hq => hsteps q (by simp [hq]), ?_⟩
  · rw [heq]
    rfl
  · rw [heq]
    simp [Approval.isFor, ApprovalRequest.approval]
  · rw [← hf, heq]
    simp

/-- **Where an answer comes from**: from a decision that the request has found, or from its own. -/
theorem submitApproval_replies {p : Nat} {req : ApprovalRequest} {steps : List (Db × Db)}
    {response : ApprovalResponse} (h : (submitApproval p req).Took steps (.ok response)) :
    ∃ a plan incident, a.isFor plan.id plan.version = true ∧
      response = a.response req plan incident ∧ Replies p req a steps := by
  unfold submitApproval at h
  by_cases hallowed : req.allowed = false
  · rw [if_pos hallowed] at h
    cases (took_throw.mp h).2
  rw [if_neg hallowed] at h
  by_cases hreason : req.unexplained = true
  · rw [if_pos hreason] at h
    cases (took_throw.mp h).2
  rw [if_neg hreason] at h
  rcases took_unitOfWork_block h with ⟨-, e, hbad⟩ | hblock
  · cases hbad
  cases hblock with
  | committed _ s₀ s' l hbody =>
    obtain ⟨found, l₁, l₂, rfl, -, hbody⟩ := took_bind_ok hbody
    cases found with
    | none => cases (took_throw.mp hbody).2
    | some incident =>
      obtain ⟨plan, l₃, l₄, rfl, -, hbody⟩ := took_bind_ok hbody
      cases plan with
      | none => cases (took_throw.mp hbody).2
      | some plan =>
        by_cases hhash : req.mismatches plan = true
        · simp only [if_pos hhash] at hbody
          cases (took_throw.mp hbody).2
        simp only [if_neg hhash] at hbody
        obtain ⟨existing, l₅, l₆, rfl, hread, hbody⟩ := took_bind_ok hbody
        obtain ⟨now, l₇, l₈, rfl, -, hbody⟩ := took_bind_ok hbody
        obtain ⟨s, rfl, hexisting⟩ := took_select_ok hread
        cases existing with
        | some a =>
          by_cases hsame : a.decision = req.decision
          · simp only [if_pos hsame] at hbody
            obtain ⟨-, heq⟩ := took_pure.mp hbody
            have hmem : a ∈ s.approvalsFor plan.id plan.version :=
              List.mem_of_mem_head? (by rw [← hexisting]; rfl)
            unfold Db.approvalsFor at hmem
            rw [List.mem_insertionSort] at hmem
            obtain ⟨hstored, hfor⟩ := List.mem_filter.mp hmem
            exact ⟨a, plan, incident, hfor, Except.ok.inj heq, .found s (by simp) hstored⟩
          · simp only [if_neg hsame] at hbody
            cases (took_throw.mp hbody).2
        | none =>
          have hdecide : (decideRequest p req incident plan now).Took l₈ (.ok response) := by
            change (answerRequest p req incident plan now).Took l₈ (.ok response) at hbody
            unfold answerRequest at hbody
            split at hbody
            · exact ((expireRequest_raises p req incident).took hbody).elim
            · split at hbody
              · cases (took_throw.mp hbody).2
              · split at hbody
                · cases (took_throw.mp hbody).2
                · exact hbody
          obtain ⟨a, updated, s₁, before, l, hown, hfor, heq, hl, rfl⟩ :=
            decideRequest_replies hdecide
          refine ⟨a, plan, updated, hfor, heq, .decided s₁ s'
            ((s₀, s₀.started ⟨p, 0⟩) :: l₁ ++ l₃ ++ [(s, s)] ++ l₇ ++ before) l hown hl ?_⟩
          simp

/-- **The decision that an answer tells of is stored.** -/
theorem Replies.stored {p : Nat} {req : ApprovalRequest} {a : Approval} {steps : List (Db × Db)}
    {first mid : Db} (h : Replies p req a steps) (hb : Between (LeavesRows p) first steps mid)
    (hsteps : ∀ q ∈ steps, q.1.approvals ⊆ q.2.approvals) : a ∈ mid.approvals := by
  have hlater := hb.later (T := fun s s' => s.approvals ⊆ s'.approvals) (fun s s' h => h.2)
    (fun s t u => List.Subset.trans) hsteps
  cases h with
  | found s hread hmem => exact hlater.2 (s, s) hread hmem
  | decided s s' before l hown hl heq =>
      rw [heq, List.append_assoc] at hb
      have hrefl : ∀ s, LeavesRows p s s := fun s => ⟨rfl, List.Subset.refl _⟩
      obtain ⟨m, -, hb⟩ := hb.split hrefl
      obtain ⟨m', hl', hend⟩ := Between.split hrefl hb.2
      have hadded : NewRow.approval a ∈ m'.added ⟨p, 0⟩ := by
        refine hl'.keeps (P := fun s => NewRow.approval a ∈ s.added ⟨p, 0⟩) ?_ ?_ (by simp [Db.add])
        · intro s s' hothers hs
          rw [hothers.1]
          exact hs
        · intro q hq hs
          exact ((hl q hq).withheld (by simp)).added _ hs
      have hcommit : a ∈ (s'.commit ⟨p, 0⟩).approvals := by
        refine List.mem_append_left _ (List.mem_filterMap.mpr ⟨.approval a, ?_, rfl⟩)
        rw [hend.1.1]
        exact hadded
      exact hend.2.2 hcommit

/-- All that the request has found decided on this version of the plan, its own user has decided. -/
def OwnDecisions (planId planVersion : Nat) (req : ApprovalRequest)
    (steps : List (Db × Db)) : Prop :=
  ∀ q ∈ steps, ∀ b ∈ q.1.approvals, b.isFor planId planVersion = true → b.approver = req.username

/-- The answer tells of the decision, whoever has made it. -/
structure ApprovalResponse.Reports (response : ApprovalResponse) (a : Approval) : Prop where
  id : response.id = a.id
  decision : response.decision = a.decision
  rejectionReason : response.rejectionReason = a.rejectionReason
  expiresAt : response.expiresAt = a.expiresAt

section Replies

variable {db₀ : Db} {c : Config World Db} {steps : Nat → List (Db × Db)} {planId planVersion : Nat}

/-- Among any requests, the decision that an answer tells of is the one that is stored. -/
theorem reply_stored (h₀ : db₀.Awaiting) (h : Recorded approvalMachine db₀ c steps) {p : Nat}
    {req : ApprovalRequest} {response : ApprovalResponse}
    (ht : (submitApproval p req).Took (steps p) (.ok response))
    (hid : response.planId = planId) (hversion : response.planVersion = planVersion) :
    ∃ a, c.state.approvals.filter (Approval.isFor planId planVersion) = [a] ∧
      response.Reports a ∧ response.approver = req.username ∧ Replies p req a (steps p) ∧
      ∀ q ∈ steps p, q.1.approvals ⊆ c.state.approvals := by
  obtain ⟨a, plan, incident, hfor, rfl, hreplies⟩ := submitApproval_replies ht
  have hb := beside_approval p
  have hown := h.own_steps hb
  obtain ⟨first, mid, hbetween, hmid, -⟩ := h.between hb
  have hstored : a ∈ c.state.approvals := hmid (hreplies.stored hbetween hown)
  have hlater := hbetween.later hb.later hb.later_trans hown
  refine ⟨a, ?_, ⟨rfl, rfl, rfl, rfl⟩, rfl, hreplies, fun q hq =>
    List.Subset.trans (hlater.2 q hq) hmid⟩
  have hmem : a ∈ c.state.approvals.filter (Approval.isFor planId planVersion) := by
    refine List.mem_filter.mpr ⟨hstored, ?_⟩
    rw [← hid, ← hversion]
    exact hfor
  have hsingle := (h₀.sound.reaches approvalProtocol_rests h.reaches).inv.single planId planVersion
  obtain ⟨b, hb⟩ := List.length_eq_one_iff.mp
    (Nat.le_antisymm hsingle (List.length_pos_of_mem hmem))
  rw [hb, List.mem_singleton] at hmem
  rw [hb, hmem]

/-- **A request that comes again is told who has decided only if it was its own user.**  Whatever
requests run at the same time, an answer on a version of a plan tells of the one decision that is
stored on it: of its identifier, decision, reason and end always, and of its approver if and only if
all that the request has found decided on the version, its own user has decided.  Two answers to
such requests name the same approver. -/
theorem truthful_reply_iff (h₀ : db₀.Awaiting) (h : Recorded approvalMachine db₀ c steps) {p : Nat}
    {req : ApprovalRequest} {response : ApprovalResponse}
    (ht : (submitApproval p req).Took (steps p) (.ok response))
    (hid : response.planId = planId) (hversion : response.planVersion = planVersion) :
    (∃ a, c.state.approvals.filter (Approval.isFor planId planVersion) = [a] ∧
      response.Reports a ∧
      (response.approver = a.approver ↔ OwnDecisions planId planVersion req (steps p))) ∧
    ∀ p' req' response', (submitApproval p' req').Took (steps p') (.ok response') →
      response'.planId = planId → response'.planVersion = planVersion →
      OwnDecisions planId planVersion req (steps p) →
      OwnDecisions planId planVersion req' (steps p') → response'.approver = response.approver := by
  have honly : ∀ {a b : Approval},
      c.state.approvals.filter (Approval.isFor planId planVersion) = [a] →
      b ∈ c.state.approvals → b.isFor planId planVersion = true → b = a := by
    intro a b ha hb hfor
    have hmem := List.mem_filter.mpr ⟨hb, hfor⟩
    rw [ha] at hmem
    exact List.mem_singleton.mp hmem
  -- the answer names its own user, and the stored decision is found or made by the request
  have hnamed : ∀ {p req response}, (submitApproval p req).Took (steps p) (.ok response) →
      response.planId = planId → response.planVersion = planVersion →
      ∃ a, c.state.approvals.filter (Approval.isFor planId planVersion) = [a] ∧
        response.Reports a ∧
        (response.approver = a.approver ↔ OwnDecisions planId planVersion req (steps p)) := by
    intro p req response ht hid hversion
    obtain ⟨a, ha, hreports, happrover, hreplies, hkept⟩ := reply_stored h₀ h ht hid hversion
    refine ⟨a, ha, hreports, ?_⟩
    rw [happrover]
    constructor
    · intro hsame q hq b hb hfor
      rw [honly ha (hkept q hq hb) hfor, hsame]
    · intro hown
      cases hreplies with
      | found s hread hmem =>
          have hfor : a.isFor planId planVersion = true := by
            have hfiltered : a ∈ c.state.approvals.filter (Approval.isFor planId planVersion) := by
              rw [ha]
              exact List.mem_singleton.mpr rfl
            exact (List.mem_filter.mp hfiltered).2
          exact (hown (s, s) hread a hmem hfor).symm
      | decided s s' before l hmade hl hsteps => exact hmade.symm
  refine ⟨hnamed ht hid hversion, ?_⟩
  intro p' req' response' ht' hid' hversion' hown hown'
  obtain ⟨a, ha, -, hiff⟩ := hnamed ht hid hversion
  obtain ⟨a', ha', -, hiff'⟩ := hnamed ht' hid' hversion'
  have heq : a' = a := by
    rw [ha'] at ha
    exact (List.cons.inj ha).1
  rw [hiff.mpr hown, hiff'.mpr hown', heq]

end Replies

/-- Two users approve the same plan, one after the other. -/
theorem approved_twice :
    ∃ c steps r r', Recorded approvalMachine pendingDb c steps ∧
      (submitApproval 0 (approvalOf "alice")).Took (steps 0) (.ok r) ∧
      (submitApproval 1 (approvalOf "bob")).Took (steps 1) (.ok r') ∧
      (r.planId = 3 ∧ r.planVersion = 1 ∧ r'.planId = 3 ∧ r'.planVersion = 1) ∧
      r.id = r'.id ∧ r.approver = "alice" ∧ r'.approver = "bob" ∧
      c.state.approvals.map Approval.approver = ["alice"] := by
  have hpasses : (do
      let r ← submitApproval 0 (approvalOf "alice")
      let r' ← submitApproval 1 (approvalOf "bob")
      pure (r, r') : Prog (ApprovalResponse × ApprovalResponse)).passes (List.replicate 30 {})
      pendingDb (fun q db => match q with
        | .ok (r, r') => decide ((r.planId = 3 ∧ r.planVersion = 1 ∧ r'.planId = 3 ∧
            r'.planVersion = 1) ∧ r.id = r'.id ∧ r.approver = "alice" ∧ r'.approver = "bob" ∧
            db.approvals.map Approval.approver = ["alice"])
        | .error _ => false) = true := by decide +kernel
  obtain ⟨q, last, hends, htest⟩ := ends_of_passes hpasses
  rcases ends_bind.mp hends with ⟨r, mid, hfirst, hrest⟩ | ⟨e, -, rfl⟩
  swap
  · cases htest
  rcases ends_bind.mp hrest with ⟨r', mid', hsecond, hpure⟩ | ⟨e, -, rfl⟩
  swap
  · cases htest
  obtain ⟨rfl, rfl⟩ := ends_pure.mp hpure
  simp only [decide_eq_true_eq] at htest
  obtain ⟨c, steps, hr, rfl, htook, hfree⟩ := (Recorded.idle (M := approvalMachine)).alone
    (p := 0) (a := approvalOf "alice") rfl rfl trivial (fun _ _ => trivial) hfirst
  obtain ⟨c', steps', hr', rfl, htook', hkept⟩ := hr.alone (p := 1) (a := approvalOf "bob") rfl
    (hfree 1 (by simp)).1 trivial (fun _ _ => trivial) hsecond
  refine ⟨c', steps', r, r', hr', ?_, htook', htest⟩
  rw [(hkept 0 (by simp)).2]
  exact htook

/-- The second is told that it is the approver. -/
theorem approvals_in_turn :
    ∃ c steps r r', Recorded approvalMachine pendingDb c steps ∧
      (submitApproval 0 (approvalOf "alice")).Took (steps 0) (.ok r) ∧
      (submitApproval 1 (approvalOf "bob")).Took (steps 1) (.ok r') ∧
      r.id = r'.id ∧ r.approver = "alice" ∧ r'.approver = "bob" ∧
      c.state.approvals.map Approval.approver = ["alice"] := by
  obtain ⟨c, steps, r, r', hr, ht, ht', -, hrest⟩ := approved_twice
  exact ⟨c, steps, r, r', hr, ht, ht', hrest⟩

/-- The first of the two is told who has decided, the second is not. -/
theorem truthful_reply_iff_repeated :
    ∃ c steps r r', Recorded approvalMachine pendingDb c steps ∧
      (submitApproval 0 (approvalOf "alice")).Took (steps 0) (.ok r) ∧
      (submitApproval 1 (approvalOf "bob")).Took (steps 1) (.ok r') ∧
      OwnDecisions 3 1 (approvalOf "alice") (steps 0) ∧
      ¬ OwnDecisions 3 1 (approvalOf "bob") (steps 1) := by
  obtain ⟨c, steps, r, r', hr, ht, ht',
    ⟨hid, hversion, hid', hversion'⟩, -, halice, hbob, hstored⟩ :=
    approved_twice
  obtain ⟨⟨a, ha, -, hiff⟩, -⟩ := truthful_reply_iff awaiting_pendingDb hr ht hid hversion
  obtain ⟨⟨a', ha', -, hiff'⟩, -⟩ := truthful_reply_iff awaiting_pendingDb hr ht' hid' hversion'
  have happrover : ∀ {b : Approval},
      c.state.approvals.filter (Approval.isFor 3 1) = [b] → b.approver = "alice" := by
    intro b hb
    have hmem : b ∈ c.state.approvals.filter (Approval.isFor 3 1) := by
      rw [hb]
      exact List.mem_singleton.mpr rfl
    have hname := List.mem_map_of_mem (f := Approval.approver) (List.mem_filter.mp hmem).1
    rw [hstored] at hname
    exact List.mem_singleton.mp hname
  refine ⟨c, steps, r, r', hr, ht, ht', ?_, ?_⟩
  · exact hiff.mp (by rw [halice, happrover ha])
  · intro hown
    have hsame := hiff'.mpr hown
    rw [hbob, happrover ha'] at hsame
    exact absurd hsame (by decide)

end SelfHealing
