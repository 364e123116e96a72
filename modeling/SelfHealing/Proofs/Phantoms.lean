/-
Messages about incidents that are not there.

An endpoint appends its messages inside the transaction that makes the incidents.  A request that
returns has committed them; one that is refused or raises after it has appended a message has told
of an incident that nobody will ever see.  There is a way to go wrong after every message, so a
request is beyond doubt just when it appends none, which is when it opens no incident.

Truthful is said of a request by the messages that it has appended and the incidents that are
committed when it is over.  It is an equivalence: for a request that opens an incident there are
answers of the database with which it is not truthful.
-/
import SelfHealing.Webhooks
import SelfHealing.Proofs.SingleIncident

namespace SelfHealing

open Interleaving Interleaving.Prog ReadCommitted

/-! ### What ingestion leaves alone -/

/-- Nothing happens to the incidents, and nothing is seen. -/
structure Silent (s s' : Db) : Prop where
  incidents : s'.incidents = s.incidents
  incidentIds : s'.incidentIds = s.incidentIds
  log : s'.log = s.log

theorem Silent.refl (s : Db) : Silent s s := ⟨rfl, rfl, rfl⟩

theorem Silent.trans {s s₁ s₂ : Db} (h : Silent s s₁) (h' : Silent s₁ s₂) : Silent s s₂ :=
  ⟨h'.incidents.trans h.incidents, h'.incidentIds.trans h.incidentIds, h'.log.trans h.log⟩

/-- Nothing is committed, nothing is taken back, and nothing is seen. -/
structure InTransaction (t : TxId) (s s' : Db) : Prop where
  own : ∀ i v, v ∈ (s.incidents i).own t → v ∈ (s'.incidents i).own t
  versions : ∀ i, (s'.incidents i).versions = (s.incidents i).versions
  log : s'.log = s.log

theorem InTransaction.refl (t : TxId) (s : Db) : InTransaction t s s :=
  ⟨fun _ _ h => h, fun _ => rfl, rfl⟩

theorem InTransaction.trans {t : TxId} {s s₁ s₂ : Db} (h : InTransaction t s s₁)
    (h' : InTransaction t s₁ s₂) : InTransaction t s s₂ :=
  ⟨fun i v hv => h'.own i v (h.own i v hv), fun i => (h'.versions i).trans (h.versions i),
    h'.log.trans h.log⟩

theorem Silent.inTransaction {s s' : Db} (h : Silent s s') (t : TxId) : InTransaction t s s' := by
  refine ⟨?_, ?_, h.log⟩
  · rw [h.incidents]
    exact fun _ _ hv => hv
  · rw [h.incidents]
    exact fun _ => rfl

section Within

variable (t : TxId)

theorem silent_uuid4 : Within Silent (uuid4 t.pid) := by
  refine within_stmt ?_
  intro w s r s' hf
  simp only [Option.some.injEq, Prod.mk.injEq] at hf
  rw [← hf.2]
  exact ⟨rfl, rfl, rfl⟩

theorem silent_insertEvent (key : EventKey) (event : EventRecord) :
    Within Silent (insertEvent t key event) := by
  refine sql_within Silent.refl ?_
  intro s r s' hf
  simp only at hf
  split at hf
  · split at hf
    · simp only [Option.some.injEq, Prod.mk.injEq] at hf
      rw [← hf.2]
      exact Silent.refl s
    · simp only [Option.some.injEq, Prod.mk.injEq] at hf
      rw [← hf.2]
      exact ⟨rfl, rfl, rfl⟩
  · simp at hf

theorem silent_storeEvent (actor : String) (event : NormalizedEventPayload) :
    Within Silent (storeEvent t actor event) := by
  unfold storeEvent
  by_cases hdigest : isDigest event.fingerprint = false
  · rw [if_pos hdigest]
    exact ⟨trivial⟩
  rw [if_neg hdigest]
  refine (silent_uuid4 t).bind (fun id => (silent_insertEvent t _ _).bind (fun inserted => ?_))
  cases inserted with
  | some record => exact within_pure record
  | none =>
      refine (select_within Silent.refl _).bind (fun existing => ?_)
      cases existing with
      | some record => exact within_pure record
      | none => exact within_throw _

theorem silent_linkEvent (incidentId eventId : Nat) :
    Within Silent (linkEvent t incidentId eventId) := by
  refine sql_within Silent.refl ?_
  intro s r s' hf
  simp only [Option.some.injEq, Prod.mk.injEq] at hf
  rw [← hf.2]
  exact ⟨rfl, rfl, rfl⟩

theorem silent_addOutbox (actor : String) (event : OutboxEvent) :
    Within Silent (addOutbox t actor event) := by
  unfold addOutbox
  refine (silent_uuid4 t).bind (fun id => ?_)
  refine sql_within Silent.refl ?_
  intro s r s' hf
  simp only [Option.some.injEq, Prod.mk.injEq] at hf
  rw [← hf.2]
  exact ⟨rfl, rfl, rfl⟩

theorem Within.inTransaction {α : Type} {x : Prog α} (h : Within Silent x) :
    Within (InTransaction t) x :=
  h.mono (fun _ _ hs => hs.inTransaction t)

theorem inside_insertIncident (incident : Incident) :
    Within (InTransaction t) (insertIncident t incident) := by
  refine sql_within (InTransaction.refl t) ?_
  intro s r s' hf
  simp only at hf
  split at hf
  · simp at hf
  · split at hf
    · simp only [Option.some.injEq, Prod.mk.injEq] at hf
      rw [← hf.2]
      exact InTransaction.refl t s
    · simp only [Option.some.injEq, Prod.mk.injEq] at hf
      rw [← hf.2]
      refine ⟨?_, ?_, rfl⟩
      · intro i v hv
        show v ∈ (Function.update s.incidents incident.id _ i).own t
        by_cases hi : i = incident.id
        · subst hi
          rw [Function.update_self, Cell.own_write]
          exact List.mem_cons_of_mem _ hv
        · rw [Function.update_of_ne hi]
          exact hv
      · intro i
        show (Function.update s.incidents incident.id _ i).versions = _
        by_cases hi : i = incident.id
        · subst hi
          rw [Function.update_self, Cell.write_versions]
        · rw [Function.update_of_ne hi]

theorem inside_createIncident (resourceId : Nat) (key : String) (severity : Severity) :
    Within (InTransaction t) (createIncident t resourceId key severity) := by
  unfold createIncident
  refine (Within.inTransaction t (silent_uuid4 t)).bind (fun id => ?_)
  refine (select_within (InTransaction.refl t) _).bind (fun now => ?_)
  rw [if_neg (by omega)]
  exact (inside_insertIncident t _).bind (fun _ => within_pure _)

theorem inside_getOrCreateIncident (resourceId : Nat) (key : String) (severity : Severity) :
    Within (InTransaction t) (getOrCreateIncident t resourceId key severity) := by
  unfold getOrCreateIncident
  refine (select_within (InTransaction.refl t) _).bind (fun found => ?_)
  cases found with
  | some incident => exact within_pure _
  | none =>
      refine Within.handle ?_ (fun e => ?_)
      · exact (inside_createIncident t _ _ _).bind (fun _ => within_pure _)
      · by_cases he : e.exc = .integrityError
        · rw [if_pos he]
          refine (select_within (InTransaction.refl t) _).bind (fun again => ?_)
          cases again with
          | some incident => exact within_pure _
          | none => exact within_throw e
        · rw [if_neg he]
          exact within_throw e

theorem inside_ingestEvent (actor : String) (event : NormalizedEventPayload) :
    Within (InTransaction t) (ingestEvent t actor event) := by
  unfold ingestEvent
  refine (Within.inTransaction t (silent_storeEvent t actor event)).bind (fun record => ?_)
  by_cases hfiring : event.status ≠ "firing"
  · simp only [if_pos hfiring]
    refine (select_within (InTransaction.refl t) _).bind (fun active => ?_)
    cases active with
    | some incident =>
        exact (Within.inTransaction t (silent_linkEvent t _ _)).bind (fun _ => within_pure _)
    | none => exact within_pure _
  · simp only [if_neg hfiring]
    refine (inside_getOrCreateIncident t _ _ _).bind (fun result => ?_)
    refine (Within.inTransaction t (silent_linkEvent t _ _)).bind (fun _ => ?_)
    by_cases hcreated : result.2 = true
    · rw [if_pos hcreated]
      exact (Within.inTransaction t (silent_addOutbox t actor _)).bind (fun _ => within_pure _)
    · rw [if_neg hcreated]
      exact within_pure _

end Within

/-! ### What is created is in the hands of the transaction -/

section Created

variable {A : World → Prop} {s : Db} (t : TxId)

theorem always_silent {α : Type} {x : Prog α} (s : Db) (hx : Within Silent x) :
    x.Always A (fun _ => Silent s) (fun _ => Silent s) s :=
  hx.always Silent.refl (fun _ _ _ h h' => h.trans h')

theorem always_createIncident (resourceId : Nat) (key : String) (severity : Severity) :
    (createIncident t resourceId key severity).Always A
      (fun incident s' => some incident ∈ (s'.incidents incident.id).own t)
        (fun _ _ => True) s := by
  unfold createIncident
  refine always_bind.mpr (always_uuid4 ?_)
  refine always_bind.mpr (always_select (fun _ _ _ => trivial) ?_)
  rw [if_neg (by omega)]
  refine always_bind.mpr (always_sql (fun _ _ _ => trivial) ?_ (fun _ _ _ => trivial))
  intro u s' hf
  simp only at hf
  split at hf
  · simp at hf
  · split at hf
    · simp at hf
    · simp only [Option.some.injEq, Prod.mk.injEq] at hf
      rw [always_pure, ← hf.2]
      simp only [Db.setIncident, Function.update_self, Cell.own_write]
      exact List.mem_cons_self

theorem always_getOrCreateIncident (resourceId : Nat) (key : String) (severity : Severity) :
    (getOrCreateIncident t resourceId key severity).Always A
      (fun result s' => result.2 = true →
        some result.1 ∈ (s'.incidents result.1.id).own t) (fun _ _ => True) s := by
  unfold getOrCreateIncident
  refine always_bind.mpr (always_select (fun _ _ _ => trivial) ?_)
  split
  · simp
  · refine always_tryCatch (always_bind.mpr ?_)
    refine (always_createIncident t resourceId key severity).mono ?_ ?_
    · intro incident s' h
      rw [always_pure]
      exact fun _ => h
    · intro e s' _
      by_cases he : e.exc = .integrityError
      · rw [if_pos he]
        refine always_bind.mpr (always_select (fun _ _ _ => trivial) ?_)
        split
        · simp
        · simp
      · rw [if_neg he]
        simp

/-- An incident that ingesting an event has made is among what the transaction has written. -/
theorem always_ingestEvent_created (actor : String) (event : NormalizedEventPayload) :
    (ingestEvent t actor event).Always A
      (fun res s' => ∀ incident, res.incident = some incident → res.wasCreated = true →
        some incident ∈ (s'.incidents incident.id).own t) (fun _ _ => True) s := by
  unfold ingestEvent
  refine always_bind.mpr ((always_true _).mono ?_ (fun _ _ h => h))
  intro record s₁ _
  by_cases hfiring : event.status ≠ "firing"
  · simp only [if_pos hfiring]
    refine always_bind.mpr (always_select (fun _ _ _ => trivial) ?_)
    split
    · refine always_bind.mpr ((always_true _).mono ?_ (fun _ _ h => h))
      simp
    · simp
  · simp only [if_neg hfiring]
    refine always_bind.mpr ((always_getOrCreateIncident t _ _ _).mono ?_ (fun _ _ h => h))
    rintro ⟨incident, wasCreated⟩ s₂ h₂
    refine always_bind.mpr ((always_silent s₂ (silent_linkEvent t _ _)).mono ?_
      (fun _ _ _ => trivial))
    intro u s₃ h₃
    by_cases hcreated : wasCreated = true
    · simp only [if_pos hcreated]
      refine always_bind.mpr ((always_silent s₃ (silent_addOutbox t actor _)).mono ?_
        (fun _ _ _ => trivial))
      intro u' s₄ h₄
      rw [always_pure]
      intro found hfound _
      simp only [Option.some.injEq] at hfound
      rw [← hfound]
      rw [h₄.incidents, h₃.incidents]
      exact h₂ hcreated
    · simp only [if_neg hcreated]
      simp

end Created

/-! ### Publishing

A message is about an incident that this transaction has created, and is appended behind all of its
writes.
-/

/-- Only messages about `incident` are appended. -/
structure Told (p : Nat) (incident : Incident) (s s' : Db) : Prop where
  incidents : s'.incidents = s.incidents
  log : ∃ evs, s'.log = evs ++ s.log ∧ ∀ e ∈ evs, ∃ ids, e = Event.published p incident ids

theorem Told.refl (p : Nat) (incident : Incident) (s : Db) : Told p incident s s :=
  ⟨rfl, [], rfl, by simp⟩

theorem Told.trans {p : Nat} {incident : Incident} {s s₁ s₂ : Db} (h : Told p incident s s₁)
    (h' : Told p incident s₁ s₂) : Told p incident s s₂ := by
  obtain ⟨hi, evs, hlog, hevs⟩ := h
  obtain ⟨hi', evs', hlog', hevs'⟩ := h'
  refine ⟨hi'.trans hi, evs' ++ evs, ?_, ?_⟩
  · rw [hlog', hlog, List.append_assoc]
  · intro e he
    rcases List.mem_append.mp he with he | he
    · exact hevs' e he
    · exact hevs e he

theorem told_publishRemaining (p : Nat) (incident : Incident) (ids : List Nat) (left : Nat)
    (lastError : Option Err) :
    Within (Told p incident) (publishRemaining p incident ids left lastError) := by
  induction left generalizing lastError with
  | zero =>
      refine Within.handle (within_stmt ?_) (fun e => within_throw _)
      intro w s r s' hf
      simp only [Option.some.injEq, Prod.mk.injEq] at hf
      rw [← hf.2]
      exact Told.refl p incident s
  | succ left ih =>
      refine Within.handle (within_stmt ?_) (fun e => ih _)
      intro w s r s' hf
      simp only [Option.some.injEq, Prod.mk.injEq] at hf
      rw [← hf.2]
      by_cases happ : w.xadd.appended = true
      · rw [if_pos happ]
        exact ⟨rfl, [.published p incident ids], rfl, by simp⟩
      · rw [if_neg happ]
        exact Told.refl p incident s

/-- **Publishing** tells only of an incident that was made just now, and raises nothing. -/
theorem always_publishCreated {A : World → Prop} (p : Nat) (res : IngestionResult) (s : Db) :
    (publishCreated p res).Always A
      (fun _ s' => s' = s ∨ ∃ incident, res.incident = some incident ∧ res.wasCreated = true ∧
        Told p incident s s') (fun _ _ => False) s := by
  unfold publishCreated
  split
  · rename_i incident hincident
    by_cases hcreated : res.wasCreated = true
    · rw [if_pos hcreated]
      refine always_tryCatch (((told_publishRemaining p incident _ 3 none).always
        (Told.refl p incident) (fun _ _ _ h h' => h.trans h')).mono ?_ ?_)
      · exact fun _ s' h => Or.inr ⟨incident, hincident, hcreated, h⟩
      · intro e s' h
        rw [always_pure]
        exact Or.inr ⟨incident, hincident, hcreated, h⟩
    · rw [if_neg hcreated, always_pure]
      exact Or.inl rfl
  · rw [always_pure]
    exact Or.inl rfl

/-! ### A request that returns -/

/-- Every message that the process has appended is about an incident its transaction has written. -/
def Backed (t : TxId) (s : Db) : Prop :=
  ∀ incident ids, Event.published t.pid incident ids ∈ s.log →
    some incident ∈ (s.incidents incident.id).own t

theorem Backed.inside {t : TxId} {s s' : Db} (h : Backed t s) (hin : InTransaction t s s') :
    Backed t s' := by
  intro incident ids hmem
  rw [hin.log] at hmem
  exact hin.own _ _ (h incident ids hmem)

theorem Backed.told {t : TxId} {s s' : Db} {incident : Incident} (h : Backed t s)
    (hown : some incident ∈ (s.incidents incident.id).own t) (htold : Told t.pid incident s s') :
    Backed t s' := by
  intro found ids hmem
  obtain ⟨hsame, evs, hlog, hevs⟩ := htold
  rw [hsame]
  rw [hlog] at hmem
  rcases List.mem_append.mp hmem with hmem | hmem
  · obtain ⟨ids', heq⟩ := hevs _ hmem
    simp only [Event.published.injEq, true_and] at heq
    rw [heq.1]
    exact hown
  · exact h found ids hmem

theorem backed_of_unseen {t : TxId} {s : Db} (h : s.unseen t.pid) : Backed t s :=
  fun _ _ hmem => absurd rfl (h _ hmem)

/-- What the transaction has written is in the database once it is committed. -/
theorem Backed.truthful_commit {t : TxId} {s : Db} (h : Backed t s) :
    ((s.commit t).record []).truthful t.pid := by
  intro incident ids hmem
  refine ⟨incident, ?_, rfl⟩
  show some incident ∈ ((s.incidents incident.id).commit t).versions
  rw [Cell.commit_versions]
  exact List.mem_append_left _ (h incident ids hmem)

section Request

variable {A : World → Prop} {s : Db}

theorem always_handleAlert_backed (t : TxId) (actor : String) (alert : Alert) (h : Backed t s) :
    (handleAlert t actor alert).Always A (fun _ => Backed t) (fun _ _ => True) s := by
  unfold handleAlert
  refine always_bind.mpr (always_check ?_ (fun _ _ => trivial))
  intro event _
  refine always_bind.mpr (((always_ingestEvent_created t actor event).and
    ((inside_ingestEvent t actor event).always (InTransaction.refl t)
      (fun _ _ _ h h' => h.trans h'))).mono ?_ (fun _ _ _ => trivial))
  rintro res s₁ ⟨hcreated, hin⟩
  have h₁ := h.inside hin
  refine always_bind.mpr ((always_publishCreated t.pid res s₁).mono ?_ (fun _ _ hf => hf.elim))
  rintro u s₂ (rfl | ⟨incident, hincident, hwas, htold⟩)
  · rw [always_pure]
    exact h₁
  · rw [always_pure]
    exact h₁.told (hcreated incident hincident hwas) htold

theorem always_processAlerts_backed (t : TxId) (actor : String) (alerts : List Alert)
    (response : AlertmanagerResponse) (h : Backed t s) :
    (processAlerts t actor alerts response).Always A (fun _ => Backed t) (fun _ _ => True) s := by
  induction alerts generalizing response s with
  | nil => exact (always_pure _).mpr h
  | cons alert rest ih =>
      unfold processAlerts
      exact always_bind.mpr ((always_handleAlert_backed t actor alert h).mono
        (fun res s' h' => ih _ h') (fun _ _ _ => trivial))

/-- A block of a request, if it returns. -/
theorem always_block_truthful {α : Type} {p : Nat} {actor : String} {body : Prog α}
    (h : s.unseen p) (hbody : ∀ s, Backed ⟨p, 0⟩ s →
      body.Always A (fun _ => Backed ⟨p, 0⟩) (fun _ _ => True) s) :
    (unitOfWork ⟨p, 0⟩ actor body).Always A (fun _ s' => s'.truthful p) (fun _ _ => True) s := by
  refine always_unitOfWork trivial trivial ((hbody _ ?_).mono ?_ (fun _ _ _ => trivial))
  · exact backed_of_unseen (t := ⟨p, 0⟩) h
  · exact fun _ s' h' => ⟨trivial, h'.truthful_commit⟩

/-- **A request that returns** has told of nothing that is not in the database. -/
theorem always_request_truthful (p : Nat) (request : EventRequest) (h : s.unseen p) :
    (request.prog p).Always A (fun _ s' => s'.truthful p) (fun _ _ => True) s := by
  cases request with
  | webhook alerts =>
      refine always_bind.mpr ?_
      unfold alertmanagerWebhook
      by_cases hempty : alerts = []
      · rw [if_pos hempty, always_pure, always_pure]
        exact fun incident ids hmem => absurd rfl (h _ hmem)
      · rw [if_neg hempty]
        refine always_bind.mpr ((always_block_truthful h
          (fun s' h' => always_processAlerts_backed ⟨p, 0⟩ _ alerts _ h')).mono ?_
            (fun _ _ h' => h'))
        intro response s' h'
        rw [always_pure, always_pure]
        exact h'
  | generic payload =>
      refine always_bind.mpr ?_
      unfold ingestGenericEvent
      refine (always_block_truthful h (fun s' h' => ?_)).mono ?_ (fun _ _ h' => h')
      · exact always_bind.mpr ((always_handleAlert_backed ⟨p, 0⟩ _ payload h').mono
          (fun _ _ h'' => (always_pure _).mpr h'') (fun _ _ _ => trivial))
      · intro response s' h'
        rw [always_pure]
        exact h'

end Request

/-! ### A request that opens nothing -/

/-- The incidents as the transaction reads them are those that everybody sees. -/
theorem Silent.seen {db s : Db} (h : Silent db s) (hq : db.Quiet) (t : TxId) :
    (s.incidentIds.filterMap fun i => (s.incidents i).visible t) =
      db.incidentIds.filterMap db.incident := by
  rw [h.incidents, h.incidentIds]
  congr 1
  funext i
  exact visible_of_settled (hq.incidents i) t

/-- An accepted alert that opens nothing is not firing, or there is an open incident. -/
theorem found_of_not_opens {db : Db} {event : NormalizedEventPayload}
    (h : Alert.opens db (.ok event) = false) (hdigest : isDigest event.fingerprint = true)
    (hfiring : ¬ event.status ≠ "firing") :
    ∃ incident, (db.incidentIds.filterMap db.incident).find?
      (Incident.active (computeCorrelationKey event)) = some incident := by
  simp only [Alert.opens, hdigest, Bool.true_and, Bool.and_eq_false_iff, decide_eq_false_iff_not,
    List.all_eq_false] at h
  rcases h with h | ⟨incident, hmem, hactive⟩
  · exact absurd h hfiring
  · cases hfind : (db.incidentIds.filterMap db.incident).find?
        (Incident.active (computeCorrelationKey event)) with
    | some found => exact ⟨found, rfl⟩
    | none =>
        have hno := List.find?_eq_none.mp hfind incident hmem
        simp only [Bool.not_eq_true, Bool.not_eq_false'] at hactive
        exact absurd hactive hno

section Opening

variable {A : World → Prop} {db s : Db} (t : TxId) (actor : String)

theorem always_ingestEvent_silent (hq : db.Quiet) (hs : Silent db s)
    {event : NormalizedEventPayload} (h : Alert.opens db (.ok event) = false) :
    (ingestEvent t actor event).Always A
      (fun res s' => isDigest event.fingerprint = true ∧ res.wasCreated = false ∧ Silent db s')
      (fun _ => Silent db) s := by
  unfold ingestEvent
  by_cases hdigest : isDigest event.fingerprint = false
  · refine always_bind.mpr ?_
    unfold storeEvent
    rw [if_pos hdigest]
    exact always_bind.mpr ((always_throw _).mpr hs)
  rw [Bool.not_eq_false] at hdigest
  refine always_bind.mpr ((always_silent s (silent_storeEvent t actor event)).mono ?_
    (fun _ _ h' => hs.trans h'))
  intro record s₁ h₁
  have h₁ := hs.trans h₁
  by_cases hfiring : event.status ≠ "firing"
  · simp only [if_pos hfiring]
    refine always_bind.mpr (always_select (fun _ _ _ => h₁) ?_)
    split
    · refine always_bind.mpr ((always_silent s₁ (silent_linkEvent t _ _)).mono ?_
        (fun _ _ h' => h₁.trans h'))
      intro u s₂ h₂
      rw [always_pure]
      exact ⟨hdigest, rfl, h₁.trans h₂⟩
    · rw [always_pure]
      exact ⟨hdigest, rfl, h₁⟩
  · simp only [if_neg hfiring]
    obtain ⟨incident, hfound⟩ := found_of_not_opens h hdigest hfiring
    refine always_bind.mpr ?_
    unfold getOrCreateIncident
    refine always_bind.mpr (always_select (fun _ _ _ => h₁) ?_)
    rw [h₁.seen hq t, hfound, always_pure]
    refine always_bind.mpr ((always_silent s₁ (silent_linkEvent t _ _)).mono ?_
      (fun _ _ h' => h₁.trans h'))
    intro u s₂ h₂
    simp only [Bool.false_eq_true, if_false, always_pure]
    exact ⟨hdigest, trivial, h₁.trans h₂⟩

theorem always_handleAlert_silent (hq : db.Quiet) (hs : Silent db s) {alert : Alert}
    (h : alert.opens db = false) :
    (handleAlert t actor alert).Always A (fun _ s' => alert.accepted = true ∧ Silent db s')
      (fun _ => Silent db) s := by
  unfold handleAlert
  refine always_bind.mpr (always_check ?_ (fun _ _ => hs))
  rintro event rfl
  refine always_bind.mpr ((always_ingestEvent_silent t actor hq hs h).mono ?_ (fun _ _ h' => h'))
  rintro res s₁ ⟨hdigest, hnew, h₁⟩
  refine always_bind.mpr ((always_publishCreated t.pid res s₁).mono ?_ (fun _ _ hf => hf.elim))
  rintro u s₂ (rfl | ⟨incident, -, hwas, -⟩)
  · rw [always_pure]
    exact ⟨hdigest, h₁⟩
  · rw [hnew] at hwas
    simp at hwas

theorem always_processAlerts_silent (hq : db.Quiet) (hs : Silent db s) {alerts : List Alert}
    (response : AlertmanagerResponse) (h : opensIncident db alerts = false) :
    (processAlerts t actor alerts response).Always A (fun _ => Silent db) (fun _ => Silent db)
      s := by
  induction alerts generalizing response s with
  | nil => exact (always_pure _).mpr hs
  | cons alert rest ih =>
      simp only [opensIncident, Bool.or_eq_false_iff, Bool.and_eq_false_iff] at h
      unfold processAlerts
      refine always_bind.mpr ((always_handleAlert_silent t actor hq hs h.1).mono ?_
        (fun _ _ h' => h'))
      rintro res s₁ ⟨haccepted, h₁⟩
      refine ih h₁ _ ?_
      rcases h.2 with hno | hno
      · rw [haccepted] at hno
        simp at hno
      · exact hno

/-- A block in which nothing is seen adds nothing to what has been seen. -/
theorem always_block_silent {α : Type} {body : Prog α}
    (hbody : ∀ s, Silent db s → body.Always A (fun _ => Silent db) (fun _ => Silent db) s) :
    (unitOfWork t actor body).Always A (fun _ s' => s'.log = db.log) (fun _ s' => s'.log = db.log)
      db := by
  refine always_unitOfWork rfl rfl ((hbody (db.started t) ⟨rfl, rfl, rfl⟩).mono ?_ ?_)
  · exact fun _ s' h' => ⟨h'.log, h'.log⟩
  · exact fun _ s' h' => h'.log

/-- **A request that opens no incident** tells of none. -/
theorem always_request_silent (p : Nat) (request : EventRequest) (hq : db.Quiet)
    (h : opensIncident db request.alerts = false) :
    (request.prog p).Always A (fun _ s' => s'.log = db.log) (fun _ s' => s'.log = db.log) db := by
  cases request with
  | webhook alerts =>
      refine always_bind.mpr ?_
      unfold alertmanagerWebhook
      by_cases hempty : alerts = []
      · rw [if_pos hempty, always_pure, always_pure]
      · rw [if_neg hempty]
        refine always_bind.mpr ((always_block_silent ⟨p, 0⟩ _ (fun s hs =>
          always_processAlerts_silent ⟨p, 0⟩ _ hq hs _ h)).mono ?_ (fun _ _ h' => h'))
        intro response s' h'
        rw [always_pure, always_pure]
        exact h'
  | generic payload =>
      have hone : payload.opens db = false := by
        simp only [EventRequest.alerts, opensIncident, Bool.and_false, Bool.or_false] at h
        exact h
      refine always_bind.mpr ?_
      unfold ingestGenericEvent
      refine (always_block_silent ⟨p, 0⟩ _ (fun s hs => ?_)).mono ?_ (fun _ _ h' => h')
      · exact always_bind.mpr ((always_handleAlert_silent ⟨p, 0⟩ _ hq hs hone).mono
          (fun _ _ h' => (always_pure _).mpr h'.2) (fun _ _ h' => h'))
      · intro response s' h'
        rw [always_pure]
        exact h'

end Opening

/-! ### A request that opens an incident

From here on the runs are given, with answers of the database that let the request come as far as
it has to: the alerts before the one in question are handled, the incident is made and the message
about it is appended.  What is refused then is the commit, or a later statement.
-/

/-- The transaction has touched no incident, and nothing is in its way. -/
structure Unhindered (t : TxId) (db s : Db) : Prop extends Silent db s where
  events : ∀ k, (s.events k).free t = true
  nextId : db.nextId ≤ s.nextId

/-- Any answers may be given. -/
def anyAnswer : World → Prop := fun _ => True

section Opened

variable {db s : Db} (t : TxId) (actor : String)

theorem can_insertEvent (h : Unhindered t db s) (key : EventKey) (event : EventRecord) :
    (insertEvent t key event).Can anyAnswer
      (fun inserted s' => Unhindered t db s' ∧
        (inserted = none → ((s'.events key).visible t).isSome = true)) (fun _ _ => False) s := by
  cases hvis : (s.events key).visible t with
  | some row =>
      refine can_sql (w := {}) (r := .ok none) trivial rfl ?_ ⟨h, fun _ => by rw [hvis]; rfl⟩
      simp only [h.events key, hvis, if_true]
  | none =>
      have hstate : Unhindered t db (s.setEvent key ((s.events key).write t (some event))) := by
        refine ⟨h.toSilent.trans ⟨rfl, rfl, rfl⟩, ?_, h.nextId⟩
        intro k
        simp only [Db.setEvent]
        by_cases hk : k = key
        · subst hk
          rw [Function.update_self]
          exact Cell.locked_free (Cell.locked_write _)
        · rw [Function.update_of_ne hk]
          exact h.events k
      refine can_sql (w := {}) (r := .ok (some event)) trivial rfl ?_ ⟨hstate, by simp⟩
      simp only [h.events key, hvis, if_true]

theorem can_storeEvent (h : Unhindered t db s) {event : NormalizedEventPayload}
    (hdigest : isDigest event.fingerprint = true) :
    (storeEvent t actor event).Can anyAnswer (fun _ => Unhindered t db) (fun _ _ => False) s := by
  unfold storeEvent
  rw [if_neg (by simp [hdigest])]
  refine can_bind (can_uuid4 (w := {}) trivial ?_)
  have hdrawn : Unhindered t db (s.draw t.pid) :=
    ⟨h.toSilent.trans ⟨rfl, rfl, rfl⟩, h.events, Nat.le_succ_of_le h.nextId⟩
  refine can_bind ((can_insertEvent t hdrawn _ _).mono ?_ (fun _ _ hf => hf))
  rintro inserted s₁ ⟨h₁, hfound⟩
  cases inserted with
  | some record => exact (can_pure _).mpr h₁
  | none =>
      obtain ⟨record, hrecord⟩ := Option.isSome_iff_exists.mp (hfound rfl)
      refine can_bind (can_select (w := {}) trivial rfl ?_)
      rw [hrecord]
      exact (can_pure _).mpr h₁

theorem can_linkEvent (h : Unhindered t db s) (incidentId eventId : Nat) :
    (linkEvent t incidentId eventId).Can anyAnswer (fun _ => Unhindered t db)
      (fun _ _ => False) s :=
  can_sql (w := {}) trivial rfl rfl ⟨h.toSilent.trans ⟨rfl, rfl, rfl⟩, h.events, h.nextId⟩

/-- An accepted alert that opens nothing can be gone past. -/
theorem can_ingestEvent_past (hq : db.Quiet) (h : Unhindered t db s)
    {event : NormalizedEventPayload} (hno : Alert.opens db (.ok event) = false)
    (hdigest : isDigest event.fingerprint = true) :
    (ingestEvent t actor event).Can anyAnswer
      (fun res s' => res.wasCreated = false ∧ Unhindered t db s') (fun _ _ => False) s := by
  unfold ingestEvent
  refine can_bind ((can_storeEvent t actor h hdigest).mono ?_ (fun _ _ hf => hf))
  intro record s₁ h₁
  by_cases hfiring : event.status ≠ "firing"
  · simp only [if_pos hfiring]
    refine can_bind (can_select (w := {}) trivial rfl ?_)
    split
    · exact can_bind ((can_linkEvent t h₁ _ _).mono (fun _ _ h₂ => (can_pure _).mpr ⟨rfl, h₂⟩)
        (fun _ _ hf => hf))
    · exact (can_pure _).mpr ⟨rfl, h₁⟩
  · simp only [if_neg hfiring]
    obtain ⟨incident, hfound⟩ := found_of_not_opens hno hdigest hfiring
    refine can_bind ?_
    unfold getOrCreateIncident
    refine can_bind (can_select (w := {}) trivial rfl ?_)
    rw [h₁.seen hq t, hfound]
    refine (can_pure _).mpr (can_bind ((can_linkEvent t h₁ _ _).mono ?_ (fun _ _ hf => hf)))
    intro u s₂ h₂
    simp only [Bool.false_eq_true, if_false]
    exact (can_pure _).mpr ⟨rfl, h₂⟩

theorem can_insertIncident {incident : Incident} (hnew : s.incidents incident.id = Cell.empty)
    (hfree : ∀ i, (s.incidents i).free t = true)
    (hseen : ∀ i ∈ s.incidentIds,
      ((s.incidents i).visible t).any (Incident.active incident.correlationKey) = false) :
    (insertIncident t incident).Can anyAnswer (fun _ _ => True) (fun _ _ => False) s := by
  have hopen : (!(s.incidents incident.id).free t || s.incidentIds.any (fun j =>
      Incident.contended t incident.correlationKey (s.incidents j))) = false := by
    simp only [hfree, Bool.not_true, Bool.false_or, List.any_eq_false, Incident.contended,
      Bool.false_and, Bool.false_eq_true, not_false_iff, implies_true]
  have hclear : (((s.incidents incident.id).visible t).isSome || s.incidentIds.any (fun j =>
      ((s.incidents j).visible t).any (Incident.active incident.correlationKey))) = false := by
    simp only [hnew, Cell.visible_empty, Option.isSome_none, Bool.false_or, List.any_eq_false]
    intro i hi
    rw [hseen i hi]
    simp
  have hrun : (if (!(s.incidents incident.id).free t || s.incidentIds.any (fun j =>
        Incident.contended t incident.correlationKey (s.incidents j))) = true then none
      else if (((s.incidents incident.id).visible t).isSome || s.incidentIds.any (fun j =>
        ((s.incidents j).visible t).any (Incident.active incident.correlationKey))) = true then
        some ((.error integrityError : Except Err Unit), s)
      else some (.ok (), s.withIncident t incident)) = some
        (.ok (), s.withIncident t incident) := by
    rw [hopen, hclear]
    simp
  exact can_sql (w := {}) trivial rfl hrun trivial

/-- Where no incident is open under the key, one can be made, with a new identifier. -/
theorem can_createIncident (hq : db.Quiet) (h : Unhindered t db s) (resourceId : Nat) {key : String}
    (severity : Severity)
    (hnone : ∀ incident ∈ db.incidentIds.filterMap db.incident, incident.active key = false) :
    (createIncident t resourceId key severity).Can anyAnswer
      (fun incident _ => db.nextId ≤ incident.id) (fun _ _ => False) s := by
  unfold createIncident
  refine can_bind (can_uuid4 (w := {}) trivial ?_)
  refine can_bind (can_select (w := {}) trivial rfl ?_)
  rw [if_neg (by omega)]
  refine can_bind ((can_insertIncident t ?_ ?_ ?_).mono ?_ (fun _ _ hf => hf))
  · show s.incidents s.nextId = Cell.empty
    rw [h.incidents]
    exact hq.undrawn _ h.nextId
  · intro i
    show (s.incidents i).free t = true
    rw [h.incidents, Cell.free, hq.incidents i]
  · intro i hi
    show ((s.incidents i).visible t).any (Incident.active key) = false
    cases hvis : (s.incidents i).visible t with
    | none => rfl
    | some row =>
        refine hnone row ?_
        rw [← h.seen hq t]
        exact List.mem_filterMap.mpr ⟨i, hi, hvis⟩
  · intro u s₁ _
    exact (can_pure _).mpr h.nextId

theorem can_ingestEvent_opens (hq : db.Quiet) (h : Unhindered t db s)
    {event : NormalizedEventPayload} (hopens : Alert.opens db (.ok event) = true) :
    (ingestEvent t actor event).Can anyAnswer
      (fun res _ => res.wasCreated = true ∧
        ∃ incident, res.incident = some incident ∧ db.nextId ≤ incident.id)
      (fun _ _ => False) s := by
  simp only [Alert.opens, Bool.and_eq_true, decide_eq_true_eq, List.all_eq_true,
    Bool.not_eq_true'] at hopens
  obtain ⟨⟨hdigest, hfiring⟩, hnone⟩ := hopens
  unfold ingestEvent
  refine can_bind ((can_storeEvent t actor h hdigest).mono ?_ (fun _ _ hf => hf))
  intro record s₁ h₁
  simp only [hfiring, ne_eq, not_true_eq_false, if_false]
  refine can_bind ?_
  unfold getOrCreateIncident
  refine can_bind (can_select (w := {}) trivial rfl ?_)
  have hfind : (db.incidentIds.filterMap db.incident).find?
      (Incident.active (computeCorrelationKey event)) = none := by
    rw [List.find?_eq_none]
    intro incident hmem
    rw [hnone incident hmem]
    simp
  rw [h₁.seen hq t, hfind]
  refine can_tryCatch (can_bind ((can_createIncident t hq h₁ _ _ hnone).mono ?_
    (fun _ _ hf => hf.elim)))
  intro incident s₂ hid
  refine (can_pure _).mpr (can_bind (can_sql (w := {}) trivial rfl rfl ?_))
  simp only [outcome, if_true]
  unfold addOutbox
  refine can_bind (can_bind (can_uuid4 (w := {}) trivial (can_sql (w := {}) trivial rfl rfl ?_)))
  exact (can_pure _).mpr ⟨rfl, incident, rfl, hid⟩

end Opened

/-! ### A message that nothing bears out -/

/-- Nothing is committed, and what has been seen was seen. -/
structure Uncommitted (s s' : Db) : Prop where
  versions : ∀ i, (s'.incidents i).versions = (s.incidents i).versions
  log : ∀ e ∈ s.log, e ∈ s'.log

theorem Uncommitted.refl (s : Db) : Uncommitted s s := ⟨fun _ => rfl, fun _ h => h⟩

theorem Uncommitted.trans {s s₁ s₂ : Db} (h : Uncommitted s s₁) (h' : Uncommitted s₁ s₂) :
    Uncommitted s s₂ :=
  ⟨fun i => (h'.versions i).trans (h.versions i), fun e he => h'.log e (h.log e he)⟩

theorem uncommitted_publishCreated (p : Nat) (res : IngestionResult) :
    Within Uncommitted (publishCreated p res) := by
  unfold publishCreated
  split
  · rename_i incident _
    by_cases hcreated : res.wasCreated = true
    · rw [if_pos hcreated]
      refine Within.handle ?_ (fun _ => within_pure _)
      refine (told_publishRemaining p incident _ 3 none).mono ?_
      intro s s' h
      obtain ⟨evs, hlog, -⟩ := h.log
      refine ⟨fun i => by rw [h.incidents], fun e he => ?_⟩
      rw [hlog]
      exact List.mem_append_right _ he
    · rw [if_neg hcreated]
      exact within_pure _
  · exact within_pure _

theorem uncommitted_handleAlert (t : TxId) (actor : String) (alert : Alert) :
    Within Uncommitted (handleAlert t actor alert) := by
  unfold handleAlert
  refine Within.bind ⟨trivial⟩ (fun event => ?_)
  refine ((inside_ingestEvent t actor event).mono ?_).bind (fun res => ?_)
  · exact fun s s' h => ⟨h.versions, fun e he => by rw [h.log]; exact he⟩
  · exact (uncommitted_publishCreated t.pid res).bind (fun _ => within_pure _)

theorem uncommitted_processAlerts (t : TxId) (actor : String) (alerts : List Alert)
    (response : AlertmanagerResponse) :
    Within Uncommitted (processAlerts t actor alerts response) := by
  induction alerts generalizing response with
  | nil => exact within_pure _
  | cons alert rest ih =>
      unfold processAlerts
      exact (uncommitted_handleAlert t actor alert).bind (fun res => ih _)

/-- A message was appended about an incident that was drawn since `db`. -/
def Haunted (p : Nat) (db s : Db) : Prop :=
  ∃ incident ids, Event.published p incident ids ∈ s.log ∧ db.nextId ≤ incident.id

theorem Haunted.uncommitted {p : Nat} {db s s' : Db} (h : Haunted p db s)
    (hstep : Uncommitted s s') : Haunted p db s' := by
  obtain ⟨incident, ids, hmem, hid⟩ := h
  exact ⟨incident, ids, hstep.log _ hmem, hid⟩

/-- Once the transaction is undone, nobody will ever see the incident. -/
theorem Haunted.not_truthful {p : Nat} {db s s' : Db} (h : Haunted p db s) (hq : db.Quiet)
    (hversions : ∀ i, (s'.incidents i).versions = (db.incidents i).versions)
    (hlog : s'.log = s.log) : ¬ s'.truthful p := by
  intro htrue
  obtain ⟨incident, ids, hmem, hid⟩ := h
  rw [← hlog] at hmem
  obtain ⟨row, hrow, -⟩ := htrue incident ids hmem
  rw [hversions, hq.undrawn _ hid] at hrow
  simp [Cell.empty] at hrow

section Raised

variable {db s : Db} (t : TxId) (actor : String)

theorem can_handleAlert_opens (hq : db.Quiet) (h : Unhindered t db s) {alert : Alert}
    (hopens : alert.opens db = true) :
    (handleAlert t actor alert).Can anyAnswer (fun _ => Haunted t.pid db) (fun _ _ => False) s := by
  cases alert with
  | error e => simp [Alert.opens] at hopens
  | ok event =>
      unfold handleAlert
      refine can_bind (can_check (can_bind ((can_ingestEvent_opens t actor hq h hopens).mono ?_
        (fun _ _ hf => hf))))
      rintro res s₁ ⟨hwas, incident, hincident, hid⟩
      unfold publishCreated publishIncidentCreated publishRemaining
      rw [hincident, hwas]
      simp only [if_true]
      refine can_bind (can_tryCatch
        (can_tryCatch (can_stmt (w := {}) (r := .ok ()) trivial rfl ?_)))
      exact (can_pure _).mpr ⟨incident, _, List.mem_cons_self, hid⟩

theorem can_handleAlert_past (hq : db.Quiet) (h : Unhindered t db s) {alert : Alert}
    (hno : alert.opens db = false) (haccepted : alert.accepted = true) :
    (handleAlert t actor alert).Can anyAnswer (fun _ => Unhindered t db) (fun _ _ => False) s := by
  cases alert with
  | error e => simp [Alert.accepted] at haccepted
  | ok event =>
      unfold handleAlert
      refine can_bind (can_check
        (can_bind ((can_ingestEvent_past t actor hq h hno haccepted).mono ?_
        (fun _ _ hf => hf))))
      rintro res s₁ ⟨hnew, h₁⟩
      unfold publishCreated
      rw [hnew]
      split
      · simp only [Bool.false_eq_true, if_false]
        exact can_bind ((can_pure _).mpr ((can_pure _).mpr h₁))
      · exact can_bind ((can_pure _).mpr ((can_pure _).mpr h₁))

/-- There is always some way for the batch to end. -/
theorem can_processAlerts_end (alerts : List Alert) (response : AlertmanagerResponse) :
    (processAlerts t actor alerts response).Can anyAnswer (fun _ _ => True) (fun _ _ => True)
      s := by
  cases alerts with
  | nil => exact (can_pure _).mpr trivial
  | cons alert rest =>
      unfold processAlerts handleAlert
      refine can_bind (can_bind (can_check ?_))
      cases alert with
      | error e => trivial
      | ok event =>
          unfold ingestEvent storeEvent
          refine can_bind (can_bind ?_)
          by_cases hdigest : isDigest event.fingerprint = false
          · rw [if_pos hdigest]
            exact can_bind ((can_throw _).mpr trivial)
          · rw [if_neg hdigest]
            refine can_bind (can_uuid4 (w := {}) trivial ?_)
            exact can_bind (can_refuse (w := { fails := true }) trivial rfl trivial)

theorem can_processAlerts_haunted (hq : db.Quiet) (h : Unhindered t db s) {alerts : List Alert}
    (response : AlertmanagerResponse) (hopens : opensIncident db alerts = true) :
    (processAlerts t actor alerts response).Can anyAnswer (fun _ => Haunted t.pid db)
      (fun _ => Haunted t.pid db) s := by
  induction alerts generalizing response s with
  | nil => simp [opensIncident] at hopens
  | cons alert rest ih =>
      simp only [opensIncident, Bool.or_eq_true, Bool.and_eq_true] at hopens
      unfold processAlerts
      by_cases hhead : alert.opens db = true
      · refine can_bind ((can_handleAlert_opens t actor hq h hhead).mono ?_ (fun _ _ hf => hf.elim))
        intro res s₁ h₁
        refine ((can_processAlerts_end t actor rest _).and ((uncommitted_processAlerts t actor rest
          _).always Uncommitted.refl (fun _ _ _ h h' => h.trans h'))).mono ?_ ?_
        · exact fun _ s₂ h₂ => h₁.uncommitted h₂.2
        · exact fun _ s₂ h₂ => h₁.uncommitted h₂.2
      · obtain ⟨haccepted, hrest⟩ := hopens.resolve_left hhead
        rw [Bool.not_eq_true] at hhead
        refine can_bind ((can_handleAlert_past t actor hq h hhead haccepted).mono ?_
          (fun _ _ hf => hf.elim))
        exact fun res s₁ h₁ => ih h₁ _ hrest

/-- A block that can be haunted can leave a message behind that nothing bears out. -/
theorem can_block_phantom {α : Type} {p : Nat} {actor : String} (hactor : validActor actor = true)
    {body : Prog α} (hq : db.Quiet) (hbody : body.Can anyAnswer (fun _ => Haunted p db)
      (fun _ => Haunted p db) (db.started ⟨p, 0⟩)) (hwithin : Within Uncommitted body) :
    (unitOfWork ⟨p, 0⟩ actor body).Can anyAnswer (fun _ _ => False) (fun _ s' => ¬ s'.truthful p)
      db := by
  refine can_unitOfWork_lost hactor (w := { fails := true }) trivial rfl (v := {}) trivial rfl
    ((hbody.and (hwithin.always Uncommitted.refl (fun _ _ _ h h' => h.trans h'))).mono ?_ ?_)
  · rintro a s₁ ⟨hhaunted, hun⟩
    refine hhaunted.not_truthful hq (fun i => ?_) rfl
    show (((s₁.incidents i).rollback _).rollback _).versions = _
    rw [Cell.rollback_versions, Cell.rollback_versions]
    exact hun.versions i
  · rintro e s₁ ⟨hhaunted, hun⟩
    refine hhaunted.not_truthful hq (fun i => ?_) rfl
    show ((s₁.incidents i).rollback _).versions = _
    rw [Cell.rollback_versions]
    exact hun.versions i

/-- Nothing is in the way of a transaction that has just begun. -/
theorem unhindered_started (hq : db.Quiet) : Unhindered t db (db.started t) :=
  ⟨⟨rfl, rfl, rfl⟩, fun k => by simp [Db.started, Cell.free, hq.events k], Nat.le_refl _⟩

/-- **A request that opens an incident** can leave a message behind that nothing bears out. -/
theorem can_request_phantom (p : Nat) (request : EventRequest) (hq : db.Quiet)
    (h : opensIncident db request.alerts = true) :
    (request.prog p).Can anyAnswer (fun _ _ => False) (fun _ s' => ¬ s'.truthful p) db := by
  cases request with
  | webhook alerts =>
      refine can_bind ?_
      unfold alertmanagerWebhook
      have hne : alerts ≠ [] := by
        intro hempty
        rw [hempty] at h
        simp [EventRequest.alerts, opensIncident] at h
      rw [if_neg hne]
      refine can_bind ((can_block_phantom (by decide +kernel) hq
        (can_processAlerts_haunted ⟨p, 0⟩ _ hq (unhindered_started ⟨p, 0⟩ hq) _ h)
        (uncommitted_processAlerts ⟨p, 0⟩ _ _ _)).mono (fun _ _ hf => hf.elim) (fun _ _ h' => h'))
  | generic payload =>
      have hone : payload.opens db = true := by
        simp only [EventRequest.alerts, opensIncident, Bool.and_false, Bool.or_false] at h
        exact h
      refine can_bind ?_
      unfold ingestGenericEvent
      refine (can_block_phantom (by decide +kernel) hq ?_ ?_).mono (fun _ _ hf => hf.elim)
        (fun _ _ h' => h')
      · exact can_bind ((can_handleAlert_opens ⟨p, 0⟩ _ hq (unhindered_started ⟨p, 0⟩ hq)
          hone).mono (fun _ _ h' => (can_pure _).mpr h') (fun _ _ hf => hf.elim))
      · exact (uncommitted_handleAlert ⟨p, 0⟩ _ payload).bind (fun _ => within_pure _)

end Raised

/-- **No phantom notification.**  Whatever fails, and at whatever point, a request leaves no message
about an incident that is not in the database, just when none of its alerts, all before it being
accepted, is one for which there is no open incident.  A request that returns leaves none in any
case. -/
theorem no_phantom_iff (p : Nat) (request : EventRequest) (db : Db) (hquiet : db.Quiet)
    (hnew : db.unseen p) :
    ((∀ r db', (request.prog p).Ends db r db' → db'.truthful p) ↔
      opensIncident db request.alerts = false) ∧
    ∀ db', (request.prog p).Ends db (.ok ()) db' → db'.truthful p := by
  refine ⟨⟨?_, ?_⟩, ?_⟩
  · intro h
    by_contra hopens
    rw [Bool.not_eq_false] at hopens
    obtain ⟨r, db', hends, hr⟩ := (can_request_phantom p request hquiet hopens).ends
    cases r with
    | ok a => exact hr
    | error e => exact hr (h _ db' hends)
  · intro hopens r db' hends incident ids hmem
    have hlog : db'.log = db.log := by
      have hr := (always_request_silent p request hquiet hopens).of_ends hends
      cases r with
      | ok a => exact hr
      | error e => exact hr
    rw [hlog] at hmem
    exact absurd rfl (hnew _ hmem)
  · exact fun db' hends => (always_request_truthful p request hnew).of_ends hends

theorem quiet_init (now : Int) : (Db.init now).Quiet :=
  ⟨fun _ => rfl, fun _ => rfl, fun _ _ => rfl⟩

/-- A notification that an alert is resolved. -/
def resolvedAlert : EventRequest :=
  .webhook
    [.ok ⟨.alertmanager, "Down", .high, 7, 0, String.ofList (List.replicate 64 'a'), 0,
      "resolved", none⟩]

/-- It tells of nothing. -/
theorem no_phantom_iff_resolved :
    opensIncident (Db.init 0) resolvedAlert.alerts = false ∧
      ∀ r db', (resolvedAlert.prog 0).Ends (Db.init 0) r db' → db'.truthful 0 := by
  have hopens : opensIncident (Db.init 0) resolvedAlert.alerts = false := by decide +kernel
  refine ⟨hopens, ?_⟩
  have hiff := no_phantom_iff 0 resolvedAlert (Db.init 0) (quiet_init 0)
    (by simp [Db.unseen, Db.init])
  exact hiff.1.mpr hopens

/-- All that is seen is a message, about an incident that there is not. -/
def onlyPhantom (db : Db) : Bool :=
  match db.log with
  | [.published 0 incident _] => (db.incidents incident.id).versions.isEmpty
  | _ => false

/-- Two alerts in one batch: the message about the incident of the first is appended, and the
second is one that the normaliser does not accept, so that everything is undone. -/
theorem phantom_of_second_alert :
    ∃ (request : EventRequest) (r : Except Err Unit) (db' : Db),
      request = .webhook
        [.ok ⟨.alertmanager, "Down", .high, 7, 0, String.ofList (List.replicate 64 'a'), 0,
          "firing", none⟩,
          .error ⟨.valueError, "1 validation error for NormalizedEventPayload"⟩] ∧
      (request.prog 0).Ends (Db.init 0) r db' ∧ ¬ db'.truthful 0 := by
  obtain ⟨r, db', hends, htest⟩ := ends_of_solo (EventRequest.prog 0 (.webhook
      [.ok ⟨.alertmanager, "Down", .high, 7, 0, String.ofList (List.replicate 64 'a'), 0,
        "firing", none⟩,
        .error ⟨.valueError, "1 validation error for NormalizedEventPayload"⟩]))
    (List.replicate 12 {}) (Db.init 0)
    (fun _ db' => onlyPhantom db') (by decide +kernel)
  refine ⟨_, r, db', rfl, hends, ?_⟩
  intro htrue
  unfold onlyPhantom at htest
  split at htest
  · rename_i incident ids hlog
    obtain ⟨row, hrow, -⟩ := htrue incident ids (by rw [hlog]; exact List.mem_cons_self)
    rw [List.isEmpty_iff.mp htest] at hrow
    simp at hrow
  · simp at htest

end SelfHealing
