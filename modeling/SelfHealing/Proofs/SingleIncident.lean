/-
One open incident for each correlation key, and one message about each incident.

The first is what `uq_active_incident` is for, and it rests on the index alone: a row gets into it
only where the database lets it, and no transition puts one back.  The second rests on the
transaction: before it commits it has posted one message about every incident that it has made,
and about no other.

A request that loses the race for the index raises at its insert, looks once more and finds the
incident of the winner; it has made none, so it posts nothing.
-/
import SelfHealing.Ingestion
import SelfHealing.Proofs.Repository

namespace SelfHealing

open Interleaving Interleaving.Protocol Interleaving.Prog ReadCommitted

variable {due : Nat → Db → Prop}

/-! ### The index

The condition of the index is on the state of the incident, and no edge leads from an end back into
it.
-/

/-- All rows are listed, and those that are open are indexed by their key. -/
structure IndexInv (s : Db) : Prop where
  listed : ∀ i, s.incidents i ≠ Cell.empty → i ∈ s.incidentIds
  unique : ∀ key, UniqueIndex (fun r => Incident.active key r = true) s.incidents

/-- An incident that is over stays over, and no incident changes its key. -/
theorem active_of_write {q r : Incident} {key : String} (h : IncidentWrite (some q) (some r))
    (hr : r.active key = true) : q.active key = true := by
  cases h with
  | approval _ now hstate => exact hr
  | move _ now target hadm =>
      simp only [Incident.active, Incident.transitioned, Bool.and_eq_true,
        decide_eq_true_eq] at hr ⊢
      refine ⟨of_decide_eq_true hr.1, ?_⟩
      have hedge := hadm.edge
      cases hstate : q.state with
      | resolved => simp [hstate, IncidentState.transitions] at hedge
      | escalated => simp [hstate, IncidentState.transitions] at hedge
      | rolledback => simp [hstate, IncidentState.transitions] at hedge
      | _ => rfl

theorem ne_empty_of_visible {t : TxId} {c : Cell TxId Incident} {holds : Incident → Prop}
    (h : Indexed holds (c.visible t)) : c ≠ Cell.empty := by
  intro heq
  rw [heq, Cell.visible_empty] at h
  exact not_indexed_none h

/-- Where the database lets a new incident in, nothing is in its way. -/
theorem IndexInv.clear {s : Db} (hinv : IndexInv s) {t : TxId} {key : String}
    (hopen : KeyOpen t key s) (i : Nat) :
    Clear (fun r => Incident.active key r = true) t i s.incidents := by
  have hseen : ∀ j, ¬ Indexed (fun r => Incident.active key r = true)
    ((s.incidents j).visible t) := by
    intro j hj
    have hout := hopen.unseen j (hinv.listed j (ne_empty_of_visible hj))
    obtain ⟨r, hr, hactive⟩ := hj
    rw [hr, Option.any_some, hactive] at hout
    simp at hout
  refine ⟨fun j hj => absurd hj (hseen j), ?_⟩
  intro u j hl hj
  by_cases hu : u = t
  · subst hu
    exact absurd hj (hseen j)
  · have hout := hopen.uncontended j (hinv.listed j (ne_empty_of_visible hj))
    have hheld : (s.incidents j).free t = false := by
      by_contra hfree
      simp only [Bool.not_eq_false] at hfree
      exact Cell.not_locked_of_free hu hfree hl
    -- the newest version of the row is the one that `u` sees
    have hnewest : (s.incidents j).chain.head?.join = (s.incidents j).visible u := by
      rw [Cell.chain_eq_view (Cell.locked_free hl)]
      rfl
    obtain ⟨r, hr, hactive⟩ := hj
    simp [Incident.contended, hheld, hnewest, hr, hactive] at hout

theorem IndexInv.step {p : Nat} {s s' : Db} (hinv : IndexInv s) (h : RepoStep due p s s') :
    IndexInv s' := by
  cases h with
  | idle h =>
      refine ⟨?_, ?_⟩
      · rw [h.incidents, h.incidentIds]
        exact hinv.listed
      · rw [h.incidents]
        exact hinv.unique
  | insert r hnew hunused hopen =>
      refine ⟨?_, ?_⟩
      · intro i hi
        show i ∈ r.id :: s.incidentIds
        by_cases heq : i = r.id
        · rw [heq]
          exact List.mem_cons_self
        · refine List.mem_cons_of_mem _ (hinv.listed i ?_)
          simpa [Db.withIncident, Db.setIncident, Function.update_of_ne heq] using hi
      · intro key
        refine (hinv.unique key).write (hunused.free _) ?_
        intro hactive
        have hkey : r.correlationKey = key := by
          simp only [Incident.active, Bool.and_eq_true, decide_eq_true_eq] at hactive
          exact hactive.1
        rw [← hkey]
        exact hinv.clear hopen r.id
  | update i q r hfree hvis hw =>
      refine ⟨?_, ?_⟩
      · intro j hj
        by_cases heq : j = i
        · rw [heq]
          refine hinv.listed i ?_
          intro hempty
          rw [hempty, Cell.visible_empty] at hvis
          simp at hvis
        · refine hinv.listed j ?_
          simpa [Db.setIncident, Function.update_of_ne heq] using hj
      · intro key
        refine (hinv.unique key).write hfree ?_
        intro hactive
        refine (hinv.unique key).clear hfree ?_
        rw [hvis, indexed_some]
        exact active_of_write hw hactive
  | post o e hunused => exact ⟨hinv.listed, hinv.unique⟩
  | add row => exact ⟨hinv.listed, hinv.unique⟩
  | commit evs hdue =>
      refine ⟨?_, fun key => (hinv.unique key).commit _⟩
      intro i hi
      refine hinv.listed i ?_
      intro hempty
      refine hi ?_
      show (s.incidents i).commit _ = Cell.empty
      rw [hempty]
      rfl
  | rollback =>
      refine ⟨?_, fun key => (hinv.unique key).rollback _⟩
      intro i hi
      refine hinv.listed i ?_
      intro hempty
      refine hi ?_
      show (s.incidents i).rollback _ = Cell.empty
      rw [hempty]
      rfl

theorem IndexInv.crash {s : Db} (hinv : IndexInv s) (p : Nat) : IndexInv (s.crash p) := by
  refine ⟨?_, fun key => ((hinv.unique key).rollback _).rollback _⟩
  intro i hi
  refine hinv.listed i ?_
  intro hempty
  refine hi ?_
  show ((s.incidents i).rollback _).rollback _ = Cell.empty
  rw [hempty]
  rfl

/-! ### The messages -/

/-- A committed message says that the incident was detected. -/
def Tells (s : Db) (o i : Nat) : Prop := ∃ e, some e ∈ (s.outbox o).versions ∧ e.detects i

/-- There is one committed message about each committed incident, and about no other. -/
structure ToldInv (s : Db) : Prop where
  once : ∀ o, Linked Posted (s.outbox o).chain
  told : ∀ i, (s.incidents i).versions ≠ [] → ∃ o, Tells s o i ∧ ∀ o', Tells s o' i → o' = o
  about : ∀ o e, some e ∈ (s.outbox o).versions → e.eventType = "incident.detected" →
    (s.incidents e.aggregateId).versions ≠ [] ∧ e.aggregateVersion = 1

/-- The transaction of `p` has made the incident. -/
def Created (p i : Nat) (s : Db) : Prop :=
  (s.incidents i).own ⟨p, 0⟩ ≠ [] ∧ (s.incidents i).versions = []

/-- The transaction of `p` has posted a message that says that the incident was detected. -/
def TellsOwn (p o i : Nat) (s : Db) : Prop :=
  ∃ e, some e ∈ (s.outbox o).own ⟨p, 0⟩ ∧ e.detects i

/-- The transaction of `p` has posted one message about each incident that it has made, but for
the one that it still owes. -/
structure PaidBut (p : Nat) (owed : Option Nat) (s : Db) : Prop where
  told : ∀ i, Created p i s → owed ≠ some i →
    ∃ o, TellsOwn p o i s ∧ ∀ o', TellsOwn p o' i s → o' = o
  about : ∀ o e, some e ∈ (s.outbox o).own ⟨p, 0⟩ → e.eventType = "incident.detected" →
    Created p e.aggregateId s ∧ e.aggregateVersion = 1
  owing : ∀ i, owed = some i → Created p i s ∧ ∀ o, ¬ TellsOwn p o i s

/-- It owes nothing. -/
def Paid (p : Nat) (s : Db) : Prop := PaidBut p none s

/-- The transaction of `p` has written nothing. -/
structure Untouched (p : Nat) (s : Db) : Prop where
  incidents : ∀ i, (s.incidents i).own ⟨p, 0⟩ = []
  outbox : ∀ o, (s.outbox o).own ⟨p, 0⟩ = []

theorem Untouched.paid {p : Nat} {s : Db} (h : Untouched p s) : Paid p s := by
  refine ⟨?_, ?_, ?_⟩
  · intro i hi
    exact absurd (h.incidents i) hi.1
  · intro o e he
    rw [h.outbox o] at he
    exact absurd he List.not_mem_nil
  · intro i hi
    simp at hi

theorem Tells.of_eq {s s' : Db} {o i : Nat} (h : (s'.outbox o).versions = (s.outbox o).versions) :
    Tells s' o i ↔ Tells s o i := by
  unfold Tells
  rw [h]

/-- What is committed stays as it is. -/
theorem ToldInv.of_same {s s' : Db} (hinv : ToldInv s)
    (honce : ∀ o, Linked Posted (s'.outbox o).chain)
    (hinc : ∀ i, (s'.incidents i).versions = (s.incidents i).versions)
    (hout : ∀ o, (s'.outbox o).versions = (s.outbox o).versions) : ToldInv s' := by
  refine ⟨honce, ?_, ?_⟩
  · intro i hi
    rw [hinc] at hi
    obtain ⟨o, ho, honly⟩ := hinv.told i hi
    refine ⟨o, (Tells.of_eq (hout o)).mpr ho, ?_⟩
    intro o' ho'
    exact honly o' ((Tells.of_eq (hout o')).mp ho')
  · intro o e he hdetected
    rw [hout] at he
    rw [hinc]
    exact hinv.about o e he hdetected

/-- A transaction that owes nothing may commit. -/
theorem ToldInv.commit {p : Nat} {s : Db} (hinv : ToldInv s) (hpaid : Paid p s) :
    ToldInv (s.commit ⟨p, 0⟩) := by
  have hinc : ∀ i, ((s.commit ⟨p, 0⟩).incidents i).versions =
      (s.incidents i).own ⟨p, 0⟩ ++ (s.incidents i).versions := fun i => Cell.commit_versions
  have hout : ∀ o, ((s.commit ⟨p, 0⟩).outbox o).versions =
      (s.outbox o).own ⟨p, 0⟩ ++ (s.outbox o).versions := fun o => Cell.commit_versions
  have htells : ∀ o i, Tells (s.commit ⟨p, 0⟩) o i ↔ TellsOwn p o i s ∨ Tells s o i := by
    intro o i
    unfold Tells TellsOwn
    rw [hout]
    constructor
    · rintro ⟨e, he, hd⟩
      rcases List.mem_append.mp he with he | he
      · exact Or.inl ⟨e, he, hd⟩
      · exact Or.inr ⟨e, he, hd⟩
    · rintro (⟨e, he, hd⟩ | ⟨e, he, hd⟩)
      · exact ⟨e, List.mem_append_left _ he, hd⟩
      · exact ⟨e, List.mem_append_right _ he, hd⟩
  refine ⟨fun o => (Cell.Step.commit (s.outbox o)).linked (hinv.once o), ?_, ?_⟩
  · intro i hi
    by_cases hold : (s.incidents i).versions = []
    · -- the incident is new, and so nobody has told of it before
      have hcreated : Created p i s := by
        refine ⟨?_, hold⟩
        intro hown
        rw [hinc, hown, hold] at hi
        exact hi rfl
      obtain ⟨o, ho, honly⟩ := hpaid.told i hcreated (by simp)
      refine ⟨o, (htells o i).mpr (Or.inl ho), ?_⟩
      intro o' ho'
      rcases (htells o' i).mp ho' with hown | ⟨e, he, hd⟩
      · exact honly o' hown
      · have := (hinv.about o' e he hd.1).1
        rw [hd.2] at this
        exact absurd hold this
    · obtain ⟨o, ho, honly⟩ := hinv.told i hold
      refine ⟨o, (htells o i).mpr (Or.inr ho), ?_⟩
      intro o' ho'
      rcases (htells o' i).mp ho' with ⟨e, he, hd⟩ | hcommitted
      · have := (hpaid.about o' e he hd.1).1
        rw [hd.2] at this
        exact absurd this.2 hold
      · exact honly o' hcommitted
  · intro o e he hdetected
    rw [hout] at he
    rw [hinc]
    rcases List.mem_append.mp he with hown | hcommitted
    · obtain ⟨hcreated, hversion⟩ := hpaid.about o e hown hdetected
      exact ⟨fun hnil => hcreated.1 (List.append_eq_nil_iff.mp hnil).1, hversion⟩
    · obtain ⟨hversions, hversion⟩ := hinv.about o e hcommitted hdetected
      exact ⟨fun hnil => hversions (List.append_eq_nil_iff.mp hnil).2, hversion⟩

theorem ToldInv.step {p : Nat} {s s' : Db} (hinv : ToldInv s) (h : RepoStep Paid p s s') :
    ToldInv s' := by
  have honce : ∀ o, Linked Posted (s'.outbox o).chain := fun o =>
    (h.message o).linked (hinv.once o)
  cases h with
  | idle h =>
      refine hinv.of_same honce (fun i => ?_) (fun o => ?_)
      · rw [h.incidents]
      · rw [h.outbox]
  | insert r hnew hunused hopen =>
      refine hinv.of_same honce (fun i => ?_) (fun _ => rfl)
      by_cases hi : i = r.id
      · subst hi
        simp [Db.withIncident, Db.setIncident]
      · simp [Db.withIncident, Db.setIncident, Function.update_of_ne hi]
  | update i q r hfree hvis hw =>
      refine hinv.of_same honce (fun j => ?_) (fun _ => rfl)
      by_cases hj : j = i
      · subst hj
        simp [Db.setIncident]
      · simp [Db.setIncident, Function.update_of_ne hj]
  | post o e hunused =>
      refine hinv.of_same honce (fun _ => rfl) (fun o' => ?_)
      by_cases ho : o' = o
      · subst ho
        simp [Db.setOutbox]
      · simp [Db.setOutbox, Function.update_of_ne ho]
  | add row => exact hinv.of_same honce (fun _ => rfl) (fun _ => rfl)
  | commit evs hdue =>
      exact (hinv.commit hdue).of_same honce (fun _ => rfl) (fun _ => rfl)
  | rollback =>
      exact hinv.of_same honce (fun _ => Cell.rollback_versions) (fun _ => Cell.rollback_versions)

theorem ToldInv.crash {s : Db} (hinv : ToldInv s) (p : Nat) : ToldInv (s.crash p) := by
  have hback : ∀ {V : Type} (c : Cell TxId V),
      ((c.rollback ⟨p, 0⟩).rollback ⟨p, 1⟩).versions = c.versions := by
    intro V c
    rw [Cell.rollback_versions, Cell.rollback_versions]
  refine hinv.of_same (fun o => ?_) (fun _ => hback _) (fun _ => hback _)
  have h0 : Linked Posted ((s.outbox o).rollback ⟨p, 0⟩).chain :=
    (Cell.Step.rollback (s.outbox o)).linked (hinv.once o)
  exact (Cell.Step.rollback (W := Posted) _).linked h0

/-! ### What a transaction owes

Between the insert of an incident and the message about it the transaction is in debt.  It does not
commit then, as the message comes next; and what it has done to other rows meanwhile does not
change what it owes.  With the commit both become visible together.
-/

theorem locked_of_own {V : Type} {t : TxId} {c : Cell TxId V} (h : c.own t ≠ []) : c.locked t := by
  by_contra hl
  exact h (Cell.own_eq_nil_of_not_locked hl)

/-- What the transaction has made, and which messages about incidents it has posted, decides what
it owes. -/
theorem PaidBut.congr {p : Nat} {owed : Option Nat} {s s' : Db} (h : PaidBut p owed s)
    (hcreated : ∀ i, Created p i s' ↔ Created p i s)
    (hown : ∀ o e, e.eventType = "incident.detected" →
      (some e ∈ (s'.outbox o).own ⟨p, 0⟩ ↔ some e ∈ (s.outbox o).own ⟨p, 0⟩)) :
    PaidBut p owed s' := by
  have htells : ∀ o i, TellsOwn p o i s' ↔ TellsOwn p o i s := by
    intro o i
    constructor
    · rintro ⟨e, he, hd⟩
      exact ⟨e, (hown o e hd.1).mp he, hd⟩
    · rintro ⟨e, he, hd⟩
      exact ⟨e, (hown o e hd.1).mpr he, hd⟩
  refine ⟨?_, ?_, ?_⟩
  · intro i hi howed
    obtain ⟨o, ho, honly⟩ := h.told i ((hcreated i).mp hi) howed
    exact ⟨o, (htells o i).mpr ho, fun o' ho' => honly o' ((htells o' i).mp ho')⟩
  · intro o e he hd
    obtain ⟨hc, hv⟩ := h.about o e ((hown o e hd).mp he) hd
    exact ⟨(hcreated _).mpr hc, hv⟩
  · intro i hi
    obtain ⟨hc, hnone⟩ := h.owing i hi
    exact ⟨(hcreated i).mpr hc, fun o ho => hnone o ((htells o i).mp ho)⟩

theorem Aside.created {p : Nat} {s s' : Db} (h : Aside p s s') (i : Nat) :
    Created p i s' ↔ Created p i s := by
  unfold Created
  rw [(h.incidents i).own_eq (t := ⟨p, 0⟩) rfl]
  refine and_congr_right ?_
  intro hown
  rw [(h.incidents i).eq_of_locked (t := ⟨p, 0⟩) rfl (locked_of_own hown)]

theorem PaidBut.aside {p : Nat} {owed : Option Nat} {s s' : Db} (h : PaidBut p owed s)
    (ha : Aside p s s') : PaidBut p owed s' := by
  refine h.congr ha.created ?_
  intro o e _
  rw [(ha.outbox o).own_eq (t := ⟨p, 0⟩) rfl]

theorem onRows_paidBut (p : Nat) (owed : Option Nat) : OnRows (PaidBut p owed) := by
  intro s s' hsame h
  refine h.congr (fun i => ?_) (fun o e _ => ?_)
  · unfold Created
    rw [hsame.incidents]
  · rw [hsame.outbox]

theorem PaidBut.add {p : Nat} {owed : Option Nat} {s : Db} (h : PaidBut p owed s) (row : NewRow) :
    PaidBut p owed (s.add ⟨p, 0⟩ row) := h.congr (fun _ => Iff.rfl) (fun _ _ _ => Iff.rfl)

/-- A move of an incident makes none. -/
theorem PaidBut.update {p : Nat} {owed : Option Nat} {s : Db} {i : Nat} {q r : Incident}
    (h : PaidBut p owed s) (hvis : (s.incidents i).visible ⟨p, 0⟩ = some q) :
    PaidBut p owed (s.setIncident i ((s.incidents i).write ⟨p, 0⟩ (some r))) := by
  refine h.congr (fun j => ?_) (fun _ _ _ => Iff.rfl)
  by_cases hj : j = i
  · subst hj
    unfold Created
    simp only [Db.setIncident, Function.update_self, Cell.own_write, Cell.write_versions]
    constructor
    · rintro ⟨-, hnil⟩
      refine ⟨?_, hnil⟩
      intro hown
      simp [Cell.visible, Cell.view, hown, hnil] at hvis
    · rintro ⟨-, hnil⟩
      exact ⟨by simp, hnil⟩
  · unfold Created
    simp only [Db.setIncident, Function.update_of_ne hj]

/-- What the transaction has posted, after one more message. -/
theorem mem_own_post {p o : Nat} {s : Db} {e : OutboxEvent} (o' : Nat) (e' : OutboxEvent) :
    some e' ∈ ((s.setOutbox o ((s.outbox o).write ⟨p, 0⟩ (some e))).outbox o').own ⟨p, 0⟩ ↔
      (o' = o ∧ e' = e) ∨ some e' ∈ (s.outbox o').own ⟨p, 0⟩ := by
  by_cases ho : o' = o
  · subst ho
    simp [Db.setOutbox]
  · simp [Db.setOutbox, ho]

theorem PaidBut.post_other {p o : Nat} {owed : Option Nat} {s : Db} {e : OutboxEvent}
    (h : PaidBut p owed s) (he : e.eventType ≠ "incident.detected") :
    PaidBut p owed (s.setOutbox o ((s.outbox o).write ⟨p, 0⟩ (some e))) := by
  refine h.congr (fun _ => Iff.rfl) (fun o' e' he' => ?_)
  rw [mem_own_post]
  constructor
  · rintro (⟨-, rfl⟩ | hmem)
    · exact absurd he' he
    · exact hmem
  · exact Or.inr

/-- Having made an incident, the transaction owes a message about it. -/
theorem Paid.insert {p : Nat} {s : Db} {r : Incident} (h : Paid p s) (hunused : Unused p r.id s) :
    PaidBut p (some r.id) (s.withIncident ⟨p, 0⟩ r) := by
  have hcreated : ∀ i, Created p i (s.withIncident ⟨p, 0⟩ r) ↔ i = r.id ∨ Created p i s := by
    intro i
    unfold Created
    by_cases hi : i = r.id
    · subst hi
      simp [Db.withIncident, Db.setIncident, hunused.incident, Cell.empty]
    · simp [Db.withIncident, Db.setIncident, hi]
  refine ⟨?_, ?_, ?_⟩
  · intro i hi howed
    rcases (hcreated i).mp hi with heq | hold
    · exact absurd (by rw [heq]) howed
    · exact h.told i hold (by simp)
  · intro o e he hd
    obtain ⟨hc, hv⟩ := h.about o e he hd
    exact ⟨(hcreated _).mpr (Or.inr hc), hv⟩
  · intro i hi
    simp only [Option.some.injEq] at hi
    refine ⟨(hcreated i).mpr (Or.inl hi.symm), ?_⟩
    rintro o ⟨e, he, hd⟩
    have hmade := (h.about o e he hd.1).1.1
    rw [hd.2, ← hi, hunused.incident] at hmade
    exact hmade rfl

/-- And posting it, owes nothing more. -/
theorem PaidBut.post {p i o : Nat} {s : Db} {e : OutboxEvent} (h : PaidBut p (some i) s)
    (hdetects : e.detects i) (hversion : e.aggregateVersion = 1) :
    Paid p (s.setOutbox o ((s.outbox o).write ⟨p, 0⟩ (some e))) := by
  obtain ⟨hmade, hnone⟩ := h.owing i rfl
  have htells : ∀ o' j, TellsOwn p o' j (s.setOutbox o ((s.outbox o).write ⟨p, 0⟩ (some e))) ↔
      (o' = o ∧ j = i) ∨ TellsOwn p o' j s := by
    intro o' j
    unfold TellsOwn
    constructor
    · rintro ⟨e', he', hd⟩
      rcases (mem_own_post o' e').mp he' with ⟨ho, heq⟩ | hmem
      · refine Or.inl ⟨ho, ?_⟩
        rw [heq] at hd
        rw [← hd.2, ← hdetects.2]
      · exact Or.inr ⟨e', hmem, hd⟩
    · rintro (⟨ho, hj⟩ | ⟨e', hmem, hd⟩)
      · rw [hj]
        exact ⟨e, (mem_own_post o' e).mpr (Or.inl ⟨ho, rfl⟩), hdetects⟩
      · exact ⟨e', (mem_own_post o' e').mpr (Or.inr hmem), hd⟩
  refine ⟨?_, ?_, ?_⟩
  · intro j hj _
    by_cases heq : j = i
    · refine ⟨o, (htells o j).mpr (Or.inl ⟨rfl, heq⟩), ?_⟩
      intro o' ho'
      rcases (htells o' j).mp ho' with ⟨ho, -⟩ | hold
      · exact ho
      · rw [heq] at hold
        exact absurd hold (hnone o')
    · obtain ⟨o₁, ho₁, honly⟩ := h.told j hj (by simpa using fun hc => heq hc.symm)
      refine ⟨o₁, (htells o₁ j).mpr (Or.inr ho₁), ?_⟩
      intro o' ho'
      rcases (htells o' j).mp ho' with ⟨-, hji⟩ | hold
      · exact absurd hji heq
      · exact honly o' hold
  · intro o' e' he' hd
    rcases (mem_own_post o' e').mp he' with ⟨-, heq⟩ | hmem
    · rw [heq, hdetects.2]
      exact ⟨hmade, hversion⟩
    · exact h.about o' e' hmem hd
  · intro j hj
    simp at hj

/-! ### Any number of transactions -/

/-- What holds of the tables, whoever is ingesting. -/
structure IngestInv (s : Db) : Prop where
  repo : RepoInv s
  index : IndexInv s
  told : ToldInv s

/-- Transactions that ingest events or move incidents, and owe nothing when they commit. -/
def ingestionProtocol : Protocol World IngestionTx Nat Db where
  machine := ingestionMachine
  guar := RepoStep Paid
  inv := IngestInv
  inv_guar := fun _ _ _ hinv hstep _ =>
    ⟨hinv.repo.step hstep, hinv.index.step hstep, hinv.told.step hstep⟩
  inv_crash := fun p _ hinv => ⟨hinv.repo.crash p, hinv.index.crash p, hinv.told.crash p⟩
  inv_env := by
    intro elapsed s s' hinv henv _
    simp only [ingestionMachine, Option.some.injEq] at henv
    rw [← henv]
    exact ⟨⟨hinv.repo.drawn, hinv.repo.fresh, hinv.repo.rising⟩,
      ⟨hinv.index.listed, hinv.index.unique⟩, ⟨hinv.told.once, hinv.told.told, hinv.told.about⟩⟩

theorem isRepoProtocol_ingestion : IsRepoProtocol Paid ingestionProtocol where
  guar := fun _ _ _ h => h
  inv := fun _ h => h.repo
  others := by
    intro p s s' hinv hother
    cases hother with
    | proc q hq hact hadm => exact RepoStep.aside hq hinv.repo hact
    | crash q _ hq => exact aside_crash hq s
    | env elapsed henv hadm =>
        simp only [ingestionProtocol, ingestionMachine, Option.some.injEq] at henv
        rw [← henv]
        exact Idle.aside (q := p) hinv.repo ⟨⟨rfl, rfl, rfl, rfl, rfl, rfl⟩, Or.inl ⟨rfl, rfl⟩⟩

section Programs

variable {p : Nat}

theorem stable_paidBut (owed : Option Nat) : ingestionProtocol.Stable p (PaidBut p owed) :=
  fun s s' hinv h hother => h.aside (isRepoProtocol_ingestion.others p s s' hinv hother)

theorem stable_untouched : ingestionProtocol.Stable p (Untouched p) := by
  intro s s' hinv h hother
  have ha := isRepoProtocol_ingestion.others p s s' hinv hother
  refine ⟨fun i => ?_, fun o => ?_⟩
  · rw [(ha.incidents i).own_eq (t := ⟨p, 0⟩) rfl]
    exact h.incidents i
  · rw [(ha.outbox o).own_eq (t := ⟨p, 0⟩) rfl]
    exact h.outbox o

theorem lasting_paid : Lasting ingestionProtocol p (Paid p) where
  stable := stable_paidBut none
  rows := onRows_paidBut p none
  update := fun _ _ _ _ _ h _ hvis _ => h.update hvis
  post := by
    intro s o e _ h _ he
    refine PaidBut.post_other h ?_
    rw [he]
    decide

/-- Storing an event leaves incidents and messages alone. -/
theorem storeEvent_triple {R : Db → Prop} (hst : ingestionProtocol.Stable p R) (hR : OnRows R)
    (actor : String) (event : NormalizedEventPayload) :
    ingestionProtocol.Triple p R (storeEvent ⟨p, 0⟩ actor event) (fun _ => R) (fun _ => R) := by
  have hP := isRepoProtocol_ingestion
  unfold storeEvent
  by_cases hdigest : isDigest event.fingerprint = false
  · rw [if_pos hdigest]
    exact triple_throw_bind (fun _ _ h => h)
  rw [if_neg hdigest]
  refine Triple.bind (M := fun _ => R) ((repo_uuid4 hP hst hR).conseq (fun _ _ h => h)
    (fun _ _ _ h => h.1) (fun _ _ _ h => h)) (fun id => ?_)
  refine Triple.bind (M := fun _ => R) (repo_idle hP hst hR ?_) (fun inserted => ?_)
  · intro s r s' hf
    simp only at hf
    split at hf
    · split at hf
      · simp only [Option.some.injEq, Prod.mk.injEq] at hf
        rw [← hf.2]
        exact ⟨SameRows.refl s, rfl, rfl⟩
      · simp only [Option.some.injEq, Prod.mk.injEq] at hf
        rw [← hf.2]
        exact ⟨⟨rfl, rfl, rfl, rfl, rfl, rfl⟩, rfl, rfl⟩
    · simp at hf
  cases inserted with
  | some record => exact triple_pure record (fun _ _ h => h)
  | none =>
      refine Triple.bind (M := fun _ => R) ((repo_select hP hst).conseq (fun _ _ h => h)
        (fun _ _ _ h => h.1) (fun _ _ _ h => h)) (fun existing => ?_)
      cases existing with
      | some record => exact triple_pure record (fun _ _ h => h)
      | none => exact triple_throw _ (fun _ _ h => h)

theorem linkEvent_triple (owed : Option Nat) (incidentId eventId : Nat) :
    ingestionProtocol.Triple p (PaidBut p owed) (linkEvent ⟨p, 0⟩ incidentId eventId)
      (fun _ => PaidBut p owed) (fun _ _ => True) := by
  refine triple_sql (stable_paidBut owed) (fun s _ _ => .idle (Idle.refl p s))
    (fun _ _ _ => trivial) ?_
  intro s r s' _ h hf _
  simp only [Option.some.injEq, Prod.mk.injEq] at hf
  obtain ⟨rfl, rfl⟩ := hf
  exact ⟨.add s _, h.add _⟩

/-- The message pays what was owed. -/
theorem addOutbox_triple (actor : String) (incident : Incident) (eventId : Nat)
    (hversion : incident.version = 1) :
    ingestionProtocol.Triple p (PaidBut p (some incident.id))
      (addOutbox ⟨p, 0⟩ actor (incident.detectedEvent eventId)) (fun _ => Paid p)
      (fun _ _ => True) := by
  have hP := isRepoProtocol_ingestion
  unfold addOutbox
  refine Triple.bind ((repo_uuid4 hP (stable_paidBut _) (onRows_paidBut p _)).conseq
    (fun _ _ h => h) (fun _ _ _ h => h) (fun _ _ _ _ => trivial)) (fun o => ?_)
  refine (insertOutboxEvent_triple hP (Q := Paid p) (stable_paidBut _) ?_).conseq
    (fun _ _ h => h) (fun _ _ _ h => h) (fun _ _ _ _ => trivial)
  intro s _ h _
  exact h.post ⟨rfl, rfl⟩ hversion

/-- **`ingest_event`** posts one message about each incident that it makes. -/
theorem ingestEvent_triple (actor : String) (event : NormalizedEventPayload) :
    ingestionProtocol.Triple p (Paid p) (ingestEvent ⟨p, 0⟩ actor event) (fun _ => Paid p)
      (fun _ _ => True) := by
  have hP := isRepoProtocol_ingestion
  have hrows : OnRows (Paid p) := onRows_paidBut p none
  have hst : ingestionProtocol.Stable p (Paid p) := stable_paidBut none
  have hlink : ∀ i e, ingestionProtocol.Triple p (Paid p) (linkEvent ⟨p, 0⟩ i e) (fun _ => Paid p)
      (fun _ _ => True) := linkEvent_triple none
  unfold ingestEvent
  refine Triple.bind ((storeEvent_triple hst hrows actor event).conseq (fun _ _ h => h)
    (fun _ _ _ h => h) (fun _ _ _ _ => trivial)) (fun record => ?_)
  by_cases hfiring : event.status ≠ "firing"
  · simp only [if_pos hfiring]
    refine Triple.bind (M := fun _ => Paid p) ((repo_select hP hst).conseq (fun _ _ h => h)
      (fun _ _ _ h => h.1) (fun _ _ _ _ => trivial)) (fun active => ?_)
    cases active with
    | some incident =>
        exact Triple.bind (hlink _ _) (fun _ => triple_pure _ (fun _ _ h => h))
    | none => exact triple_pure _ (fun _ _ h => h)
  · simp only [if_neg hfiring]
    refine Triple.bind ((getOrCreateIncident_triple hP
      (Q := fun r s => PaidBut p (some r.id) s ∧ r.version = 1) event.resourceId _ event.severity
      false hst hrows ?_).conseq (fun _ _ h => h) (fun _ _ _ h => h) (fun _ _ _ _ => trivial))
      (fun result => ?_)
    · intro s r _ h hunused _ hnew _
      cases hnew with
      | create _ hstate hversion hattempts => exact ⟨h.insert hunused, hversion⟩
    obtain ⟨incident, wasCreated⟩ := result
    cases wasCreated with
    | false =>
        simp only [Bool.false_eq_true, if_false]
        exact Triple.bind (hlink _ _) (fun _ => triple_pure _ (fun _ _ h => h))
    | true =>
        simp only [if_true]
        intro s hinv h
        refine Triple.bind (linkEvent_triple (some incident.id) _ _) (fun _ => ?_) s hinv h.1
        exact Triple.bind (addOutbox_triple actor incident record.id h.2)
          (fun _ => triple_pure _ (fun _ _ h => h))

theorem ingestEvents_triple (actor : String) (events : List NormalizedEventPayload) :
    ingestionProtocol.Triple p (Paid p) (ingestEvents ⟨p, 0⟩ actor events) (fun _ => Paid p)
      (fun _ _ => True) := by
  induction events with
  | nil => exact triple_pure () (fun _ _ h => h)
  | cons event rest ih =>
      unfold ingestEvents
      exact Triple.bind (ingestEvent_triple actor event) (fun _ => ih)

theorem moves_triple (actor : String) (calls : List (IncidentMove × Bool)) :
    ingestionProtocol.Triple p (Paid p)
      (runCalls ⟨p, 0⟩ actor (calls.map fun (m, caught) => (m.call, caught))) (fun _ => Paid p)
      (fun _ => Paid p) := by
  have hP := isRepoProtocol_ingestion
  induction calls with
  | nil => exact triple_pure () (fun _ _ h => h)
  | cons head rest ih =>
      obtain ⟨m, caught⟩ := head
      have hcall : ingestionProtocol.Triple p (Paid p) (m.call.prog ⟨p, 0⟩ actor)
          (fun _ => Paid p) (fun _ => Paid p) := by
        cases m with
        | requireApproval i v => exact requireIncidentApproval_lasts hP lasting_paid i v
        | transition i v target => exact transition_lasts hP lasting_paid actor i v target
      rw [List.map_cons]
      unfold runCalls
      refine Triple.bind (Triple.handle (M := fun _ => Paid p) ?_ ?_) (fun _ => ih)
      · exact Triple.bind hcall (fun _ => triple_pure () (fun _ _ h => h))
      · intro e
        cases caught with
        | true => exact triple_pure () (fun _ _ h => h)
        | false => exact triple_throw e (fun _ _ h => h)

/-- A block, from beginning to end. -/
theorem ingestion_unitOfWork {actor : String} {body : Prog Unit}
    (hbody : ingestionProtocol.Triple p (Paid p) body (fun _ => Paid p) (fun _ _ => True)) :
    ingestionProtocol.Triple p (Untouched p) (unitOfWork ⟨p, 0⟩ actor body)
      (fun _ => Untouched p) (fun _ => Untouched p) := by
  refine repo_unitOfWork isRepoProtocol_ingestion stable_untouched ?_ (stable_paidBut none)
    (fun _ _ h => h) (hbody.pre (fun _ _ h => h.paid)) ?_ ?_ (fun _ _ h => h)
  · intro s s' hsame h
    refine ⟨?_, ?_⟩
    · rw [hsame.incidents]
      exact h.incidents
    · rw [hsame.outbox]
      exact h.outbox
  · exact fun s evs _ _ => ⟨fun i => Cell.own_commit, fun o => Cell.own_commit⟩
  · exact fun s _ => ⟨fun i => Cell.own_rollback, fun o => Cell.own_rollback⟩

end Programs

/-- Every transaction ends with nothing open. -/
theorem ingestionProtocol_rests : ingestionProtocol.RestsIn Untouched where
  stable := fun p => stable_untouched
  crash := by
    intro p s _
    exact ⟨fun i => own_crash p _, fun o => own_crash p _⟩
  safe := by
    intro p tx s hinv hrest _
    refine triple_ends ?_ hinv hrest
    cases tx with
    | ingest actor events raises =>
        refine ingestion_unitOfWork ?_
        refine Triple.bind (ingestEvents_triple actor events) (fun _ => ?_)
        cases raises with
        | some e => exact triple_throw e (fun _ _ _ => trivial)
        | none => exact triple_pure () (fun _ _ h => h)
    | move actor calls raises =>
        refine ingestion_unitOfWork ?_
        refine Triple.bind ((moves_triple actor calls).conseq (fun _ _ h => h) (fun _ _ _ h => h)
          (fun _ _ _ _ => trivial)) (fun _ => ?_)
        cases raises with
        | some e => exact triple_throw e (fun _ _ _ => trivial)
        | none => exact triple_pure () (fun _ _ h => h)

/-! ### Events that are not firing -/

/-- No incident is made, and none is written. -/
def SameIncidents (s s' : Db) : Prop :=
  s'.incidents = s.incidents ∧ s'.incidentIds = s.incidentIds

theorem SameIncidents.refl (s : Db) : SameIncidents s s := ⟨rfl, rfl⟩

theorem within_storeEvent (t : TxId) (actor : String) (event : NormalizedEventPayload) :
    Within SameIncidents (storeEvent t actor event) := by
  have hdraw : Within SameIncidents (uuid4 t.pid) := by
    refine within_stmt ?_
    intro w s r s' hf
    simp only [Option.some.injEq, Prod.mk.injEq] at hf
    rw [← hf.2]
    exact ⟨rfl, rfl⟩
  have hinsert : ∀ record, Within SameIncidents (insertEvent t event.key record) := by
    intro record
    refine sql_within SameIncidents.refl ?_
    intro s r s' hf
    simp only at hf
    split at hf
    · split at hf
      · simp only [Option.some.injEq, Prod.mk.injEq] at hf
        rw [← hf.2]
        exact ⟨rfl, rfl⟩
      · simp only [Option.some.injEq, Prod.mk.injEq] at hf
        rw [← hf.2]
        exact ⟨rfl, rfl⟩
    · simp at hf
  unfold storeEvent
  by_cases hdigest : isDigest event.fingerprint = false
  · rw [if_pos hdigest]
    exact ⟨trivial⟩
  rw [if_neg hdigest]
  refine hdraw.bind (fun id => (hinsert _).bind (fun inserted => ?_))
  cases inserted with
  | some record => exact within_pure record
  | none =>
      refine (select_within SameIncidents.refl _).bind (fun existing => ?_)
      cases existing with
      | some record => exact within_pure record
      | none => exact within_throw _

/-- **An event that is not firing** makes no incident, at whatever point others step in. -/
theorem within_ingestEvent (t : TxId) (actor : String) {event : NormalizedEventPayload}
    (h : event.status ≠ "firing") : Within SameIncidents (ingestEvent t actor event) := by
  unfold ingestEvent
  refine (within_storeEvent t actor event).bind (fun record => ?_)
  simp only [if_pos h]
  refine (select_within SameIncidents.refl _).bind (fun active => ?_)
  cases active with
  | none => exact within_pure _
  | some incident =>
      refine Within.bind (sql_within SameIncidents.refl ?_) (fun _ => within_pure _)
      intro s r s' hf
      simp only [Option.some.injEq, Prod.mk.injEq] at hf
      rw [← hf.2]
      exact ⟨rfl, rfl⟩

/-! ### Every run -/

/-- Any incidents and messages that were made in this way, with nothing under way; identifiers
that are still to be drawn are not in use. -/
structure Db.Settled (db : Db) : Prop where
  incidents : ∀ i, db.incidents i = Cell.empty ∨ ∃ row, db.incidents i = Cell.ofRow row
  outbox : ∀ o, db.outbox o = Cell.empty ∨ ∃ row, db.outbox o = Cell.ofRow row
  listed : ∀ i, db.incidents i ≠ Cell.empty → i ∈ db.incidentIds
  fresh : ∀ id, db.nextId ≤ id → db.incidents id = Cell.empty ∧ db.outbox id = Cell.empty
  drawn : ∀ id q, db.drawnBy id = some q → id < db.nextId
  single : ∀ key i j r q, db.incident i = some r → db.incident j = some q →
    r.active key = true → q.active key = true → i = j
  told : ∀ i r, db.incident i = some r → ∃ o e, db.message o = some e ∧ e.detects i ∧
    ∀ o' e', db.message o' = some e' → e'.detects i → o' = o
  about : ∀ o e, db.message o = some e → e.eventType = "incident.detected" →
    e.aggregateVersion = 1 ∧ ∃ r, db.incident e.aggregateId = some r

/-- A cell with nothing under way. -/
theorem settled_cell {V : Type} {c : Cell TxId V} (h : c = Cell.empty ∨ ∃ row, c = Cell.ofRow row) :
    c.pending = none ∧ ∀ v, some v ∈ c.versions ↔ c.committed = some v := by
  rcases h with rfl | ⟨row, rfl⟩
  · refine ⟨rfl, ?_⟩
    intro v
    simp [Cell.empty, Cell.committed]
  · refine ⟨rfl, ?_⟩
    intro v
    simp [Cell.ofRow, Cell.committed, eq_comm]

theorem visible_of_settled {V : Type} {c : Cell TxId V} (h : c.pending = none) (t : TxId) :
    c.visible t = c.committed := by
  refine Cell.visible_of_not_locked ?_
  rintro ⟨vs, hvs⟩
  rw [h] at hvs
  simp at hvs

theorem Db.Settled.untouched {db : Db} (h : db.Settled) (p : Nat) : Untouched p db := by
  have hown : ∀ {V : Type} {c : Cell TxId V}, c.pending = none → c.own ⟨p, 0⟩ = [] := by
    intro V c hc
    unfold Cell.own
    rw [hc]
  exact ⟨fun i => hown (settled_cell (h.incidents i)).1,
    fun o => hown (settled_cell (h.outbox o)).1⟩

theorem Db.Settled.indexInv {db : Db} (h : db.Settled) : IndexInv db := by
  refine ⟨h.listed, ?_⟩
  intro key
  have hsingle : ∀ i j, Indexed (fun r => Incident.active key r = true) (db.incidents i).committed →
      Indexed (fun r => Incident.active key r = true) (db.incidents j).committed → i = j := by
    rintro i j ⟨r, hr, hactive⟩ ⟨q, hq, hactive'⟩
    exact h.single key i j r q hr hq hactive hactive'
  have hvisible : ∀ i t, (db.incidents i).visible t = (db.incidents i).committed := fun i t =>
    visible_of_settled (settled_cell (h.incidents i)).1 t
  refine ⟨hsingle, ?_, ?_⟩
  · intro t i j hi hj
    rw [hvisible] at hi hj
    exact hsingle i j hi hj
  · intro t u i j _ _ hi hj
    rw [hvisible] at hi hj
    exact hsingle i j hi hj

theorem Db.Settled.repoInv {db : Db} (h : db.Settled) : RepoInv db := by
  refine ⟨h.drawn, h.fresh, ?_⟩
  intro i
  rcases h.incidents i with heq | ⟨row, heq⟩
  · rw [heq]
    trivial
  · rw [heq]
    exact ⟨by simp [Rises, rowRank], trivial⟩

theorem Db.Settled.toldInv {db : Db} (h : db.Settled) : ToldInv db := by
  have hmessage : ∀ o e, some e ∈ (db.outbox o).versions ↔ db.message o = some e := fun o =>
    (settled_cell (h.outbox o)).2
  refine ⟨?_, ?_, ?_⟩
  · intro o
    rcases h.outbox o with heq | ⟨row, heq⟩
    · rw [heq]
      trivial
    · rw [heq]
      exact ⟨⟨rfl, by simp⟩, trivial⟩
  · intro i hi
    have hrow : ∃ r, db.incident i = some r := by
      rcases h.incidents i with heq | ⟨row, heq⟩
      · rw [heq] at hi
        exact absurd rfl hi
      · exact ⟨row, by rw [Db.incident, heq]; rfl⟩
    obtain ⟨r, hr⟩ := hrow
    obtain ⟨o, e, he, hd, honly⟩ := h.told i r hr
    refine ⟨o, ⟨e, (hmessage o e).mpr he, hd⟩, ?_⟩
    rintro o' ⟨e', he', hd'⟩
    exact honly o' e' ((hmessage o' e').mp he') hd'
  · intro o e he hd
    obtain ⟨hversion, r, hr⟩ := h.about o e ((hmessage o e).mp he) hd
    refine ⟨?_, hversion⟩
    intro hnil
    simp [Db.incident, Cell.committed, hnil] at hr

/-- The only version of a message is the one that everybody sees. -/
theorem message_of_mem {s : Db} (h : ToldInv s) {o : Nat} {e : OutboxEvent}
    (he : some e ∈ (s.outbox o).versions) : s.message o = some e := by
  have hlinked := (h.once o).suffix (Cell.versions_suffix_chain _)
  unfold Db.message Cell.committed
  cases hl : (s.outbox o).versions with
  | nil =>
      rw [hl] at he
      exact absurd he List.not_mem_nil
  | cons v rest =>
      rw [hl] at he hlinked
      have hrest : rest = [] := by
        cases rest with
        | nil => rfl
        | cons w more =>
            have hw : w ≠ none := hlinked.2.1.2
            exact absurd hlinked.1.1 hw
      rw [hrest, List.mem_singleton] at he
      rw [← he]
      rfl

/-- An incident that was ever committed is there. -/
theorem incident_of_versions {s : Db} (h : RepoInv s) {i : Nat}
    (hi : (s.incidents i).versions ≠ []) : ∃ r, s.incident i = some r := by
  have hlinked := (h.rising i).suffix (Cell.versions_suffix_chain _)
  unfold Db.incident Cell.committed
  cases hl : (s.incidents i).versions with
  | nil => exact absurd hl hi
  | cons v rest =>
      rw [hl] at hlinked
      cases v with
      | none => exact absurd hlinked.1 (by simp [Rises, rowRank])
      | some r => exact ⟨r, rfl⟩

/-- **One open incident for each key.**  Whatever transactions ingest events and move incidents at
the same time, no two committed incidents are open under one key; there is one committed message
about each committed incident, of version 1, and none without its incident; and an event that is
not firing makes no incident. -/
theorem single_active_incident (db₀ : Db) (h₀ : db₀.Settled) :
    (∀ c, Reaches ingestionMachine (Config.idle db₀) c →
      (∀ key i j r q, c.state.incident i = some r → c.state.incident j = some q →
        r.active key = true → q.active key = true → i = j) ∧
      (∀ i r, c.state.incident i = some r → ∃ o e, c.state.message o = some e ∧ e.detects i ∧
        e.aggregateVersion = 1 ∧ ∀ o' e', c.state.message o' = some e' → e'.detects i → o' = o) ∧
      (∀ o e, c.state.message o = some e → e.eventType = "incident.detected" →
        ∃ r, c.state.incident e.aggregateId = some r)) ∧
    (∀ (t : TxId) (actor : String) (event : NormalizedEventPayload), event.status ≠ "firing" →
      Within SameIncidents (ingestEvent t actor event)) := by
  refine ⟨?_, fun t actor event h => within_ingestEvent t actor h⟩
  intro c hr
  have hinv : IngestInv c.state := ingestionProtocol_rests.inv_of_reaches
    ⟨h₀.repoInv, h₀.indexInv, h₀.toldInv⟩ h₀.untouched hr
  refine ⟨?_, ?_, ?_⟩
  · intro key i j r q hi hj hri hqj
    exact (hinv.index.unique key).committed i j ⟨r, hi, hri⟩ ⟨q, hj, hqj⟩
  · intro i r hi
    have hversions : (c.state.incidents i).versions ≠ [] := by
      intro hnil
      simp [Db.incident, Cell.committed, hnil] at hi
    obtain ⟨o, ⟨e, he, hd⟩, honly⟩ := hinv.told.told i hversions
    refine ⟨o, e, message_of_mem hinv.told he, hd, (hinv.told.about o e he hd.1).2, ?_⟩
    intro o' e' he' hd'
    exact honly o' ⟨e', Cell.committed_mem he', hd'⟩
  · intro o e he hd
    exact incident_of_versions hinv.repo (hinv.told.about o e (Cell.committed_mem he) hd).1

theorem settled_init (now : Int) : (Db.init now).Settled where
  incidents := fun _ => Or.inl rfl
  outbox := fun _ => Or.inl rfl
  listed := fun _ h => absurd rfl h
  fresh := fun _ _ => ⟨rfl, rfl⟩
  drawn := fun _ _ h => by simp [Db.init] at h
  single := fun _ _ _ _ _ h => by simp [Db.incident, Db.init] at h
  told := fun _ _ h => by simp [Db.incident, Db.init] at h
  about := fun _ _ h => by simp [Db.message, Db.init] at h

/-- Two sources report the same failure at once: one opens the incident, and the other waits for
it to commit. -/
theorem single_active_incident_reported_twice :
    ∃ c, Reaches ingestionMachine (Config.idle (Db.init 0)) c ∧
      c.state.incidentIds = [2] ∧ c.state.links = [⟨2, 1⟩, ⟨2, 0⟩] ∧
      (c.state.incident 2).isSome = true ∧
      ∀ r, c.state.incident 2 = some r → ∃ o e, c.state.message o = some e ∧ e.detects 2 ∧
        e.aggregateVersion = 1 := by
  obtain ⟨c, hr, htest⟩ := Machine.reaches_of_exec ingestionMachine (Config.idle (Db.init 0))
    ([.start 0 (.ingest "webhook:alertmanager"
        [⟨.alertmanager, "Down", .high, 7, 0, String.ofList (List.replicate 64 'a'), 0, "firing",
          none⟩] none),
      .start 1 (.ingest "api:generic"
        [⟨.generic, "Down", .low, 7, 0, String.ofList (List.replicate 64 'b'), 0, "firing",
          none⟩] none)] ++
      -- both find no incident, and then one of them makes it
      [.run 0 {}, .run 0 {}, .run 0 {}, .run 0 {}] ++
      [.run 1 {}, .run 1 {}, .run 1 {}, .run 1 {}] ++
      List.replicate 7 (.run 0 {}) ++ List.replicate 6 (.run 1 {}))
    (fun db => decide (db.incidentIds = [2] ∧ db.links = [⟨2, 1⟩, ⟨2, 0⟩]) &&
      (db.incident 2).isSome) (by decide +kernel)
  simp only [Bool.and_eq_true, decide_eq_true_eq] at htest
  refine ⟨c, hr, htest.1.1, htest.1.2, htest.2, ?_⟩
  intro r hrow
  obtain ⟨o, e, he, hd, hversion, -⟩ :=
    ((single_active_incident (Db.init 0) (settled_init 0)).1 c hr).2.1 2 r hrow
  exact ⟨o, e, he, hd, hversion⟩

end SelfHealing
