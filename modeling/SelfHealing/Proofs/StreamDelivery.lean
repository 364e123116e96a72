/-
No message is lost.

A message may be acknowledged once the run for its incident and version has returned.  The
consumer keeps to that as long as its duplicate filter tells the truth: a pair that is in the
filter stands for a run, and the filter does not know whether that run returned.  A pair whose run
raised stays in it, and the next message of that pair is acknowledged unrun.

The filter is emptied when it has grown too large, and then a message may be run again: that does no
harm to the promise, which is about acknowledgements.
-/
import SelfHealing.Streams

namespace SelfHealing

open IncidentStreamConsumer

/-! ### What is to hold -/

/-- A run for the incident and the version has returned. -/
def Completed (log : List ConsumerEvent) (incidentId : Nat) (version : Int) : Prop :=
  ∃ key payload, ConsumerEvent.ran incidentId version key payload true ∈ log

/-- Whatever was acknowledged and can be read had been run before, to the end. -/
def NoLostMessage (log : List ConsumerEvent) : Prop :=
  ∀ later m earlier, log = later ++ .acked m :: earlier →
    ∀ incidentId version, m.target = some (incidentId, version) →
      Completed earlier incidentId version

/-- How the latest run under this pair of the filter ended. -/
def lastRun (key : String × Int) : List ConsumerEvent → Option Bool
  | [] => none
  | .ran _ _ k _ completed :: rest => if k = key then some completed else lastRun key rest
  | .acked _ :: rest => lastRun key rest

/-- The message is not one that the filter knows from a run that raised. -/
def Delivery.unspoilt (d : Delivery) (c : IncidentStreamConsumer) : Prop :=
  ∀ key ∈ d.message.dedupKey, key ∈ c.seen → lastRun key c.log ≠ some false

/-- None of the messages is, at the time it is delivered. -/
def Unspoilt : IncidentStreamConsumer → List Delivery → Prop
  | _, [] => True
  | c, d :: rest => d.unspoilt c ∧ Unspoilt (c.processMessage d) rest

/-! ### What the filter knows

The filter compares texts, the incident as it was sent and the version as it was read.  A pair that
is in it stands for the last run of that incident and version, and the invariant says that this run
has returned; a run that has raised is what makes it false.
-/

theorem lastRun_mem {key : String × Int} {completed : Bool} {log : List ConsumerEvent}
    (h : lastRun key log = some completed) :
    ∃ incidentId version payload,
      ConsumerEvent.ran incidentId version key payload completed ∈ log := by
  induction log with
  | nil => simp [lastRun] at h
  | cons e rest ih =>
      cases e with
      | acked m =>
          obtain ⟨i, v, payload, hm⟩ := ih h
          exact ⟨i, v, payload, List.mem_cons_of_mem _ hm⟩
      | ran i v k payload b =>
          by_cases hk : k = key
          · simp only [lastRun, if_pos hk, Option.some.injEq] at h
            rw [← hk, ← h]
            exact ⟨i, v, payload, List.mem_cons_self⟩
          · rw [lastRun, if_neg hk] at h
            obtain ⟨i', v', payload', hm⟩ := ih h
            exact ⟨i', v', payload', List.mem_cons_of_mem _ hm⟩

/-- The pairs of the filter have been run, and what was run under a pair is what it says. -/
structure Faithful (c : IncidentStreamConsumer) : Prop where
  ran : ∀ key ∈ c.seen, (lastRun key c.log).isSome
  reads : ∀ incidentId version key payload completed,
    ConsumerEvent.ran incidentId version key payload completed ∈ c.log →
      uuidOfText key.1 = some incidentId ∧ key.2 = version

theorem dedupKey_reads {m : StreamMessage} {key : String × Int} {incidentId : Nat} {version : Int}
    (hk : m.dedupKey = some key) (ht : m.target = some (incidentId, version)) :
    uuidOfText key.1 = some incidentId ∧ key.2 = version := by
  unfold StreamMessage.dedupKey at hk
  rw [ht] at hk
  unfold StreamMessage.target at ht
  cases htext : m.incidentIdStr with
  | none => simp [htext] at hk
  | some text =>
      simp only [htext, Option.pure_def, Option.bind_eq_bind, Option.bind_some,
        Option.some.injEq] at hk
      simp only [htext, Option.pure_def, Option.bind_eq_bind, Option.bind_some] at ht
      obtain ⟨i, hi, hrest⟩ := Option.bind_eq_some_iff.mp ht
      obtain ⟨v, -, hpair⟩ := Option.bind_eq_some_iff.mp hrest
      simp only [Option.some.injEq, Prod.mk.injEq] at hpair
      rw [← hk]
      exact ⟨hpair.1 ▸ hi, rfl⟩

theorem dedupKey_of_target {m : StreamMessage} {incidentId : Nat} {version : Int}
    (ht : m.target = some (incidentId, version)) : ∃ key, m.dedupKey = some key := by
  unfold StreamMessage.dedupKey
  rw [ht]
  cases htext : m.incidentIdStr with
  | none => simp [StreamMessage.target, htext] at ht
  | some text => exact ⟨(text, version), by simp⟩

theorem target_of_anonymous {m : StreamMessage} (h : m.anonymous = true) : m.target = none := by
  have hempty : uuidOfText "" = none := by rfl
  unfold StreamMessage.anonymous at h
  simp only [decide_eq_true_eq] at h
  unfold StreamMessage.target
  cases htext : m.incidentIdStr with
  | none => simp
  | some text =>
      have htext' : text = "" := by simpa [htext] using h
      simp [htext', hempty]

/-! ### One message -/

theorem noLost_acked {log : List ConsumerEvent} {m : StreamMessage} (h : NoLostMessage log)
    (hm : ∀ incidentId version, m.target = some (incidentId, version) →
      Completed log incidentId version) :
    NoLostMessage (.acked m :: log) := by
  intro later m' earlier heq i v ht
  cases later with
  | nil =>
      simp only [List.nil_append, List.cons.injEq, ConsumerEvent.acked.injEq] at heq
      rw [← heq.2]
      exact hm i v (heq.1 ▸ ht)
  | cons e later =>
      simp only [List.cons_append, List.cons.injEq] at heq
      exact h later m' earlier heq.2 i v ht

theorem noLost_ran {log : List ConsumerEvent} {i : Nat} {v : Int} {key : String × Int}
    {payload : Option String} {completed : Bool} (h : NoLostMessage log) :
    NoLostMessage (.ran i v key payload completed :: log) := by
  intro later m earlier heq
  cases later with
  | nil => simp at heq
  | cons e later =>
      simp only [List.cons_append, List.cons.injEq] at heq
      exact h later m earlier heq.2

theorem noLost_xack {c : IncidentStreamConsumer} {d : Delivery} (h : NoLostMessage c.log)
    (hm : ∀ incidentId version, d.message.target = some (incidentId, version) →
      Completed c.log incidentId version) :
    NoLostMessage (c.xack d).log := by
  unfold xack
  by_cases ha : d.acks = true
  · rw [if_pos ha]
    exact noLost_acked h hm
  · rw [if_neg ha]
    exact h

theorem faithful_xack {c : IncidentStreamConsumer} {d : Delivery} (h : Faithful c) :
    Faithful (c.xack d) := by
  unfold xack
  by_cases ha : d.acks = true
  · rw [if_pos ha]
    refine ⟨h.ran, ?_⟩
    intro i v key payload completed hm
    rcases List.mem_cons.mp hm with hc | hc
    · exact absurd hc (by simp)
    · exact h.reads i v key payload completed hc
  · rw [if_neg ha]
    exact h

/-- The consumer once it has run a message for the first time. -/
def ranFirst (d : Delivery) (incidentId : Nat) (version : Int) (key : String × Int)
    (c : IncidentStreamConsumer) : IncidentStreamConsumer :=
  { c.remember key with
    log := .ran incidentId version key (d.message.fields.get "payload") d.completes ::
      (c.remember key).log }

theorem faithful_ranFirst {d : Delivery} {c : IncidentStreamConsumer} {incidentId : Nat}
    {version : Int} {key : String × Int} (h : Faithful c)
    (hreads : uuidOfText key.1 = some incidentId ∧ key.2 = version) :
    Faithful (ranFirst d incidentId version key c) := by
  refine ⟨?_, ?_⟩
  · intro k hk
    show (lastRun k (.ran incidentId version key _ d.completes :: c.log)).isSome
    by_cases hkey : key = k
    · simp [lastRun, hkey]
    · rw [lastRun, if_neg hkey]
      refine h.ran k ?_
      have hmem : k ∈ (if 5000 < (key :: c.seen).length then [] else key :: c.seen) := hk
      by_cases hfull : 5000 < (key :: c.seen).length
      · rw [if_pos hfull] at hmem
        exact absurd hmem List.not_mem_nil
      · rw [if_neg hfull] at hmem
        rcases List.mem_cons.mp hmem with hc | hc
        · exact absurd hc.symm hkey
        · exact hc
  · intro i v k payload completed hm
    rcases List.mem_cons.mp hm with hc | hc
    · simp only [ConsumerEvent.ran.injEq] at hc
      obtain ⟨rfl, rfl, rfl, -, -⟩ := hc
      exact hreads
    · exact h.reads i v k payload completed hc

/-- **One delivery** keeps the filter faithful, and loses nothing if the filter does not know the
message from a run that raised. -/
theorem processMessage_step {c : IncidentStreamConsumer} {d : Delivery} (hf : Faithful c)
    (hl : NoLostMessage c.log) (hd : d.unspoilt c) :
    Faithful (c.processMessage d) ∧ NoLostMessage (c.processMessage d).log := by
  by_cases hanon : d.message.anonymous = true
  · have hnone := target_of_anonymous hanon
    simp only [processMessage, hanon, if_pos]
    exact ⟨faithful_xack hf, noLost_xack hl (by simp [hnone])⟩
  cases ht : d.message.target with
  | none =>
      simp only [processMessage, hanon, Bool.false_eq_true, if_false, ht]
      exact ⟨hf, hl⟩
  | some target =>
      obtain ⟨i, v⟩ := target
      obtain ⟨key, hk⟩ := dedupKey_of_target ht
      have hreads := dedupKey_reads hk ht
      simp only [processMessage, hanon, Bool.false_eq_true, if_false, ht, hk]
      by_cases hseen : key ∈ c.seen
      · -- the filter knows the pair from a run, and that run did not raise
        rw [if_pos hseen]
        refine ⟨faithful_xack hf, noLost_xack hl ?_⟩
        intro i' v' ht'
        obtain ⟨completed, hlast⟩ := Option.isSome_iff_exists.mp (hf.ran key hseen)
        have hdone : completed = true := by
          by_contra hraised
          rw [Bool.not_eq_true] at hraised
          exact hd key hk hseen (hraised ▸ hlast)
        obtain ⟨i₁, v₁, payload, hmem⟩ := lastRun_mem hlast
        have hsame := hf.reads i₁ v₁ key payload completed hmem
        rw [hreads.1, hreads.2, Option.some.injEq] at hsame
        rw [ht, Option.some.injEq, Prod.mk.injEq] at ht'
        rw [← ht'.1, ← ht'.2, hsame.1, hsame.2]
        exact ⟨key, payload, hdone ▸ hmem⟩
      · rw [if_neg hseen]
        show Faithful (if d.completes = true then (ranFirst d i v key c).xack d
            else ranFirst d i v key c) ∧
          NoLostMessage (if d.completes = true then (ranFirst d i v key c).xack d
            else ranFirst d i v key c).log
        have hran : Faithful (ranFirst d i v key c) := faithful_ranFirst hf hreads
        have hlost : NoLostMessage (ranFirst d i v key c).log := noLost_ran hl
        by_cases hc : d.completes = true
        · rw [if_pos hc]
          refine ⟨faithful_xack hran, noLost_xack hlost ?_⟩
          intro i' v' ht'
          rw [ht, Option.some.injEq, Prod.mk.injEq] at ht'
          refine ⟨key, d.message.fields.get "payload", ?_⟩
          rw [← ht'.1, ← ht'.2, ← hc]
          exact List.mem_cons_self
        · rw [if_neg hc]
          exact ⟨hran, hlost⟩

/-! ### Any number of them -/

theorem faithful_init : Faithful {} := by
  refine ⟨?_, ?_⟩
  · intro key hk
    simp at hk
  · intro i v key payload completed hm
    simp at hm

theorem consume_noLost {deliveries : List Delivery} :
    ∀ {c : IncidentStreamConsumer}, Faithful c → NoLostMessage c.log →
      Unspoilt c deliveries → NoLostMessage (c.consume deliveries).log := by
  induction deliveries with
  | nil =>
      intro c _ hl _
      exact hl
  | cons d rest ih =>
      intro c hf hl hu
      obtain ⟨hd, hrest⟩ := hu
      obtain ⟨hf', hl'⟩ := processMessage_step hf hl hd
      show NoLostMessage ((c.processMessage d).consume rest).log
      exact ih hf' hl' hrest

/-- **No lost message.**  A consumer that is delivered no message its filter knows from a run that
raised has every readable message run to the end before it is acknowledged. -/
theorem noLostMessage_of_unspoilt (deliveries : List Delivery)
    (h : Unspoilt {} deliveries) : NoLostMessage (consume {} deliveries).log := by
  refine consume_noLost faithful_init ?_ h
  intro later m earlier heq
  simp at heq

/-- The notification of a new incident, as the outbox publishes it. -/
def detectedMessage (msgId : String) : StreamMessage :=
  ⟨msgId, [("event_type", "incident.detected"),
    ("incident_id", "00000000-0000-4000-8000-000000000007"), ("version", "1")]⟩

/-- Published twice, and run once: the second message is acknowledged on the strength of the
first. -/
theorem noLostMessage_published_twice :
    NoLostMessage
      (consume {} [⟨detectedMessage "1-0", true, true⟩, ⟨detectedMessage "2-0", true, true⟩]).log := by
  refine noLostMessage_of_unspoilt _ ⟨?_, ?_, trivial⟩
  · intro key _ hseen
    simp at hseen
  · unfold Delivery.unspoilt
    decide

/-- Delivered again after its run raised, a message is acknowledged and never run. -/
theorem noLostMessage_redelivered :
    ¬ NoLostMessage
      (consume {} [⟨detectedMessage "1-0", false, true⟩, ⟨detectedMessage "1-0", true, true⟩]).log := by
  intro h
  have hlog : (consume {} [⟨detectedMessage "1-0", false, true⟩,
      ⟨detectedMessage "1-0", true, true⟩]).log =
      [.acked (detectedMessage "1-0"),
        .ran 302240678275694148452359 1 ("00000000-0000-4000-8000-000000000007", 1) none false] := by
    decide
  obtain ⟨key, payload, hm⟩ := h [] (detectedMessage "1-0") _ hlog 302240678275694148452359 1
    (by decide)
  simp at hm

end SelfHealing
