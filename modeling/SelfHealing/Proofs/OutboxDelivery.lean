/-
What the outbox promises.

A row that is marked as published is in the incident stream, and a row that is not in the stream
is going to be fetched by some later sweep.  Both rest on one invariant, that a row which is no
longer pending is in the stream, and a sweep keeps it if one of the three attempts at each message
gets through.  When none does the row is marked all the same: as published if the dead letter is
taken, and as failed if it is not, and no sweep fetches either.

That a pending row is fetched in the end is a matter of its place in the queue: each sweep that
commits without it marks a row that was created no later.
-/
import SelfHealing.Outbox

namespace SelfHealing

/-- The message of the row. -/
def OutboxRow.entry (row : OutboxRow) : StreamEntry := ⟨row.id, row.event.fields⟩

/-! ### What is to hold -/

/-- Rows are committed, and then there is a sweep. -/
structure Round where
  added : List OutboxRow
  sweep : Sweep

namespace Outbox

def addAll (o : Outbox) (rows : List OutboxRow) : Outbox :=
  rows.foldl (fun o row => addOutboxEvent row o) o

/-- The outbox after the given number of rounds. -/
def after (o : Outbox) (rounds : Nat → Round) : Nat → Outbox
  | 0 => o
  | k + 1 =>
      (sweepAndPublish (rounds k).sweep ((o.after rounds k).addAll (rounds k).added)).1

/-- What the sweep of the given round fetches. -/
def fetched (o : Outbox) (rounds : Nat → Round) (k : Nat) : List OutboxRow :=
  fetchPendingOutboxEvents (rounds k).sweep.batchSize
    ((o.after rounds k).addAll (rounds k).added).rows

end Outbox

/-- There are always more sweeps to come that fetch something and commit, and in the end the rows
that are added are those of transactions that began later. -/
structure Fair (rounds : Nat → Round) (row : OutboxRow) : Prop where
  commits : ∀ k, ∃ j, k ≤ j ∧ (rounds j).sweep.undoneAfter = none ∧ 1 ≤ (rounds j).sweep.batchSize
  later : ∃ k, ∀ j, k ≤ j → ∀ r ∈ (rounds j).added, row.createdAt < r.createdAt

/-- **What is promised.** -/
structure Complete (o : Outbox) : Prop where
  published : ∀ row ∈ o.rows, row.event.status = "PUBLISHED" → row.entry ∈ o.redis.stream
  fetched : ∀ row ∈ o.rows, row.entry ∉ o.redis.stream →
    ∀ rounds, Fair rounds row → ∃ k, row.id ∈ (o.fetched rounds k).map OutboxRow.id

/-- If it is a sweep that commits, one of the three attempts at each message of its batch puts it
into the stream. -/
def OutboxStep.delivers : OutboxStep → Outbox → Prop
  | .added _, _ => True
  | .swept s, o =>
      s.undoneAfter = none → ∀ place < (fetchPendingOutboxEvents s.batchSize o.rows).length,
        ∃ attempt < 3, ((s.answers place).stream (attempt + 1)).appended = true

/-- All the steps do. -/
def Delivers : Outbox → List OutboxStep → Prop
  | _, [] => True
  | o, step :: rest => step.delivers o ∧ Delivers (step.run o) rest

/-! ### One message -/

theorem publishAttempts_grows (entry : StreamEntry) (answers : Nat → XaddAnswer) (left : Nat) :
    ∀ attempt last stream,
      stream ⊆ (publishAttempts entry answers left attempt last stream).2 := by
  induction left with
  | zero =>
      intro attempt last stream
      exact List.Subset.refl _
  | succ left ih =>
      intro attempt last stream
      have hgrow : stream ⊆
          if (answers attempt).appended = true then entry :: stream else stream := by
        by_cases ha : (answers attempt).appended = true
        · rw [if_pos ha]
          exact List.subset_cons_self _ _
        · rw [if_neg ha]
          exact List.Subset.refl _
      simp only [publishAttempts]
      cases herr : (answers attempt).error with
      | none => exact hgrow
      | some text => exact List.Subset.trans hgrow (ih (attempt + 1) (some text) _)

theorem publishAttempts_appends (entry : StreamEntry) (answers : Nat → XaddAnswer) (left : Nat) :
    ∀ attempt last stream, (∃ n < left, (answers (attempt + n)).appended = true) →
      entry ∈ (publishAttempts entry answers left attempt last stream).2 := by
  induction left with
  | zero =>
      intro attempt last stream h
      obtain ⟨n, hn, -⟩ := h
      omega
  | succ left ih =>
      intro attempt last stream h
      simp only [publishAttempts]
      by_cases ha : (answers attempt).appended = true
      · rw [if_pos ha]
        cases herr : (answers attempt).error with
        | none => exact List.mem_cons_self
        | some text =>
            exact publishAttempts_grows entry answers left (attempt + 1) (some text) _
              List.mem_cons_self
      · -- this one raised, or it would have been added
        obtain ⟨n, hn, hadd⟩ := h
        have hn0 : n ≠ 0 := by
          intro hzero
          rw [hzero] at hadd
          exact ha hadd
        cases herr : (answers attempt).error with
        | none => exact absurd ((answers attempt).returned herr) ha
        | some text =>
            rw [if_neg ha]
            refine ih (attempt + 1) (some text) stream ⟨n - 1, by omega, ?_⟩
            rw [show attempt + 1 + (n - 1) = attempt + n from by omega]
            exact hadd

theorem publishWithRetry_stream (streamKey : String) (now : Int) (entry : StreamEntry)
    (answers : PublishAnswers) (redis : Redis) :
    (publishWithRetry streamKey now entry answers redis).2.stream =
      (publishAttempts entry answers.stream 3 1 none redis.stream).2 := by
  unfold publishWithRetry
  rcases hp : publishAttempts entry answers.stream 3 1 none redis.stream with ⟨result, stream⟩
  cases result with
  | ok _ => rfl
  | error last =>
      cases hd : answers.dlq.error with
      | none => simp
      | some text => simp

/-! ### The rows of a batch -/

/-- What a sweep makes of the rows: those with the given identifiers are marked, and the others
left alone. -/
structure Marks (ids : List Nat) (g : OutboxRow → OutboxRow) : Prop where
  same : ∀ row, row.id ∉ ids → g row = row
  marked : ∀ row, row.id ∈ ids → (g row).pending = false
  entry : ∀ row, (g row).entry = row.entry
  createdAt : ∀ row, (g row).createdAt = row.createdAt

theorem marks_nil : Marks [] id := by
  refine ⟨?_, ?_, ?_, ?_⟩
  · intro row _
    rfl
  · intro row h
    simp at h
  · intro row
    rfl
  · intro row
    rfl

theorem Marks.id_eq {ids : List Nat} {g : OutboxRow → OutboxRow} (h : Marks ids g)
    (row : OutboxRow) : (g row).id = row.id := congrArg StreamEntry.source (h.entry row)

theorem Marks.pending_of {ids : List Nat} {g : OutboxRow → OutboxRow} (h : Marks ids g)
    {row : OutboxRow} (hp : (g row).pending = true) : row.id ∉ ids ∧ g row = row := by
  have hid : row.id ∉ ids := by
    intro hmem
    rw [h.marked row hmem] at hp
    exact absurd hp (by simp)
  exact ⟨hid, h.same row hid⟩

/-- One more row is marked, before the others. -/
theorem Marks.cons {ids : List Nat} {g set : OutboxRow → OutboxRow} {n : Nat} (h : Marks ids g)
    (hpending : ∀ row, (set row).pending = false) (hentry : ∀ row, (set row).entry = row.entry)
    (hcreated : ∀ row, (set row).createdAt = row.createdAt) :
    Marks (n :: ids) (fun row => g (if row.id = n then set row else row)) := by
  refine ⟨?_, ?_, ?_, ?_⟩
  · intro row hid
    have hne : row.id ≠ n := fun hc => hid (hc ▸ List.mem_cons_self)
    show g (if row.id = n then set row else row) = row
    rw [if_neg hne]
    exact h.same row (fun hc => hid (List.mem_cons_of_mem _ hc))
  · intro row hid
    by_cases hn : row.id = n
    · simp only [if_pos hn]
      by_cases hm : (set row).id ∈ ids
      · exact h.marked _ hm
      · rw [h.same _ hm]
        exact hpending row
    · simp only [if_neg hn]
      rcases List.mem_cons.mp hid with hc | hc
      · exact absurd hc hn
      · exact h.marked row hc
  · intro row
    by_cases hn : row.id = n
    · simp only [if_pos hn]
      rw [h.entry, hentry]
    · simp only [if_neg hn]
      exact h.entry row
  · intro row
    by_cases hn : row.id = n
    · simp only [if_pos hn]
      rw [h.createdAt, hcreated]
    · simp only [if_neg hn]
      exact h.createdAt row

/-- **The loop over a batch** marks its rows, takes nothing from the stream, and adds the messages
that get through. -/
theorem publishEvents_spec (s : Sweep) (batch : List OutboxRow) :
    ∀ place o count, ∃ g, Marks (batch.map OutboxRow.id) g ∧
      (publishEvents s place batch (o, count)).1.rows = o.rows.map g ∧
      o.redis.stream ⊆ (publishEvents s place batch (o, count)).1.redis.stream ∧
      ∀ i row, batch[i]? = some row →
        (∃ attempt < 3, ((s.answers (place + i)).stream (attempt + 1)).appended = true) →
        row.entry ∈ (publishEvents s place batch (o, count)).1.redis.stream := by
  induction batch with
  | nil =>
      intro place o count
      refine ⟨id, marks_nil, (List.map_id _).symm, List.Subset.refl _, ?_⟩
      intro i row hrow
      simp at hrow
  | cons b rest ih =>
      intro place o count
      have hstream := publishWithRetry_stream s.streamKey s.now ⟨b.id, b.event.fields⟩
        (s.answers place) o.redis
      -- the message of `b` is in the stream if it got through, and so it stays
      have hhead : (∃ attempt < 3,
          ((s.answers place).stream (attempt + 1)).appended = true) →
          b.entry ∈ (publishWithRetry s.streamKey s.now ⟨b.id, b.event.fields⟩
            (s.answers place) o.redis).2.stream := by
        rintro ⟨n, hn, hadd⟩
        rw [hstream]
        refine publishAttempts_appends _ _ 3 1 none _ ⟨n, hn, ?_⟩
        rw [Nat.add_comm]
        exact hadd
      have hgrow : o.redis.stream ⊆ (publishWithRetry s.streamKey s.now
          ⟨b.id, b.event.fields⟩ (s.answers place) o.redis).2.stream := by
        rw [hstream]
        exact publishAttempts_grows _ _ 3 1 none _
      -- whatever the loop goes on with, the rest of the batch is as the induction says
      have hrest : ∀ (set : OutboxRow → OutboxRow) (redis : Redis) (count : Nat),
          (∀ row, (set row).pending = false) → (∀ row, (set row).entry = row.entry) →
          (∀ row, (set row).createdAt = row.createdAt) → o.redis.stream ⊆ redis.stream →
          ((∃ attempt < 3, ((s.answers place).stream (attempt + 1)).appended = true) →
            b.entry ∈ redis.stream) →
          ∃ g, Marks ((b :: rest).map OutboxRow.id) g ∧
            (publishEvents s (place + 1) rest
              (⟨updateOutbox b.id set o.rows, redis⟩, count)).1.rows = o.rows.map g ∧
            o.redis.stream ⊆ (publishEvents s (place + 1) rest
              (⟨updateOutbox b.id set o.rows, redis⟩, count)).1.redis.stream ∧
            ∀ i row, (b :: rest)[i]? = some row →
              (∃ attempt < 3, ((s.answers (place + i)).stream (attempt + 1)).appended = true) →
              row.entry ∈ (publishEvents s (place + 1) rest
                (⟨updateOutbox b.id set o.rows, redis⟩, count)).1.redis.stream := by
        intro set redis count hpending hentry hcreated hsub hin
        obtain ⟨g, hg, hrows, hgrow', hadded⟩ :=
          ih (place + 1) ⟨updateOutbox b.id set o.rows, redis⟩ count
        refine ⟨_, hg.cons hpending hentry hcreated, ?_, List.Subset.trans hsub hgrow', ?_⟩
        · rw [hrows]
          simp only [updateOutbox, List.map_map]
          rfl
        · intro i row hrow hadd
          cases i with
          | zero =>
              simp only [List.getElem?_cons_zero, Option.some.injEq] at hrow
              rw [← hrow]
              exact hgrow' (hin hadd)
          | succ i =>
              simp only [List.getElem?_cons_succ] at hrow
              refine hadded i row hrow ?_
              rw [show place + 1 + i = place + (i + 1) from by omega]
              exact hadd
      unfold publishEvents
      rcases hp : publishWithRetry s.streamKey s.now ⟨b.id, b.event.fields⟩
        (s.answers place) o.redis with ⟨result, redis⟩
      rw [hp] at hhead hgrow
      cases result with
      | ok _ =>
          exact hrest (OutboxRow.published s.now) redis (count + 1) (fun _ => rfl)
            (fun _ => rfl) (fun _ => rfl) hgrow hhead
      | error text =>
          exact hrest (OutboxRow.failed text) redis count (fun _ => rfl)
            (fun _ => rfl) (fun _ => rfl) hgrow hhead

/-! ### A sweep

A sweep that is undone has appended its messages all the same, which is why a message may be there
twice and is never missing.  What the invariant says of a row is about marks that are committed,
and these are set behind the attempts at the message.
-/

theorem fetch_sub {limit : Nat} {rows : List OutboxRow} {row : OutboxRow}
    (h : row ∈ fetchPendingOutboxEvents limit rows) : row ∈ rows ∧ row.pending = true := by
  have hsorted := List.mem_of_mem_take h
  rw [List.mem_insertionSort, List.mem_filter] at hsorted
  exact hsorted

/-- **A sweep** marks the rows it has fetched, or none of them. -/
theorem sweep_rows (s : Sweep) (o : Outbox) :
    ∃ ids g, Marks ids g ∧ (sweepAndPublish s o).1.rows = o.rows.map g ∧
      o.redis.stream ⊆ (sweepAndPublish s o).1.redis.stream ∧
      (s.undoneAfter ≠ none → ids = []) ∧
      (s.undoneAfter = none →
        ids = (fetchPendingOutboxEvents s.batchSize o.rows).map OutboxRow.id ∧
        ∀ i row, (fetchPendingOutboxEvents s.batchSize o.rows)[i]? = some row →
          (∃ attempt < 3, ((s.answers i).stream (attempt + 1)).appended = true) →
          row.entry ∈ (sweepAndPublish s o).1.redis.stream) := by
  unfold sweepAndPublish
  cases hu : s.undoneAfter with
  | none =>
      obtain ⟨g, hg, hrows, hgrow, hadded⟩ :=
        publishEvents_spec s (fetchPendingOutboxEvents s.batchSize o.rows) 0 o 0
      refine ⟨_, g, hg, hrows, hgrow, fun hc => absurd rfl hc, ?_⟩
      intro _
      refine ⟨rfl, ?_⟩
      intro i row hrow hadd
      refine hadded i row hrow ?_
      rw [Nat.zero_add]
      exact hadd
  | some n =>
      obtain ⟨g, -, -, hgrow, -⟩ :=
        publishEvents_spec s ((fetchPendingOutboxEvents s.batchSize o.rows).take n) 0 o 0
      refine ⟨[], id, marks_nil, (List.map_id _).symm, hgrow, fun _ => rfl, ?_⟩
      intro hc
      simp at hc

/-- What holds of the outbox as long as every message gets through. -/
structure Settled (o : Outbox) : Prop where
  ids : (o.rows.map OutboxRow.id).Nodup
  stream : ∀ row ∈ o.rows, row.pending = false → row.entry ∈ o.redis.stream

theorem Settled.add {o : Outbox} (h : Settled o) (row : OutboxRow) :
    Settled (addOutboxEvent row o) := by
  unfold addOutboxEvent
  by_cases hid : row.id ∈ o.rows.map OutboxRow.id
  · rw [if_pos hid]
    exact h
  · rw [if_neg hid]
    refine ⟨?_, ?_⟩
    · simp only [List.map_append, List.map_cons, List.map_nil]
      refine List.nodup_append.mpr ⟨h.ids, by simp, ?_⟩
      intro a ha b hb heq
      simp only [List.mem_singleton] at hb
      rw [heq, hb] at ha
      exact hid ha
    · intro r hr hp
      rcases List.mem_append.mp hr with hc | hc
      · exact h.stream r hc hp
      · simp only [List.mem_singleton] at hc
        rw [hc] at hp
        simp [OutboxRow.pending] at hp

/-- Two rows of one identifier are one row. -/
theorem Settled.eq_of_id {o : Outbox} (h : Settled o) {a b : OutboxRow} (ha : a ∈ o.rows)
    (hb : b ∈ o.rows) (heq : a.id = b.id) : a = b :=
  List.inj_on_of_nodup_map h.ids ha hb heq

theorem Settled.sweep {o : Outbox} {s : Sweep} (h : Settled o)
    (hd : (OutboxStep.swept s).delivers o) : Settled (sweepAndPublish s o).1 := by
  obtain ⟨ids, g, hg, hrows, hgrow, hundone, hfull⟩ := sweep_rows s o
  have hids : (o.rows.map g).map OutboxRow.id = o.rows.map OutboxRow.id := by
    rw [List.map_map]
    exact List.map_congr_left (fun row _ => hg.id_eq row)
  refine ⟨?_, ?_⟩
  · rw [hrows, hids]
    exact h.ids
  · intro r hr hp
    rw [hrows] at hr
    obtain ⟨row, hrow, rfl⟩ := List.mem_map.mp hr
    rw [hg.entry row]
    by_cases hmem : row.id ∈ ids
    · -- it is marked, so that the sweep has committed, and it was in the batch
      have hu : s.undoneAfter = none := by
        by_contra hc
        rw [hundone hc] at hmem
        exact absurd hmem List.not_mem_nil
      obtain ⟨hbatch, hadded⟩ := hfull hu
      rw [hbatch] at hmem
      obtain ⟨b, hb, hbid⟩ := List.mem_map.mp hmem
      have hbrow : b = row := h.eq_of_id (fetch_sub hb).1 hrow hbid
      subst hbrow
      obtain ⟨i, hi, hget⟩ := List.getElem_of_mem hb
      refine hadded i b ?_ (hd hu i hi)
      rw [List.getElem?_eq_getElem hi, hget]
    · rw [hg.same row hmem] at hp
      exact hgrow (h.stream row hrow hp)

theorem Settled.runs {steps : List OutboxStep} :
    ∀ {o : Outbox}, Settled o → Delivers o steps → Settled (o.runs steps) := by
  induction steps with
  | nil =>
      intro o h _
      exact h
  | cons step rest ih =>
      intro o h hd
      obtain ⟨hstep, hrest⟩ := hd
      show Settled ((step.run o).runs rest)
      refine ih ?_ hrest
      cases step with
      | added row => exact h.add row
      | swept s => exact h.sweep hstep

/-! ### A pending row is fetched in the end -/

/-- The rows that may be fetched before the given one, and itself. -/
def ahead (row : OutboxRow) (rows : List OutboxRow) : Nat :=
  rows.countP fun r => r.pending && decide (r.createdAt ≤ row.createdAt)

theorem mem_addAll {row : OutboxRow} {added : List OutboxRow} :
    ∀ {o : Outbox}, row ∈ o.rows → row ∈ (o.addAll added).rows := by
  induction added with
  | nil =>
      intro o h
      exact h
  | cons r rest ih =>
      intro o h
      show row ∈ ((addOutboxEvent r o).addAll rest).rows
      refine ih ?_
      unfold addOutboxEvent
      by_cases hid : r.id ∈ o.rows.map OutboxRow.id
      · rw [if_pos hid]
        exact h
      · rw [if_neg hid]
        exact List.mem_append_left _ h

/-- Rows of later transactions do not come before it. -/
theorem ahead_addAll {row : OutboxRow} {added : List OutboxRow} :
    ∀ {o : Outbox}, (∀ r ∈ added, row.createdAt < r.createdAt) →
      ahead row (o.addAll added).rows = ahead row o.rows := by
  induction added with
  | nil =>
      intro o _
      rfl
  | cons r rest ih =>
      intro o h
      show ahead row ((addOutboxEvent r o).addAll rest).rows = ahead row o.rows
      rw [ih (fun r' hr' => h r' (List.mem_cons_of_mem _ hr'))]
      have hr : row.createdAt < r.createdAt := h r List.mem_cons_self
      unfold addOutboxEvent
      by_cases hid : r.id ∈ o.rows.map OutboxRow.id
      · rw [if_pos hid]
      · rw [if_neg hid]
        unfold ahead
        rw [List.countP_append, List.countP_singleton]
        have hlate : ¬ r.createdAt ≤ row.createdAt := by omega
        simp [hlate]

/-- A row that a sweep does not fetch is left alone. -/
theorem mem_sweep {s : Sweep} {o : Outbox} {row : OutboxRow} (hrow : row ∈ o.rows)
    (hout : row.id ∉ (fetchPendingOutboxEvents s.batchSize o.rows).map OutboxRow.id) :
    row ∈ (sweepAndPublish s o).1.rows := by
  obtain ⟨ids, g, hg, hrows, -, hundone, hfull⟩ := sweep_rows s o
  have hmem : row.id ∉ ids := by
    by_cases hu : s.undoneAfter = none
    · rw [(hfull hu).1]
      exact hout
    · rw [hundone hu]
      exact List.not_mem_nil
  rw [hrows]
  exact List.mem_map.mpr ⟨row, hrow, hg.same row hmem⟩

theorem ahead_map_le {ids : List Nat} {g : OutboxRow → OutboxRow} (hg : Marks ids g)
    (row : OutboxRow) (rows : List OutboxRow) : ahead row (rows.map g) ≤ ahead row rows := by
  unfold ahead
  rw [List.countP_map]
  refine List.countP_mono_left ?_
  intro r _ hr
  simp only [Function.comp_apply, Bool.and_eq_true] at hr
  rw [(hg.pending_of hr.1).2] at hr
  simp only [Bool.and_eq_true]
  exact hr

/-- Marking a row that comes before it brings it forward. -/
theorem ahead_map_lt {row b : OutboxRow} {ids : List Nat} {g : OutboxRow → OutboxRow}
    (hg : Marks ids g) (hb : b.id ∈ ids) (hpending : b.pending = true)
    (hle : b.createdAt ≤ row.createdAt) :
    ∀ {rows : List OutboxRow}, b ∈ rows → ahead row (rows.map g) < ahead row rows := by
  intro rows
  induction rows with
  | nil =>
      intro h
      exact absurd h List.not_mem_nil
  | cons r rest ih =>
      intro h
      have hsplit : ∀ l : List OutboxRow, ∀ x, ahead row (x :: l) =
          ahead row l + if x.pending && decide (x.createdAt ≤ row.createdAt) then 1 else 0 := by
        intro l x
        exact List.countP_cons
      rw [List.map_cons, hsplit, hsplit]
      rcases List.mem_cons.mp h with hc | hc
      · have hrest := ahead_map_le hg row rest
        have hgr : (g r).pending = false := hg.marked r (hc ▸ hb)
        rw [← hc] at hgr ⊢
        rw [hgr, hpending]
        simp only [Bool.false_and, Bool.true_and, hle, decide_true, if_true, Bool.false_eq_true,
          if_false]
        omega
      · have hrest := ih hc
        have hone := ahead_map_le hg row [r]
        rw [List.map_cons, List.map_nil, hsplit, hsplit] at hone
        omega

/-- The first row of a batch was created no later than any row that is pending. -/
theorem fetch_first {limit : Nat} {rows : List OutboxRow} {row : OutboxRow} (hlimit : 1 ≤ limit)
    (hrow : row ∈ rows) (hpending : row.pending = true) :
    ∃ b ∈ fetchPendingOutboxEvents limit rows, b.createdAt ≤ row.createdAt := by
  unfold fetchPendingOutboxEvents
  have hsorted := List.pairwise_insertionSort
    (fun a b : OutboxRow => a.createdAt ≤ b.createdAt) (rows.filter OutboxRow.pending)
  have hmem : row ∈ (rows.filter OutboxRow.pending).insertionSort
      (fun a b : OutboxRow => a.createdAt ≤ b.createdAt) := by
    rw [List.mem_insertionSort, List.mem_filter]
    exact ⟨hrow, hpending⟩
  cases hl : (rows.filter OutboxRow.pending).insertionSort
      (fun a b : OutboxRow => a.createdAt ≤ b.createdAt) with
  | nil =>
      rw [hl] at hmem
      exact absurd hmem List.not_mem_nil
  | cons b rest =>
      rw [hl] at hmem hsorted
      refine ⟨b, ?_, ?_⟩
      · rw [show limit = limit - 1 + 1 from by omega, List.take_succ_cons]
        exact List.mem_cons_self
      · rcases List.mem_cons.mp hmem with hc | hc
        · rw [hc]
        · exact (List.pairwise_cons.mp hsorted).1 row hc

/-- A sweep that commits without the row marks one that comes before it. -/
theorem ahead_sweep {s : Sweep} {o : Outbox} {row : OutboxRow} (hrow : row ∈ o.rows)
    (hpending : row.pending = true) (hu : s.undoneAfter = none) (hbatch : 1 ≤ s.batchSize) :
    ahead row (sweepAndPublish s o).1.rows < ahead row o.rows := by
  obtain ⟨ids, g, hg, hrows, -, -, hfull⟩ := sweep_rows s o
  obtain ⟨b, hb, hle⟩ := fetch_first hbatch hrow hpending
  rw [hrows]
  refine ahead_map_lt hg ?_ (fetch_sub hb).2 hle (fetch_sub hb).1
  rw [(hfull hu).1]
  exact List.mem_map_of_mem hb

theorem ahead_sweep_le (s : Sweep) (o : Outbox) (row : OutboxRow) :
    ahead row (sweepAndPublish s o).1.rows ≤ ahead row o.rows := by
  obtain ⟨ids, g, hg, hrows, -, -, -⟩ := sweep_rows s o
  rw [hrows]
  exact ahead_map_le hg row o.rows

section Waiting

variable {o : Outbox} {rounds : Nat → Round} {row : OutboxRow}
  (hnever : ∀ k, row.id ∉ (o.fetched rounds k).map OutboxRow.id)

include hnever

theorem waiting_mem (hrow : row ∈ o.rows) : ∀ k, row ∈ (o.after rounds k).rows := by
  intro k
  induction k with
  | zero => exact hrow
  | succ k ih => exact mem_sweep (mem_addAll ih) (hnever k)

omit hnever in
theorem ahead_after_le {k₀ : Nat}
    (hlater : ∀ j, k₀ ≤ j → ∀ r ∈ (rounds j).added, row.createdAt < r.createdAt) {k j : Nat}
    (hk : k₀ ≤ k) (hkj : k ≤ j) :
    ahead row (o.after rounds j).rows ≤ ahead row (o.after rounds k).rows := by
  induction hkj with
  | refl => exact Nat.le_refl _
  | @step j hkj ih =>
      have hsweep := ahead_sweep_le (rounds j).sweep
        ((o.after rounds j).addAll (rounds j).added) row
      have hadd := ahead_addAll (o := o.after rounds j)
        (hlater j (Nat.le_trans hk hkj))
      show ahead row (sweepAndPublish (rounds j).sweep
        ((o.after rounds j).addAll (rounds j).added)).1.rows ≤ _
      omega

/-- However long the queue before it, it does not stand there forever. -/
theorem not_waiting (hrow : row ∈ o.rows) (hpending : row.pending = true) (fair : Fair rounds row) :
    False := by
  obtain ⟨k₀, hlater⟩ := fair.later
  -- strong induction on the rows before it: some later sweep commits and leaves fewer
  have hdescent : ∀ n k, k₀ ≤ k → ahead row (o.after rounds k).rows = n → False := by
    intro n
    induction n using Nat.strong_induction_on with
    | _ n ih =>
        intro k hk hn
        obtain ⟨j, hkj, hu, hbatch⟩ := fair.commits k
        have hle := ahead_after_le (o := o) hlater hk hkj
        have hadd := ahead_addAll (o := o.after rounds j)
          (hlater j (Nat.le_trans hk hkj))
        have hmem : row ∈ ((o.after rounds j).addAll (rounds j).added).rows :=
          mem_addAll (waiting_mem hnever hrow j)
        have hlt := ahead_sweep hmem hpending hu hbatch
        refine ih (ahead row (o.after rounds (j + 1)).rows) ?_ (j + 1) (by omega) rfl
        show ahead row (sweepAndPublish (rounds j).sweep
          ((o.after rounds j).addAll (rounds j).added)).1.rows < n
        omega
  exact hdescent _ k₀ (Nat.le_refl _) rfl

end Waiting

/-- **A pending row** is fetched by some later sweep. -/
theorem pending_fetched {o : Outbox} {row : OutboxRow} {rounds : Nat → Round} (hrow : row ∈ o.rows)
    (hpending : row.pending = true) (fair : Fair rounds row) :
    ∃ k, row.id ∈ (o.fetched rounds k).map OutboxRow.id := by
  by_contra hc
  exact not_waiting (fun k hk => hc ⟨k, hk⟩) hrow hpending fair

/-! ### The promise -/

theorem Settled.complete {o : Outbox} (h : Settled o) : Complete o := by
  refine ⟨?_, ?_⟩
  · intro row hrow hstatus
    refine h.stream row hrow ?_
    simp [OutboxRow.pending, hstatus]
  · intro row hrow hout rounds fair
    refine pending_fetched hrow ?_ fair
    by_contra hc
    rw [Bool.not_eq_true] at hc
    exact hout (h.stream row hrow hc)

/-- **The outbox is complete** after any steps in which one of the three attempts at each message
of a committed sweep gets through. -/
theorem outbox_complete (steps : List OutboxStep) (h : Delivers {} steps) :
    Complete (Outbox.runs {} steps) := by
  have hinit : Settled {} := by
    refine ⟨List.nodup_nil, ?_⟩
    intro row hrow
    exact absurd hrow List.not_mem_nil
  exact (hinit.runs h).complete

/-- The row of a new incident. -/
def detectedRow : OutboxRow where
  id := 1
  createdAt := 0
  event :=
    { eventType := "incident.detected", aggregateType := "incident", aggregateId := 7,
      aggregateVersion := 1, state := .detected, severity := .high,
      correlationKey := "00000000-0000-0000-0000-000000000003:container_down", resourceId := 3,
      eventIds := some [5], status := "PENDING", actor := "webhook:alertmanager" }

/-- A sweep for which Redis answers every message alike. -/
def uniformSweep (stream : Nat → XaddAnswer) (dlq : XaddAnswer) : Sweep where
  now := 0
  answers := fun _ => ⟨stream, dlq⟩

/-- Two attempts raise, and the third gets through. -/
theorem outbox_complete_third_attempt :
    Complete (Outbox.runs {} [.added detectedRow,
      .swept (uniformSweep (fun n => if n < 3 then .raised "timeout" else .added) .added)]) := by
  refine outbox_complete _ ⟨trivial, ?_, trivial⟩
  intro _ place _
  exact ⟨2, by omega, rfl⟩

/-- A sweep of an outbox in which nothing is pending does nothing. -/
theorem after_of_settled {o : Outbox} (h : ∀ row ∈ o.rows, row.pending = false)
    (rounds : Nat → Round) (hadded : ∀ k, (rounds k).added = [])
    (hu : ∀ k, (rounds k).sweep.undoneAfter = none) : ∀ k, o.after rounds k = o := by
  have hnone : o.rows.filter OutboxRow.pending = [] := by
    rw [List.filter_eq_nil_iff]
    intro row hrow
    simp [h row hrow]
  intro k
  induction k with
  | zero => rfl
  | succ k ih =>
      show (sweepAndPublish (rounds k).sweep ((o.after rounds k).addAll (rounds k).added)).1 = o
      rw [ih, hadded k]
      show (sweepAndPublish (rounds k).sweep o).1 = o
      simp [sweepAndPublish, hu k, fetchPendingOutboxEvents, hnone, publishEvents]

/-- Redis refuses the message three times: with its dead letter taken the row is marked as
published, and with its dead letter refused too it is marked as failed and never fetched again. -/
theorem outbox_incomplete :
    ¬ Complete (Outbox.runs {} [.added detectedRow,
      .swept (uniformSweep (fun _ => .raised "timeout") .added)]) ∧
    ¬ Complete (Outbox.runs {} [.added detectedRow,
      .swept (uniformSweep (fun _ => .raised "timeout") (.raised "timeout"))]) := by
  refine ⟨?_, ?_⟩
  · intro h
    have hin := h.published (detectedRow.published 0) List.mem_cons_self rfl
    exact absurd hin List.not_mem_nil
  · intro h
    have hfair : Fair (fun _ => ⟨[], uniformSweep (fun _ => .added) .added⟩)
        (detectedRow.failed "timeout") := by
      refine ⟨?_, ⟨0, ?_⟩⟩
      · intro k
        exact ⟨k, Nat.le_refl k, rfl, by decide⟩
      · intro j _ r hr
        exact absurd hr List.not_mem_nil
    obtain ⟨k, hk⟩ := h.fetched (detectedRow.failed "timeout") List.mem_cons_self
      List.not_mem_nil _ hfair
    unfold Outbox.fetched at hk
    rw [after_of_settled ?_ _ (fun _ => rfl) (fun _ => rfl)] at hk
    · have hnone : fetchPendingOutboxEvents 50 [detectedRow.failed "timeout"] = [] := by decide
      have hin : (detectedRow.failed "timeout").id ∈
          (fetchPendingOutboxEvents 50 [detectedRow.failed "timeout"]).map OutboxRow.id := hk
      rw [hnone] at hin
      exact absurd hin List.not_mem_nil
    · intro row hrow
      rw [List.mem_singleton.mp hrow]
      rfl

end SelfHealing
