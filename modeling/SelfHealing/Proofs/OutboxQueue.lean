/-
How long a row waits in the outbox.

A sweep that commits marks as many rows as its batch has room for, and it takes the oldest first.  A
row therefore waits for those only that were created no later: once the sweeps that have committed
had room for all of these, it has been decided on, whatever Redis has answered and however many rows
have come in behind it.

The bound is explicit, and the same for every answer of Redis: what a batch has room for is used up,
as a row is marked in any case.  Rows of equal times may be taken in any order, so those count as
well.
-/
import SelfHealing.Proofs.OutboxDelivery

namespace SelfHealing

/-! ### Counting -/

/-- The room in the batches of the sweeps that commit. -/
def room : List OutboxStep → Nat
  | [] => 0
  | .added _ :: rest => room rest
  | .swept s :: rest => (if s.undoneAfter = none then s.batchSize else 0) + room rest

/-- The rows to come that may be fetched before the given one. -/
def joining (row : OutboxRow) : List OutboxStep → Nat
  | [] => 0
  | .added r :: rest => (if r.createdAt ≤ row.createdAt then 1 else 0) + joining row rest
  | .swept _ :: rest => joining row rest

/-- A row with this identifier has been marked, as published or as failed. -/
def RowMarked (id : Nat) (o : Outbox) : Prop := ∃ r ∈ o.rows, r.id = id ∧ r.pending = false

section Queue

variable {o : Outbox} {row : OutboxRow} {s : Sweep}

theorem RowMarked.step {id : Nat} (h : RowMarked id o) (step : OutboxStep) :
    RowMarked id (step.run o) := by
  obtain ⟨r, hr, hid, hpending⟩ := h
  cases step with
  | added new =>
      show RowMarked id (addOutboxEvent new o)
      unfold addOutboxEvent
      split
      · exact ⟨r, hr, hid, hpending⟩
      · exact ⟨r, List.mem_append_left _ hr, hid, hpending⟩
  | swept s =>
      obtain ⟨ids, g, hg, hrows, -, -, -⟩ := sweep_rows s o
      refine ⟨g r, ?_, (hg.id_eq r).trans hid, ?_⟩
      · show g r ∈ (sweepAndPublish s o).1.rows
        rw [hrows]
        exact List.mem_map_of_mem hr
      · by_contra hmarked
        rw [Bool.not_eq_false] at hmarked
        rw [(hg.pending_of hmarked).2, hpending] at hmarked
        cases hmarked

theorem RowMarked.runs {id : Nat} (steps : List OutboxStep) (h : RowMarked id o) :
    RowMarked id (o.runs steps) := by
  induction steps generalizing o with
  | nil => exact h
  | cons step rest ih => exact ih (h.step step)

/-- A row joins the queue. -/
theorem ahead_add (r : OutboxRow) :
    ahead row (addOutboxEvent r o).rows ≤
      ahead row o.rows + if r.createdAt ≤ row.createdAt then 1 else 0 := by
  unfold addOutboxEvent
  split
  · exact Nat.le_add_right _ _
  · unfold ahead
    rw [List.countP_append, List.countP_singleton]
    by_cases hle : r.createdAt ≤ row.createdAt
    · rw [if_pos hle]
      split
      · exact Nat.le_refl _
      · omega
    · simp [hle]

/-! ### A batch -/

/-- A batch in which a pending row has no room is full of rows that were created no later. -/
theorem fetch_full {limit : Nat} {rows : List OutboxRow} (hrow : row ∈ rows)
    (hpending : row.pending = true) (hout : row ∉ fetchPendingOutboxEvents limit rows) :
    (fetchPendingOutboxEvents limit rows).length = limit ∧
      ∀ b ∈ fetchPendingOutboxEvents limit rows, b.createdAt ≤ row.createdAt := by
  unfold fetchPendingOutboxEvents at hout ⊢
  have hsorted := List.pairwise_insertionSort
    (fun a b : OutboxRow => a.createdAt ≤ b.createdAt) (rows.filter OutboxRow.pending)
  have hmem : row ∈ (rows.filter OutboxRow.pending).insertionSort
      (fun a b : OutboxRow => a.createdAt ≤ b.createdAt) := by
    rw [List.mem_insertionSort, List.mem_filter]
    exact ⟨hrow, hpending⟩
  generalize (rows.filter OutboxRow.pending).insertionSort
    (fun a b : OutboxRow => a.createdAt ≤ b.createdAt) = queue at hout hsorted hmem ⊢
  rw [← List.take_append_drop limit queue] at hmem hsorted
  have hdrop : row ∈ queue.drop limit := (List.mem_append.mp hmem).resolve_left hout
  refine ⟨?_, fun b hb => (List.pairwise_append.mp hsorted).2.2 b hb row hdrop⟩
  have hlength : 0 < (queue.drop limit).length := List.length_pos_of_mem hdrop
  rw [List.length_drop] at hlength
  rw [List.length_take]
  omega

/-- The rows of a batch are among those that count. -/
theorem batch_le_countP {limit : Nat} {rows : List OutboxRow} (p : OutboxRow → Bool)
    (hp : ∀ b ∈ fetchPendingOutboxEvents limit rows, p b = true) :
    (fetchPendingOutboxEvents limit rows).length ≤ rows.countP fun r => r.pending && p r := by
  have hperm := List.perm_insertionSort
    (fun a b : OutboxRow => a.createdAt ≤ b.createdAt) (rows.filter OutboxRow.pending)
  have hcount : rows.countP (fun r => r.pending && p r) =
      (rows.filter OutboxRow.pending).countP p := by
    rw [List.countP_filter]
    exact List.countP_congr fun r _ => by rw [Bool.and_comm]
  have hall : (fetchPendingOutboxEvents limit rows).countP p =
      (fetchPendingOutboxEvents limit rows).length := List.countP_eq_length.mpr hp
  rw [hcount, ← hperm.countP_eq p, ← hall]
  exact (List.take_sublist _ _).countP_le

/-- What is before a row is among the given rows or is not. -/
theorem ahead_split (ids : List Nat) (rows : List OutboxRow) :
    (rows.countP fun r => r.pending && (decide (r.createdAt ≤ row.createdAt) &&
      decide (r.id ∈ ids))) +
    (rows.countP fun r => (r.pending && decide (r.createdAt ≤ row.createdAt)) &&
      !decide (r.id ∈ ids)) = ahead row rows := by
  induction rows with
  | nil => rfl
  | cons r rest ih =>
      have hcons : ahead row (r :: rest) = ahead row rest +
          if r.pending && decide (r.createdAt ≤ row.createdAt) then 1 else 0 :=
        List.countP_cons
      rw [List.countP_cons, List.countP_cons, hcons, ← ih]
      by_cases hmem : r.id ∈ ids
      · simp only [hmem, decide_true, Bool.and_true, Bool.not_true, Bool.and_false,
          Bool.false_eq_true, if_false]
        omega
      · simp only [hmem, decide_false, Bool.and_false, Bool.not_false, Bool.and_true,
          Bool.false_eq_true, if_false]
        omega

/-- **A sweep that commits** brings every row that it leaves pending forward by its whole batch. -/
theorem ahead_sweep_full (hrow : row ∈ o.rows) (hpending : row.pending = true)
    (hu : s.undoneAfter = none)
    (hout : row.id ∉ (fetchPendingOutboxEvents s.batchSize o.rows).map OutboxRow.id) :
    ahead row (sweepAndPublish s o).1.rows + s.batchSize ≤ ahead row o.rows := by
  obtain ⟨ids, g, hg, hrows, -, -, hfull⟩ := sweep_rows s o
  have hids := (hfull hu).1
  have hnot : row ∉ fetchPendingOutboxEvents s.batchSize o.rows :=
    fun hmem => hout (List.mem_map_of_mem hmem)
  obtain ⟨hlength, holder⟩ := fetch_full hrow hpending hnot
  -- those that are marked count before and not after
  have hmarked : s.batchSize ≤ o.rows.countP fun r =>
      r.pending && (decide (r.createdAt ≤ row.createdAt) && decide (r.id ∈ ids)) := by
    rw [← hlength]
    refine batch_le_countP (fun r => decide (r.createdAt ≤ row.createdAt) && decide (r.id ∈ ids)) ?_
    intro b hb
    have hbid : b.id ∈ ids := by
      rw [hids]
      exact List.mem_map_of_mem hb
    simp [holder b hb, hbid]
  have hleft : ahead row (o.rows.map g) ≤ o.rows.countP fun r =>
      (r.pending && decide (r.createdAt ≤ row.createdAt)) && !decide (r.id ∈ ids) := by
    unfold ahead
    rw [List.countP_map]
    refine List.countP_mono_left fun r _ hr => ?_
    simp only [Function.comp_apply, Bool.and_eq_true] at hr
    obtain ⟨hid, hsame⟩ := hg.pending_of hr.1
    rw [hsame] at hr
    simp [hr.1, hid, of_decide_eq_true hr.2]
  rw [hrows]
  have hsum : _ + _ = ahead row o.rows := ahead_split ids o.rows
  omega

/-! ### The whole queue

The induction is over the steps.  A step that adds rows can add some that are to come before the
row in question, and these are counted among what it waits for; a sweep that commits takes off as
many as its batch has room for, or takes all that there are.
-/

/-- A step decides on the row, or leaves it in the queue with less before it. -/
theorem waiting_step (step : OutboxStep) (hrow : row ∈ o.rows) (hpending : row.pending = true) :
    RowMarked row.id (step.run o) ∨ row ∈ (step.run o).rows ∧
      ahead row (step.run o).rows + room [step] ≤ ahead row o.rows + joining row [step] := by
  cases step with
  | added r =>
      refine Or.inr ⟨?_, ahead_add r⟩
      show row ∈ (addOutboxEvent r o).rows
      unfold addOutboxEvent
      split
      · exact hrow
      · exact List.mem_append_left _ hrow
  | swept s =>
      show RowMarked row.id (sweepAndPublish s o).1 ∨ row ∈ (sweepAndPublish s o).1.rows ∧
        ahead row (sweepAndPublish s o).1.rows + (if s.undoneAfter = none then s.batchSize else 0) ≤
          ahead row o.rows + 0
      obtain ⟨ids, g, hg, hrows, -, -, hfull⟩ := sweep_rows s o
      by_cases hmem : row.id ∈ ids
      · left
        refine ⟨g row, ?_, hg.id_eq row, hg.marked row hmem⟩
        rw [hrows]
        exact List.mem_map_of_mem hrow
      · right
        refine ⟨?_, ?_⟩
        · rw [hrows]
          exact List.mem_map.mpr ⟨row, hrow, hg.same row hmem⟩
        · by_cases hu : s.undoneAfter = none
          · rw [if_pos hu]
            rw [(hfull hu).1] at hmem
            exact ahead_sweep_full hrow hpending hu hmem
          · rw [if_neg hu]
            exact ahead_sweep_le s o row

theorem room_cons (step : OutboxStep) (rest : List OutboxStep) :
    room (step :: rest) = room [step] + room rest := by
  cases step with
  | added r => simp [room]
  | swept s => simp [room]

theorem joining_cons (step : OutboxStep) (rest : List OutboxStep) :
    joining row (step :: rest) = joining row [step] + joining row rest := by
  cases step with
  | added r => simp [joining]
  | swept s => simp [joining]

theorem waiting_runs (steps : List OutboxStep) (hrow : row ∈ o.rows)
    (hpending : row.pending = true) :
    RowMarked row.id (o.runs steps) ∨ row ∈ (o.runs steps).rows ∧
      ahead row (o.runs steps).rows + room steps ≤ ahead row o.rows + joining row steps := by
  induction steps generalizing o with
  | nil => exact Or.inr ⟨hrow, Nat.le_refl _⟩
  | cons step rest ih =>
      rcases waiting_step step hrow hpending with hdecided | ⟨hmem, hstep⟩
      · exact Or.inl (hdecided.runs rest)
      · rcases ih hmem with hdecided | ⟨hlast, hrest⟩
        · exact Or.inl hdecided
        · refine Or.inr ⟨hlast, ?_⟩
          rw [room_cons, joining_cons]
          show ahead row ((step.run o).runs rest).rows + _ ≤ _
          omega

/-- A pending row counts itself. -/
theorem ahead_pos (hrow : row ∈ o.rows) (hpending : row.pending = true) :
    0 < ahead row o.rows :=
  List.countP_pos_iff.mpr ⟨row, hrow, by simp [hpending]⟩

end Queue

/-- **No row waits longer than the queue before it.**  When the sweeps that committed had room for
the pending rows that were created no later than a row, itself among them, and for those that have
come in since with such a time, the row has been marked, whatever Redis has answered. -/
theorem outbox_decides (o : Outbox) (steps : List OutboxStep) (row : OutboxRow)
    (hrow : row ∈ o.rows) (hpending : row.pending = true)
    (hroom : ahead row o.rows + joining row steps ≤ room steps) :
    ∃ r ∈ (o.runs steps).rows, r.id = row.id ∧ r.pending = false := by
  rcases waiting_runs steps hrow hpending with hdecided | ⟨hmem, hbound⟩
  · exact hdecided
  · have hpos := ahead_pos hmem hpending
    omega

/-- A sweep of one is undone, a row comes in later, Redis is down, and still the next sweep decides
on the row that was there first. -/
theorem outbox_decides_first :
    ∃ r ∈ (Outbox.runs ⟨[detectedRow], {}⟩
      [.swept { uniformSweep (fun _ => .added) .added with undoneAfter := some 1 },
        .added { detectedRow with id := 2, createdAt := 1 },
        .swept { uniformSweep (fun _ => .raised "timeout") (.raised "timeout") with
          batchSize := 1 }]).rows, r.id = detectedRow.id ∧ r.pending = false :=
  outbox_decides _ _ detectedRow List.mem_cons_self rfl (by decide)

end SelfHealing
