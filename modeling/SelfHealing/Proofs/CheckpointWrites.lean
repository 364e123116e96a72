/-
The pending writes of a checkpoint, as they are read back.

A task that is executed again writes at the same indexes, and may take another path.  On a conflict
the insert replaces the value and leaves the channel, so a write is read back with the channel of
the first write to its index and the value of the last one.

Both may be right by themselves: a replay of the same path writes the same channels, and then
nothing is lost.  The condition is on the calls of the history: under each index the last write has
the channel of the first.
-/
import Mathlib
import SelfHealing.Proofs.CheckpointStore

namespace SelfHealing

/-! ### Positions -/

section Positions

variable {R : Type} {f : R → Nat} {l : List R}

/-- In a list in strict order that leaves out no number, every number stands at its own place. -/
theorem getElem_dense (hsorted : l.Pairwise fun r r' => f r < f r')
    (hdense : ∀ r ∈ l, ∀ j < f r, ∃ r' ∈ l, f r' = j) :
    ∀ (i : Nat) (hi : i < l.length), f l[i] = i := by
  rw [List.pairwise_iff_getElem] at hsorted
  intro i
  induction i using Nat.strong_induction_on with
  | _ i ih =>
      intro hi
      have hge : i ≤ f l[i] := by
        cases i with
        | zero => exact Nat.zero_le _
        | succ k =>
            have hk := ih k (Nat.lt_succ_self k) (by omega)
            have hlt := hsorted k (k + 1) (by omega) hi (Nat.lt_succ_self k)
            omega
      by_contra hne
      obtain ⟨r, hr, heq⟩ := hdense l[i] (List.getElem_mem hi) i (by omega)
      obtain ⟨m, hm, rfl⟩ := List.mem_iff_getElem.mp hr
      rcases Nat.lt_trichotomy m i with hlt | rfl | hgt
      · have := ih m hlt hm
        omega
      · omega
      · have := hsorted i m hi hm hgt
        omega

/-- So the number that is looked for is at its place, or nowhere. -/
theorem getElem?_dense (hsorted : l.Pairwise fun r r' => f r < f r')
    (hdense : ∀ r ∈ l, ∀ j < f r, ∃ r' ∈ l, f r' = j) (i : Nat) (r : R) :
    l[i]? = some r ↔ r ∈ l ∧ f r = i := by
  constructor
  · intro h
    obtain ⟨hi, rfl⟩ := List.getElem?_eq_some_iff.mp h
    exact ⟨List.getElem_mem hi, getElem_dense hsorted hdense i hi⟩
  · rintro ⟨hr, rfl⟩
    obtain ⟨m, hm, rfl⟩ := List.mem_iff_getElem.mp hr
    rw [getElem_dense hsorted hdense m hm]
    exact List.getElem?_eq_getElem hm

end Positions

/-- The item at an index, with its index, is the only one that has it. -/
theorem filter_zipIdx {α : Type} (l : List α) (start i : Nat) :
    (l.zipIdx start).filter (fun item => decide (item.2 = start + i)) =
      (l[i]?.map fun a => (a, start + i)).toList := by
  induction l generalizing start i with
  | nil => rfl
  | cons a l ih =>
      rw [List.zipIdx_cons]
      cases i with
      | zero =>
          rw [List.filter_cons_of_pos (by simp), List.filter_eq_nil_iff.mpr]
          · rfl
          · intro item hitem
            have := (List.mem_zipIdx hitem).1
            simp
            omega
      | succ i =>
          rw [List.filter_cons_of_neg (by simp)]
          have h := ih (start + 1) i
          rw [show start + 1 + i = start + (i + 1) by omega] at h
          rw [h]
          rfl

/-! ### The writes of a history

Under one key there are the inserts of all calls for that task and that index, in their order, and
of these the row has the channel of the first and the value of the last.  That is all that the
conflict clause does; whether it loses something is a matter of the channels alone.
-/

section Calls

variable {V C : Type}

/-- What a call writes at an index of a task. -/
def SaverCall.writeTo (key : CheckpointKey) (taskId : ColumnText) (idx : Nat) :
    SaverCall V C → Option (ColumnText × V)
  | .aput .. => none
  | .aputWrites config writes task =>
      if config.checkpointId.map (fun id => ⟨config.threadId, config.ns, id⟩) = some key ∧
          task = taskId then
        writes[idx]?
      else none

/-- The writes at an index of a task, with their channels and values. -/
def writesTo (calls : List (SaverCall V C)) (key : CheckpointKey) (taskId : ColumnText)
    (idx : Nat) : List (ColumnText × V) :=
  calls.filterMap fun call => call.writeTo key taskId idx

/-- The pending writes of a task, in the order in which they come. -/
def CheckpointTuple.pendingOf (t : CheckpointTuple V) (taskId : ColumnText) :
    List (ColumnText × V) :=
  (t.pendingWrites.filter fun w => decide (w.1 = taskId)).map Prod.snd

/-- Every task writes what it writes at an index to the same channel again, at least at last. -/
def KeepsChannels (calls : List (SaverCall V C)) (key : CheckpointKey) : Prop :=
  ∀ taskId idx, (writesTo calls key taskId idx).head?.map Prod.fst =
    (writesTo calls key taskId idx).getLast?.map Prod.fst

end Calls

namespace Saver

variable {V C : Type} (saver : Saver V C)

/-- The row of a write. -/
def rowOf (key : CheckpointKey) (taskId : ColumnText) (idx : Nat) (write : ColumnText × V) :
    WorkflowCheckpointWrite where
  threadId := key.threadId
  checkpointNs := key.checkpointNs
  checkpointId := key.checkpointId
  taskId := taskId
  idx := idx
  channel := write.1
  type := (saver.encode write.2).format
  value := saver.encode write.2

theorem filter_writeRows (key key' : CheckpointKey) (writes : List (ColumnText × V))
    (taskId taskId' : ColumnText) (idx : Nat) :
    (saver.writeRows key' writes taskId').filter
        (fun row => decide (writeTable.key row = (key, taskId, idx))) =
      if key' = key ∧ taskId' = taskId then
        (writes[idx]?.map (saver.rowOf key taskId idx)).toList
      else [] := by
  have hrows : saver.writeRows key' writes taskId' =
      writes.zipIdx.map fun item => saver.rowOf key' taskId' item.2 item.1 := rfl
  rw [hrows, List.filter_map]
  by_cases hsame : key' = key ∧ taskId' = taskId
  · obtain ⟨rfl, rfl⟩ := hsame
    have hpred : ((fun row => decide (writeTable.key row = (key', taskId', idx))) ∘
        fun item : (ColumnText × V) × Nat => saver.rowOf key' taskId' item.2 item.1) =
        fun item => decide (item.2 = 0 + idx) := by
      funext item
      simp [writeTable, rowOf, WorkflowCheckpointWrite.checkpointKey]
    rw [hpred, filter_zipIdx, if_pos ⟨rfl, rfl⟩]
    cases writes[idx]? with
    | none => rfl
    | some write => simp
  · rw [if_neg hsame, List.filter_eq_nil_iff.mpr, List.map_nil]
    intro item _ hkey
    simp only [Function.comp_apply, decide_eq_true_eq, writeTable, rowOf, Prod.mk.injEq,
      WorkflowCheckpointWrite.checkpointKey] at hkey
    exact hsame ⟨hkey.1, hkey.2.1⟩

theorem filter_insertedWrites (key : CheckpointKey) (taskId : ColumnText) (idx : Nat)
    (call : SaverCall V C) :
    (saver.insertedWrites call).filter
        (fun row => decide (writeTable.key row = (key, taskId, idx))) =
      ((call.writeTo key taskId idx).map (saver.rowOf key taskId idx)).toList := by
  cases call with
  | aput config checkpoint metadata now => rfl
  | aputWrites config writes task =>
      obtain ⟨thread, ns, id, rest⟩ := config
      cases id with
      | none => rfl
      | some id =>
          show (saver.writeRows _ writes task).filter _ = _
          rw [filter_writeRows]
          unfold SaverCall.writeTo
          simp only [Option.map_some, Option.some.injEq]
          split
          · rfl
          · rfl

theorem filter_flatMap_insertedWrites (calls : List (SaverCall V C)) (key : CheckpointKey)
    (taskId : ColumnText) (idx : Nat) :
    (calls.flatMap saver.insertedWrites).filter
        (fun row => decide (writeTable.key row = (key, taskId, idx))) =
      (writesTo calls key taskId idx).map (saver.rowOf key taskId idx) := by
  induction calls with
  | nil => rfl
  | cons call calls ih =>
      rw [List.flatMap_cons, List.filter_append, filter_insertedWrites, ih]
      unfold writesTo
      cases hcall : call.writeTo key taskId idx with
      | none => rw [List.filterMap_cons_none hcall]; rfl
      | some write => rw [List.filterMap_cons_some hcall]; rfl

/-- A row that is changed again and again keeps all but its value. -/
theorem foldl_update (key : CheckpointKey) (taskId : ColumnText) (idx : Nat)
    (row : WorkflowCheckpointWrite) (writes : List (ColumnText × V)) :
    (writes.map (saver.rowOf key taskId idx)).foldl writeTable.update row =
      { row with value := (writes.getLast?.map fun last => saver.encode last.2).getD row.value } := by
  induction writes generalizing row with
  | nil => rfl
  | cons write writes ih =>
      rw [List.map_cons, List.foldl_cons, ih]
      cases writes with
      | nil => rfl
      | cons write' writes => rw [List.getLast?_cons_cons]; rfl

/-- The row of an index has the channel of the first write to it and the value of the last. -/
theorem find_writes_after (calls : List (SaverCall V C)) (key : CheckpointKey)
    (taskId : ColumnText) (idx : Nat) :
    writeTable.find (key, taskId, idx) (saver.after calls).writes =
      (writesTo calls key taskId idx).head?.bind fun first =>
        (writesTo calls key taskId idx).getLast?.map fun last =>
          { saver.rowOf key taskId idx first with value := saver.encode last.2 } := by
  rw [writes_after, Upsert.find_load, filter_flatMap_insertedWrites]
  cases hwrites : writesTo calls key taskId idx with
  | nil => rfl
  | cons first rest =>
      rw [List.map_cons]
      show List.foldl _ none _ = _
      rw [Upsert.foldl_settle, foldl_update]
      cases rest with
      | nil => rfl
      | cons write rest =>
          rw [List.getLast?_cons_cons]
          rfl

/-- Where something was written at an index, there was also at those before it. -/
theorem writesTo_ne_nil {calls : List (SaverCall V C)} {key : CheckpointKey}
    {taskId : ColumnText} {i j : Nat} (hlt : j < i) (h : writesTo calls key taskId i ≠ []) :
    writesTo calls key taskId j ≠ [] := by
  obtain ⟨write, hwrite⟩ := List.exists_mem_of_ne_nil _ h
  obtain ⟨call, hcall, hat⟩ := List.mem_filterMap.mp hwrite
  cases call with
  | aput config checkpoint metadata now => cases hat
  | aputWrites config writes task =>
      by_cases hsame : config.checkpointId.map (fun id => ⟨config.threadId, config.ns, id⟩) =
          some key ∧ task = taskId
      · rw [SaverCall.writeTo, if_pos hsame] at hat
        obtain ⟨hi, -⟩ := List.getElem?_eq_some_iff.mp hat
        have hj : SaverCall.writeTo key taskId j (.aputWrites config writes task) =
            some writes[j] := by
          rw [SaverCall.writeTo, if_pos hsame]
          exact List.getElem?_eq_getElem (by omega)
        exact List.ne_nil_of_mem (List.mem_filterMap.mpr ⟨_, hcall, hj⟩)
      · rw [SaverCall.writeTo, if_neg hsame] at hat
        cases hat

/-- The rows of a task, in the order in which the query gives them. -/
def taskRows (byIdx : Listing.OrderBy Earlier) (store : CheckpointStore) (key : CheckpointKey)
    (taskId : ColumnText) : List WorkflowCheckpointWrite :=
  (byIdx.rows (store.writes.filter fun w => decide (w.checkpointKey = key))).filter
    fun w => decide (w.taskId = taskId)

theorem mem_taskRows {byIdx : Listing.OrderBy Earlier} {store : CheckpointStore}
    {key : CheckpointKey} {taskId : ColumnText} {w : WorkflowCheckpointWrite} :
    w ∈ taskRows byIdx store key taskId ↔
      w ∈ store.writes ∧ w.checkpointKey = key ∧ w.taskId = taskId := by
  unfold taskRows
  rw [List.mem_filter, (byIdx.answers _).mem, List.mem_filter, decide_eq_true_eq,
    decide_eq_true_eq, and_assoc]

/-- They are in strict order, as no two of them have an index in common. -/
theorem taskRows_sorted (byIdx : Listing.OrderBy Earlier) {store : CheckpointStore}
    (hkeys : (store.writes.map writeTable.key).Nodup) (key : CheckpointKey)
    (taskId : ColumnText) :
    (taskRows byIdx store key taskId).Pairwise fun w w' => w.idx < w'.idx := by
  have hdistinct : (byIdx.rows (store.writes.filter fun w =>
      decide (w.checkpointKey = key))).Pairwise fun w w' =>
        writeTable.key w ≠ writeTable.key w' := by
    refine (byIdx.answers _).perm.symm.pairwise ?_ fun h => Ne.symm h
    exact (List.pairwise_map.mp hkeys).sublist List.filter_sublist
  have hboth := (((byIdx.answers _).sorted.and hdistinct).sublist
    (List.filter_sublist (p := fun w => decide (w.taskId = taskId))))
  refine hboth.imp_of_mem ?_
  intro w w' hw hw' h
  obtain ⟨-, hkey, htask⟩ := mem_taskRows.mp hw
  obtain ⟨-, hkey', htask'⟩ := mem_taskRows.mp hw'
  refine lt_of_le_of_ne h.1 fun hidx => h.2 ?_
  show (w.checkpointKey, w.taskId, w.idx) = (w'.checkpointKey, w'.taskId, w'.idx)
  rw [hkey, hkey', htask, htask', hidx]

/-- A row stands at the place that its index says. -/
theorem getElem?_taskRows (byIdx : Listing.OrderBy Earlier) (calls : List (SaverCall V C))
    (key : CheckpointKey) (taskId : ColumnText) (idx : Nat) :
    (taskRows byIdx (saver.after calls) key taskId)[idx]? =
      writeTable.find (key, taskId, idx) (saver.after calls).writes := by
  have hkeys : ((saver.after calls).writes.map writeTable.key).Nodup := by
    rw [writes_after]
    exact Upsert.keys_nodup_load writeTable _ List.nodup_nil
  have hrow : ∀ i w, writeTable.find (key, taskId, i) (saver.after calls).writes = some w ↔
      w ∈ taskRows byIdx (saver.after calls) key taskId ∧ w.idx = i := by
    intro i w
    rw [Upsert.find_eq_some_iff writeTable hkeys, mem_taskRows]
    simp only [writeTable, Prod.mk.injEq]
    tauto
  have hdense : ∀ w ∈ taskRows byIdx (saver.after calls) key taskId, ∀ j < w.idx,
      ∃ w' ∈ taskRows byIdx (saver.after calls) key taskId, w'.idx = j := by
    intro w hw j hlt
    have hfind := (hrow w.idx w).mpr ⟨hw, rfl⟩
    rw [find_writes_after] at hfind
    have hne : writesTo calls key taskId w.idx ≠ [] := by
      intro hnil
      rw [hnil] at hfind
      cases hfind
    obtain ⟨first, rest, hwrites⟩ := List.exists_cons_of_ne_nil (writesTo_ne_nil hlt hne)
    have hsome := saver.find_writes_after calls key taskId j
    rw [hwrites, List.head?_cons, List.getLast?_cons] at hsome
    exact ⟨_, (hrow j _).mp hsome⟩
  ext w
  rw [getElem?_dense (taskRows_sorted byIdx hkeys key taskId) hdense, hrow]

/-! ### What is read back -/

theorem pendingOf_eq (t : CheckpointTuple V) (listing : List WorkflowCheckpointWrite)
    (h : t.pendingWrites = listing.filterMap saver.pendingWrite) (taskId : ColumnText) :
    t.pendingOf taskId = (listing.filter fun w => decide (w.taskId = taskId)).filterMap
      fun w => (saver.decode w.value).map fun val => (w.channel, val) := by
  unfold CheckpointTuple.pendingOf
  rw [h]
  clear h
  induction listing with
  | nil => rfl
  | cons w listing ih =>
      by_cases htask : w.taskId = taskId
      · rw [List.filter_cons_of_pos (by simpa using htask)]
        cases hval : saver.decode w.value with
        | none =>
            rw [List.filterMap_cons_none (by simp [pendingWrite, hval]),
              List.filterMap_cons_none (by simp [hval]), ih]
        | some val =>
            rw [List.filterMap_cons_some (b := (w.taskId, w.channel, val))
                (by simp [pendingWrite, hval]),
              List.filterMap_cons_some (b := (w.channel, val)) (by simp [hval]),
              List.filter_cons_of_pos (by simpa using htask), List.map_cons, ih]
      · rw [List.filter_cons_of_neg (by simpa using htask), ← ih]
        cases hval : saver.decode w.value with
        | none => rw [List.filterMap_cons_none (by simp [pendingWrite, hval])]
        | some val =>
            rw [List.filterMap_cons_some (b := (w.taskId, w.channel, val))
                (by simp [pendingWrite, hval]),
              List.filter_cons_of_neg (by simpa using htask)]

theorem getElem?_filterMap_isSome {α β : Type} {f : α → Option β} {l : List α}
    (h : ∀ a ∈ l, (f a).isSome) (i : Nat) : (l.filterMap f)[i]? = l[i]?.bind f := by
  induction l generalizing i with
  | nil => rfl
  | cons a l ih =>
      obtain ⟨ha, hl⟩ := List.forall_mem_cons.mp h
      obtain ⟨b, hb⟩ := Option.isSome_iff_exists.mp ha
      rw [List.filterMap_cons_some hb]
      cases i with
      | zero => exact hb.symm
      | succ i => exact ih hl i

/-- A pending write has the channel of the first write to its index and the value of the last. -/
theorem agetTuple_pendingOf (newest : Listing.OrderBy Newer) (byIdx : Listing.OrderBy Earlier)
    (calls : List (SaverCall V C)) (config : RunnableConfig C) {row : WorkflowCheckpoint}
    (h : selectedRow newest (saver.after calls) config = some row) :
    ∃ t, saver.agetTuple newest byIdx (saver.after calls) config = some (some t) ∧
      t.config = row.key ∧
      ∀ taskId idx, (t.pendingOf taskId)[idx]? =
        (writesTo calls row.key taskId idx).head?.bind fun first =>
          (writesTo calls row.key taskId idx).getLast?.map fun last => (first.1, last.2) := by
  have hmem : row ∈ (saver.after calls).checkpoints := by
    unfold selectedRow at h
    split at h
    · exact (List.mem_filter.mp (List.mem_of_find?_eq_some h)).1
    · exact (List.mem_filter.mp (((newest.answers _).mem row).mp (List.mem_of_head? h))).1
  obtain ⟨checkpoint, metadata, hcheckpoint, hmetadata⟩ := saver.checkpoints_decode calls row hmem
  have htuple := saver.tupleOf_after byIdx calls hcheckpoint hmetadata
  refine ⟨_, by rw [agetTuple, h]; exact congrArg (Option.map some) htuple, rfl, ?_⟩
  intro taskId idx
  rw [saver.pendingOf_eq _ _ rfl]
  show (List.filterMap _ (taskRows byIdx (saver.after calls) row.key taskId))[idx]? = _
  rw [getElem?_filterMap_isSome, getElem?_taskRows, find_writes_after]
  · cases (writesTo calls row.key taskId idx).head? with
    | none => rfl
    | some first =>
        cases (writesTo calls row.key taskId idx).getLast? with
        | none => rfl
        | some last =>
            show (saver.decode (saver.encode last.2)).map _ = _
            rw [decode_encode]
            rfl
  · intro w hw
    rw [Option.isSome_map]
    exact saver.writes_decode calls w (mem_taskRows.mp hw).1

/-- `aget_tuple` returns, for each task and index, the channel and the value of the last write. -/
def ReturnsLastWrites (newest : Listing.OrderBy Newer) (byIdx : Listing.OrderBy Earlier)
    (calls : List (SaverCall V C)) (config : RunnableConfig C) : Prop :=
  ∃ t, saver.agetTuple newest byIdx (saver.after calls) config = some (some t) ∧
    ∀ taskId idx, (t.pendingOf taskId)[idx]? = (writesTo calls t.config taskId idx).getLast?

/-- **The last writes are what is returned** for the checkpoint that is found, if and only if the
first and the last write to every index of a task are to the same channel. -/
theorem last_writes_returned_iff (newest : Listing.OrderBy Newer)
    (byIdx : Listing.OrderBy Earlier) (calls : List (SaverCall V C)) (config : RunnableConfig C)
    {row : WorkflowCheckpoint} (h : selectedRow newest (saver.after calls) config = some row) :
    saver.ReturnsLastWrites newest byIdx calls config ↔ KeepsChannels calls row.key := by
  obtain ⟨t, hget, hconfig, hpending⟩ := saver.agetTuple_pendingOf newest byIdx calls config h
  have hreturns : saver.ReturnsLastWrites newest byIdx calls config ↔
      ∀ taskId idx, (t.pendingOf taskId)[idx]? =
        (writesTo calls row.key taskId idx).getLast? := by
    rw [← hconfig]
    constructor
    · rintro ⟨t', hget', hlast⟩
      rw [hget] at hget'
      cases hget'
      exact hlast
    · intro hlast
      exact ⟨t, hget, hlast⟩
  rw [hreturns]
  refine forall_congr' fun taskId => forall_congr' fun idx => ?_
  rw [hpending]
  cases hwrites : writesTo calls row.key taskId idx with
  | nil => simp
  | cons first rest =>
      rw [List.head?_cons, List.getLast?_cons]
      simp [Prod.ext_iff]

/-- A checkpoint is put, a task writes to it, and then it writes something else. -/
def retriedWrites : List (SaverCall Sample Unit) :=
  [.aput (Sample.config none) (.checkpoint false) (.metadata false) 0,
   .aputWrites (Sample.config (some ⟨"1", Sample.one_fits⟩)) [(⟨"plan", by decide⟩, .text false)]
     ⟨"task", by decide⟩,
   .aputWrites (Sample.config (some ⟨"1", Sample.one_fits⟩)) [(⟨"failure", by decide⟩, .text true)]
     ⟨"task", by decide⟩]

theorem retriedWrites_row : selectedRow (Listing.sorting Newer) (Sample.saver.after retriedWrites)
    (Sample.config (some ⟨"1", by decide⟩)) = some (Sample.saver.checkpointRow
      (Sample.config none) (.checkpoint false) (.metadata false) 0) := rfl

theorem last_writes_returned_retry :
    Sample.saver.ReturnsLastWrites (Listing.sorting Newer) (Listing.sorting Earlier)
        retriedWrites (Sample.config (some ⟨"1", by decide⟩)) ↔
      KeepsChannels retriedWrites ⟨⟨"incident-1", by decide⟩, ⟨"", by decide⟩, ⟨"1", by decide⟩⟩ :=
  Sample.saver.last_writes_returned_iff (Listing.sorting Newer) (Listing.sorting Earlier)
    retriedWrites (Sample.config (some ⟨"1", by decide⟩)) retriedWrites_row

/-- What is returned is the value of the second write, on the channel of the first one. -/
theorem retried_write_on_first_channel :
    ¬ Sample.saver.ReturnsLastWrites (Listing.sorting Newer) (Listing.sorting Earlier)
      retriedWrites (Sample.config (some ⟨"1", by decide⟩)) := by
  rintro ⟨t, hget, hlast⟩
  obtain ⟨t', hget', hconfig, hpending⟩ := Sample.saver.agetTuple_pendingOf
    (Listing.sorting Newer) (Listing.sorting Earlier) retriedWrites
    (Sample.config (some ⟨"1", by decide⟩)) retriedWrites_row
  rw [hget'] at hget
  cases hget
  have hfirst := (hpending ⟨"task", by decide⟩ 0).symm.trans (hlast ⟨"task", by decide⟩ 0)
  rw [hconfig] at hfirst
  exact absurd hfirst (by decide)

end Saver

end SelfHealing
