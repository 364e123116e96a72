/-
The checkpoints of a thread, as they are listed.

`alist` compares identifiers where a checkpoint is asked for that is older than another one, does
nothing with the filter, and takes a limit of zero for none.  What it yields is what was asked for
if and only if that makes no difference for any checkpoint that can come before the limit.

The statement is about every configuration, every filter, every limit, and every order in which the
rows of equal identifiers may come.  A condition can therefore fail in a row that is never seen:
what counts are the rows that may come before the limit, of which `Lib/Listing` is a theory.
-/
import Mathlib
import SelfHealing.Proofs.CheckpointStore

namespace SelfHealing

namespace Saver

variable {V C : Type} (saver : Saver V C)

/-! ### What is asked for -/

section Asked

variable [DecidableEq V] (lookup : V → String → Option V)

/-- Whether metadata match every entry of a filter. -/
def matchesFilter (filter : Option (List (String × V))) (metadata : V) : Bool :=
  (filter.getD []).all fun entry => decide (lookup metadata entry.1 = some entry.2)

/-- Whether a checkpoint was created before another one.  For one that there is not, the order of
the identifiers is all that there is. -/
def olderThanCheckpoint (collate : String → String → Bool) (store : CheckpointStore)
    (before : Option (RunnableConfig C)) (row : WorkflowCheckpoint) : Bool :=
  match before, before.bind fun before => given before.checkpointId with
  | some before, some id =>
      match checkpointTable.find ⟨before.threadId, before.ns, id⟩ store.checkpoints with
      | some other => decide (row.createdAt < other.createdAt)
      | none => collate row.checkpointId.val id.val
  | _, _ => true

/-- The checkpoints that are asked for. -/
def askedFor (collate : String → String → Bool) (store : CheckpointStore)
    (filter : Option (List (String × V))) (before : Option (RunnableConfig C))
    (row : WorkflowCheckpoint) : Bool :=
  (saver.decode row.checkpointMetadata).any (matchesFilter lookup filter) &&
    olderThanCheckpoint collate store before row

end Asked

/-- What is read of a checkpoint itself. -/
def recordOf (row : WorkflowCheckpoint) : Option (CheckpointRecord V) := do
  let checkpoint ← saver.decode row.checkpoint
  let metadata ← saver.decode row.checkpointMetadata
  some
    { config := row.key
      checkpoint, metadata
      parentConfig :=
        (given row.parentCheckpointId).map fun parentId =>
          ⟨row.threadId, row.checkpointNs, parentId⟩ }

/-- Rows up to a limit. -/
def cut (limit : Option Int) (rows : List WorkflowCheckpoint) : List WorkflowCheckpoint :=
  match limit with
  | none => rows
  | some limit => rows.take limit.toNat

/-! ### What is read of a row -/

theorem toRecord_tupleOf (byIdx : Listing.OrderBy Earlier) (calls : List (SaverCall V C))
    {row : WorkflowCheckpoint} (h : row ∈ (saver.after calls).checkpoints) :
    ∃ t, saver.tupleOf byIdx (saver.after calls) row = some t ∧
      saver.recordOf row = some t.toCheckpointRecord := by
  obtain ⟨checkpoint, metadata, hcheckpoint, hmetadata⟩ := saver.checkpoints_decode calls row h
  refine ⟨_, saver.tupleOf_after byIdx calls hcheckpoint hmetadata, ?_⟩
  unfold recordOf
  rw [hcheckpoint, hmetadata]
  rfl

theorem mapM_tupleOf (byIdx : Listing.OrderBy Earlier) (calls : List (SaverCall V C))
    {rows : List WorkflowCheckpoint} (h : ∀ row ∈ rows, row ∈ (saver.after calls).checkpoints) :
    ∃ tuples, rows.mapM (saver.tupleOf byIdx (saver.after calls)) = some tuples ∧
      tuples.map (fun t => some t.toCheckpointRecord) = rows.map saver.recordOf := by
  induction rows with
  | nil => exact ⟨[], rfl, rfl⟩
  | cons row rows ih =>
      obtain ⟨hrow, hrows⟩ := List.forall_mem_cons.mp h
      obtain ⟨t, htuple, hrecord⟩ := saver.toRecord_tupleOf byIdx calls hrow
      obtain ⟨tuples, hmap, hrecords⟩ := ih hrows
      refine ⟨t :: tuples, ?_, ?_⟩
      · rw [List.mapM_cons, htuple, hmap]
        rfl
      · rw [List.map_cons, List.map_cons, hrecord, hrecords]

theorem checkpoint_keys_nodup (calls : List (SaverCall V C)) :
    ((saver.after calls).checkpoints.map WorkflowCheckpoint.key).Nodup := by
  rw [checkpoints_after]
  exact Upsert.keys_nodup_load checkpointTable _ List.nodup_nil

/-- Different checkpoints are read as different records. -/
theorem recordOf_inj (calls : List (SaverCall V C)) {row row' : WorkflowCheckpoint}
    (h : row ∈ (saver.after calls).checkpoints) (h' : row' ∈ (saver.after calls).checkpoints)
    (heq : saver.recordOf row = saver.recordOf row') : row = row' := by
  have hkey : ∀ r ∈ (saver.after calls).checkpoints,
      (saver.recordOf r).map CheckpointRecord.config = some r.key := by
    intro r hr
    obtain ⟨checkpoint, metadata, hcheckpoint, hmetadata⟩ := saver.checkpoints_decode calls r hr
    unfold recordOf
    rw [hcheckpoint, hmetadata]
    rfl
  have hsame := (hkey row h).symm.trans ((congrArg _ heq).trans (hkey row' h'))
  exact List.inj_on_of_nodup_map (saver.checkpoint_keys_nodup calls) h h' (Option.some.inj hsame)

theorem map_recordOf_inj (calls : List (SaverCall V C)) {rows rows' : List WorkflowCheckpoint}
    (h : ∀ row ∈ rows, row ∈ (saver.after calls).checkpoints)
    (h' : ∀ row ∈ rows', row ∈ (saver.after calls).checkpoints)
    (heq : rows.map saver.recordOf = rows'.map saver.recordOf) : rows = rows' := by
  induction rows generalizing rows' with
  | nil => exact (List.map_eq_nil_iff.mp heq.symm).symm
  | cons row rows ih =>
      cases rows' with
      | nil => cases heq
      | cons row' rows' =>
          obtain ⟨hrow, hrows⟩ := List.forall_mem_cons.mp h
          obtain ⟨hrow', hrows'⟩ := List.forall_mem_cons.mp h'
          rw [List.map_cons, List.map_cons, List.cons.injEq] at heq
          rw [saver.recordOf_inj calls hrow hrow' heq.1, ih hrows hrows' heq.2]

/-- So the records tell which rows were read. -/
theorem bind_recordOf_inj (calls : List (SaverCall V C)) {row row' : Option WorkflowCheckpoint}
    (h : ∀ r, row = some r → r ∈ (saver.after calls).checkpoints)
    (h' : ∀ r, row' = some r → r ∈ (saver.after calls).checkpoints)
    (heq : row.bind saver.recordOf = row'.bind saver.recordOf) : row = row' := by
  have hsome : ∀ r ∈ (saver.after calls).checkpoints, saver.recordOf r ≠ none := by
    intro r hr hnone
    obtain ⟨t, -, hrecord⟩ := saver.toRecord_tupleOf (Listing.sorting Earlier) calls hr
    rw [hnone] at hrecord
    cases hrecord
  cases row with
  | none =>
      cases row' with
      | none => rfl
      | some r' => exact absurd heq.symm (hsome r' (h' r' rfl))
  | some r =>
      cases row' with
      | none => exact absurd heq (hsome r (h r rfl))
      | some r' => rw [saver.recordOf_inj calls (h r rfl) (h' r' rfl) heq]

/-! ### Listing

A query with a limit shows rows that are not determined where identifiers tie, and the filter is
left out of it.  Both sides of the statement are therefore sets of answers, and they agree if the
rows that may come before the limit are the same under both conditions.
-/

section Listing

variable [DecidableEq V] (lookup : V → String → Option V) (collate : String → String → Bool)

/-- `alist` yields the checkpoints that are asked for, in an order from the newest one on, up to the
limit. -/
def ListsAskedFor (calls : List (SaverCall V C)) (config : Option (RunnableConfig C))
    (filter : Option (List (String × V))) (before : Option (RunnableConfig C))
    (limit : Option Int) : Prop :=
  ∀ newest byIdx, ∃ tuples wanted,
    saver.alist newest byIdx collate (saver.after calls) config filter before limit =
      some tuples ∧
    Listing.Answers Newer wanted
      (((config.map (threadRows (saver.after calls))).getD []).filter
        (saver.askedFor lookup collate (saver.after calls) filter before)) ∧
    tuples.map (fun t => some t.toCheckpointRecord) = (cut limit wanted).map saver.recordOf

/-- The clause and the limit of `alist` make no difference. -/
def AsksAsListed (calls : List (SaverCall V C)) (config : Option (RunnableConfig C))
    (filter : Option (List (String × V))) (before : Option (RunnableConfig C))
    (limit : Option Int) : Prop :=
  ∀ c, config = some c →
    match limit with
    | none => ∀ row ∈ threadRows (saver.after calls) c, idBefore collate before row =
        saver.askedFor lookup collate (saver.after calls) filter before row
    | some limit =>
        0 ≤ limit ∧
        if limit = 0 then
          ∀ row ∈ threadRows (saver.after calls) c, idBefore collate before row = false
        else
          Listing.AgreeBefore Newer limit.toNat (idBefore collate before)
            (saver.askedFor lookup collate (saver.after calls) filter before)
            (threadRows (saver.after calls) c)

omit [DecidableEq V] in
theorem threadRows_nodup (calls : List (SaverCall V C)) (config : RunnableConfig C) :
    (threadRows (saver.after calls) config).Nodup :=
  (List.Nodup.of_map _ (saver.checkpoint_keys_nodup calls)).filter _

omit [DecidableEq V] in
/-- `alist` yields the records of the rows that its query gives. -/
theorem alist_eq (newest : Listing.OrderBy Newer) (byIdx : Listing.OrderBy Earlier)
    (calls : List (SaverCall V C)) (config : RunnableConfig C)
    (filter : Option (List (String × V))) (before : Option (RunnableConfig C))
    {limit : Option Int} {rows : List WorkflowCheckpoint}
    (h : limited limit (newest.rows
      ((threadRows (saver.after calls) config).filter (idBefore collate before))) = some rows)
    (hrows : ∀ row ∈ rows, row ∈ (saver.after calls).checkpoints) :
    ∃ tuples,
      saver.alist newest byIdx collate (saver.after calls) (some config) filter before limit =
        some tuples ∧
      tuples.map (fun t => some t.toCheckpointRecord) = rows.map saver.recordOf := by
  obtain ⟨tuples, hmap, hrecords⟩ := saver.mapM_tupleOf byIdx calls hrows
  refine ⟨tuples, ?_, hrecords⟩
  show (limited limit _).bind _ = _
  rw [h]
  exact hmap

theorem mem_of_limited {limit : Option Int} {listing rows : List WorkflowCheckpoint}
    (h : limited limit listing = some rows) : ∀ row ∈ rows, row ∈ listing := by
  intro row hrow
  unfold limited at h
  split at h
  · rw [Option.some.inj h]
    exact hrow
  · split at h
    · rw [Option.some.inj h]
      exact hrow
    · split at h
      · cases h
      · rw [← Option.some.inj h] at hrow
        exact List.mem_of_mem_take hrow

/-- For every answer that the query may get, its rows up to the limit are those of an answer to what
is asked for. -/
theorem listsAskedFor_some (calls : List (SaverCall V C)) (config : RunnableConfig C)
    (filter : Option (List (String × V))) (before : Option (RunnableConfig C))
    (limit : Option Int) :
    saver.ListsAskedFor lookup collate calls (some config) filter before limit ↔
    ∀ listing, Listing.Answers Newer listing ((threadRows (saver.after calls) config).filter
        (idBefore collate before)) →
      ∃ wanted, Listing.Answers Newer wanted ((threadRows (saver.after calls) config).filter
          (saver.askedFor lookup collate (saver.after calls) filter before)) ∧
        limited limit listing = some (cut limit wanted) := by
  have hstored : ∀ {p : WorkflowCheckpoint → Bool} {listing : List WorkflowCheckpoint},
      Listing.Answers Newer listing ((threadRows (saver.after calls) config).filter p) →
      ∀ row ∈ listing, row ∈ (saver.after calls).checkpoints := fun hanswers row hrow =>
    List.mem_of_mem_filter (List.mem_of_mem_filter ((hanswers.mem row).mp hrow))
  have hcut : ∀ (wanted : List WorkflowCheckpoint), ∀ row ∈ cut limit wanted, row ∈ wanted := by
    intro wanted row hrow
    cases limit with
    | none => exact hrow
    | some n => exact List.mem_of_mem_take hrow
  constructor
  · intro h listing hanswers
    obtain ⟨newest, hnewest⟩ := Listing.exists_orderBy Newer hanswers
    obtain ⟨tuples, wanted, hlist, hwanted, hrecords⟩ := h newest (Listing.sorting Earlier)
    refine ⟨wanted, hwanted, ?_⟩
    cases hlimited : limited limit listing with
    | none =>
        have hnone : saver.alist newest (Listing.sorting Earlier) collate (saver.after calls)
            (some config) filter before limit = none := by
          show (limited limit (newest.rows _)).bind _ = none
          rw [hnewest, hlimited]
          rfl
        rw [hnone] at hlist
        cases hlist
    | some rows =>
        have hrows : ∀ row ∈ rows, row ∈ (saver.after calls).checkpoints := fun row hrow =>
          hstored hanswers row (mem_of_limited hlimited row hrow)
        obtain ⟨tuples', hlist', hrecords'⟩ := saver.alist_eq collate newest
          (Listing.sorting Earlier) calls config filter before (by rw [hnewest, hlimited]) hrows
        rw [hlist'] at hlist
        cases hlist
        rw [saver.map_recordOf_inj calls hrows
          (fun row hrow => hstored hwanted row (hcut wanted row hrow))
          (hrecords'.symm.trans hrecords)]
  · intro h newest byIdx
    obtain ⟨wanted, hwanted, hlimited⟩ := h _ (newest.answers _)
    obtain ⟨tuples, hlist, hrecords⟩ := saver.alist_eq collate newest byIdx calls config filter
      before hlimited fun row hrow => hstored hwanted row (hcut wanted row hrow)
    exact ⟨tuples, wanted, hlist, hwanted, hrecords⟩

/-- The rows that are listed are those asked for exactly if neither the clause nor the limit makes a
difference. -/
theorem listsAskedFor_iff (calls : List (SaverCall V C)) (config : Option (RunnableConfig C))
    (filter : Option (List (String × V))) (before : Option (RunnableConfig C))
    (limit : Option Int) :
    saver.ListsAskedFor lookup collate calls config filter before limit ↔
      saver.AsksAsListed lookup collate calls config filter before limit := by
  cases config with
  | none =>
      refine iff_of_true ?_ (fun c hc => by cases hc)
      intro newest byIdx
      refine ⟨[], [], rfl, ⟨List.Perm.refl _, List.Pairwise.nil⟩, ?_⟩
      cases limit with
      | none => rfl
      | some n => rw [cut, List.take_nil]; rfl
  | some config =>
      rw [listsAskedFor_some]
      unfold AsksAsListed
      simp only [Option.some.injEq, forall_eq']
      have hsorted := Listing.answers_insertionSort Newer
      cases limit with
      | none =>
          rw [← Listing.uncut_iff Newer]
          refine forall_congr' fun listing => imp_congr_right fun hanswers => ?_
          constructor
          · rintro ⟨wanted, hwanted, hlimited⟩
            rw [Option.some.inj hlimited]
            exact hwanted
          · intro hwanted
            exact ⟨listing, hwanted, rfl⟩
      | some n =>
          rcases lt_trichotomy n 0 with hneg | rfl | hpos
          · refine iff_of_false ?_ fun h => by omega
            intro h
            obtain ⟨wanted, -, hlimited⟩ := h _ (hsorted _)
            rw [limited, if_neg (by omega), if_pos hneg] at hlimited
            cases hlimited
          · simp only [le_refl, true_and, if_true]
            constructor
            · intro h
              obtain ⟨wanted, -, hlimited⟩ := h _ (hsorted _)
              have hempty : ((threadRows (saver.after calls) config).filter
                  (idBefore collate before)).insertionSort Newer = [] :=
                (Option.some.inj hlimited).trans (List.take_zero (l := wanted))
              intro row hrow
              by_contra hlisted
              have hmem := ((hsorted _).mem row).mpr
                (List.mem_filter.mpr ⟨hrow, by simpa using hlisted⟩)
              rw [hempty] at hmem
              exact List.not_mem_nil hmem
            · intro h listing hanswers
              refine ⟨_, hsorted _, ?_⟩
              rw [List.filter_eq_nil_iff.mpr (fun row hrow => by simp [h row hrow])] at hanswers
              rw [List.Perm.eq_nil hanswers.perm]
              rfl
          · have hne : n ≠ 0 := by omega
            simp only [hpos.le, true_and, if_neg hne]
            rw [← Listing.cut_iff Newer (saver.threadRows_nodup calls config)]
            refine forall_congr' fun listing => imp_congr_right fun hanswers => ?_
            refine exists_congr fun wanted => and_congr_right fun hwanted => ?_
            rw [limited, if_neg hne, if_neg (by omega), Option.some.injEq, cut]

/-! ### The first one -/

/-- The first checkpoint that `alist` yields is the one that `aget_tuple` returns without an
identifier. -/
def FirstIsLatest (calls : List (SaverCall V C)) (config : RunnableConfig C)
    (filter : Option (List (String × V))) (before : Option (RunnableConfig C))
    (limit : Option Int) : Prop :=
  ∀ newest newest' byIdx byIdx', ∃ tuples latest,
    saver.alist newest byIdx collate (saver.after calls) (some config) filter before limit =
      some tuples ∧
    saver.agetTuple newest' byIdx' (saver.after calls) { config with checkpointId := none } =
      some latest ∧
    tuples.head?.map CheckpointTuple.toCheckpointRecord =
      latest.map CheckpointTuple.toCheckpointRecord

/-- No two checkpoints are both the newest one. -/
def SoleNewest (rows : List WorkflowCheckpoint) : Prop :=
  ∀ row ∈ rows, ∀ row' ∈ rows, (∀ s ∈ rows, Newer row s) → (∀ s ∈ rows, Newer row' s) → row = row'

theorem head?_of_limited {limit : Option Int} (hlimit : ∀ n, limit = some n → 0 ≤ n)
    (listing : List WorkflowCheckpoint) :
    ∃ rows, limited limit listing = some rows ∧ rows.head? = listing.head? := by
  cases limit with
  | none => exact ⟨listing, rfl, rfl⟩
  | some n =>
      have hnonneg := hlimit n rfl
      by_cases hzero : n = 0
      · exact ⟨listing, by rw [limited, if_pos hzero], rfl⟩
      · refine ⟨listing.take n.toNat, by rw [limited, if_neg hzero, if_neg (by omega)], ?_⟩
        rw [List.head?_take, if_neg (by omega)]

omit [DecidableEq V] in
/-- Both read the record of a row that comes first. -/
theorem first_records (newest newest' : Listing.OrderBy Newer)
    (byIdx byIdx' : Listing.OrderBy Earlier) (calls : List (SaverCall V C))
    (config : RunnableConfig C) (filter : Option (List (String × V)))
    {before : Option (RunnableConfig C)} {limit : Option Int}
    (hbefore : (before.bind fun before => given before.checkpointId) = none)
    (hlimit : ∀ n, limit = some n → 0 ≤ n) :
    ∃ tuples latest,
      saver.alist newest byIdx collate (saver.after calls) (some config) filter before limit =
        some tuples ∧
      saver.agetTuple newest' byIdx' (saver.after calls) { config with checkpointId := none } =
        some latest ∧
      tuples.head?.map CheckpointTuple.toCheckpointRecord =
        (newest.rows (threadRows (saver.after calls) config)).head?.bind saver.recordOf ∧
      latest.map CheckpointTuple.toCheckpointRecord =
        (newest'.rows (threadRows (saver.after calls) config)).head?.bind saver.recordOf := by
  have hstored : ∀ (order : Listing.OrderBy Newer),
      ∀ row ∈ order.rows (threadRows (saver.after calls) config),
        row ∈ (saver.after calls).checkpoints := fun order row hrow =>
    List.mem_of_mem_filter (((order.answers _).mem row).mp hrow)
  have hall : (threadRows (saver.after calls) config).filter (idBefore collate before) =
      threadRows (saver.after calls) config := by
    refine List.filter_eq_self.mpr fun row _ => ?_
    unfold idBefore
    rw [hbefore]
  obtain ⟨rows, hrows, hhead⟩ :=
    head?_of_limited hlimit (newest.rows (threadRows (saver.after calls) config))
  obtain ⟨tuples, hlist, hrecords⟩ := saver.alist_eq collate newest byIdx calls config filter
    before (by rw [hall, hrows]) fun row hrow =>
      hstored newest row (mem_of_limited hrows row hrow)
  have hfirst : tuples.head?.map CheckpointTuple.toCheckpointRecord =
      (newest.rows (threadRows (saver.after calls) config)).head?.bind saver.recordOf := by
    rw [← hhead]
    cases tuples with
    | nil => rw [List.map_eq_nil_iff.mp hrecords.symm]; rfl
    | cons t tuples =>
        cases rows with
        | nil => cases hrecords
        | cons row rows => exact (List.cons.inj hrecords).1
  have hselected : selectedRow newest' (saver.after calls) { config with checkpointId := none } =
      (newest'.rows (threadRows (saver.after calls) config)).head? := rfl
  cases hlatest : (newest'.rows (threadRows (saver.after calls) config)).head? with
  | none =>
      refine ⟨tuples, none, hlist, ?_, hfirst, rfl⟩
      rw [agetTuple, hselected, hlatest]
  | some row =>
      obtain ⟨t, htuple, hrecord⟩ :=
        saver.toRecord_tupleOf byIdx' calls (hstored newest' row (List.mem_of_head? hlatest))
      refine ⟨tuples, some t, hlist, ?_, hfirst, hrecord.symm⟩
      rw [agetTuple, hselected, hlatest]
      exact congrArg (Option.map some) htuple

omit [DecidableEq V] in
theorem firstIsLatest_iff (calls : List (SaverCall V C)) (config : RunnableConfig C)
    (filter : Option (List (String × V))) {before : Option (RunnableConfig C)}
    {limit : Option Int}
    (hbefore : (before.bind fun before => given before.checkpointId) = none)
    (hlimit : ∀ n, limit = some n → 0 ≤ n) :
    saver.FirstIsLatest collate calls config filter before limit ↔
      SoleNewest (threadRows (saver.after calls) config) := by
  unfold SoleNewest
  rw [← Listing.first_iff Newer]
  constructor
  · intro h listing listing' hanswers hanswers'
    obtain ⟨newest, hnewest⟩ := Listing.exists_orderBy Newer hanswers
    obtain ⟨newest', hnewest'⟩ := Listing.exists_orderBy Newer hanswers'
    obtain ⟨tuples, latest, hlist, hget, hsame⟩ :=
      h newest newest' (Listing.sorting Earlier) (Listing.sorting Earlier)
    obtain ⟨tuples', latest', hlist', hget', hfirst, hlatest⟩ := saver.first_records collate
      newest newest' (Listing.sorting Earlier) (Listing.sorting Earlier) calls config filter
      hbefore hlimit
    rw [hlist] at hlist'
    rw [hget] at hget'
    cases hlist'
    cases hget'
    rw [hsame, hlatest, hnewest, hnewest'] at hfirst
    have hstored : ∀ {l : List WorkflowCheckpoint},
        Listing.Answers Newer l (threadRows (saver.after calls) config) → ∀ row,
        l.head? = some row → row ∈ (saver.after calls).checkpoints := fun hl row hrow =>
      List.mem_of_mem_filter ((hl.mem row).mp (List.mem_of_head? hrow))
    exact saver.bind_recordOf_inj calls (hstored hanswers) (hstored hanswers') hfirst.symm
  · intro h newest newest' byIdx byIdx'
    obtain ⟨tuples, latest, hlist, hget, hfirst, hlatest⟩ := saver.first_records collate newest
      newest' byIdx byIdx' calls config filter hbefore hlimit
    refine ⟨tuples, latest, hlist, hget, ?_⟩
    rw [hfirst, hlatest, h _ _ (newest.answers _) (newest'.answers _)]

/-! ### Both

Retrieving the latest checkpoint and listing it are two queries; they agree where the first row is
the only newest one.
-/

/-- **What `alist` yields is what was asked for**, and where everything is asked for it begins with
what `aget_tuple` returns. -/
def AgreesWithRetrieval (calls : List (SaverCall V C)) (config : Option (RunnableConfig C))
    (filter : Option (List (String × V))) (before : Option (RunnableConfig C))
    (limit : Option Int) : Prop :=
  saver.ListsAskedFor lookup collate calls config filter before limit ∧
    (filter.getD [] = [] → (before.bind fun before => given before.checkpointId) = none →
      ∀ c, config = some c → saver.FirstIsLatest collate calls c filter before limit)

theorem listing_agrees_iff (calls : List (SaverCall V C)) (config : Option (RunnableConfig C))
    (filter : Option (List (String × V))) (before : Option (RunnableConfig C))
    (limit : Option Int) :
    saver.AgreesWithRetrieval lookup collate calls config filter before limit ↔
      saver.AsksAsListed lookup collate calls config filter before limit ∧
      (filter.getD [] = [] → (before.bind fun before => given before.checkpointId) = none →
        ∀ c, config = some c → SoleNewest (threadRows (saver.after calls) c)) := by
  unfold AgreesWithRetrieval
  rw [listsAskedFor_iff]
  refine and_congr_right fun hasks => ?_
  refine forall_congr' fun hfilter => forall_congr' fun hbefore => ?_
  refine forall_congr' fun c => forall_congr' fun hc => ?_
  refine saver.firstIsLatest_iff collate calls c filter hbefore fun n hn => ?_
  have hlimit := hasks c hc
  rw [hn] at hlimit
  exact hlimit.1

end Listing

/-- Two checkpoints are put, and those with the metadata of the second one are asked for. -/
def twoCheckpoints : List (SaverCall Sample Unit) :=
  [.aput (Sample.config none) (.checkpoint false) (.metadata false) 0,
   .aput (Sample.config (some ⟨"1", Sample.one_fits⟩)) (.checkpoint true) (.metadata true) 1]

/-- The first one is listed as well. -/
theorem listing_ignores_filter :
    ¬ Sample.saver.AgreesWithRetrieval Sample.lookup (fun id id' => decide (id < id'))
      twoCheckpoints (some (Sample.config none)) (some [("source", .text true)]) none none := by
  intro h
  have hasks := (Sample.saver.listsAskedFor_iff ..).mp h.1 _ rfl
  have hfirst := hasks (Sample.saver.checkpointRow (Sample.config none) (.checkpoint false)
    (.metadata false) 0) List.mem_cons_self
  have hread : Sample.saver.decode (Sample.saver.encode (.metadata false)) =
      some (.metadata false) := Sample.saver.decode_encode _
  have hasked : Sample.saver.askedFor Sample.lookup (fun id id' => decide (id < id'))
      (Sample.saver.after twoCheckpoints) (some [("source", .text true)])
      (none : Option (RunnableConfig Unit)) (Sample.saver.checkpointRow (Sample.config none)
        (.checkpoint false) (.metadata false) 0) = false := by
    show ((Sample.saver.decode (Sample.saver.encode (.metadata false))).any _ && _) = false
    rw [hread]
    rfl
  rw [hasked] at hfirst
  cases hfirst

end Saver

end SelfHealing
